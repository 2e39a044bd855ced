import Xash3d.Protocol.Cursor

/-!
# IP and socket addresses

The addresses of the standard library: how they are printed and how an IP address is parsed.
`SocketAddr.length_display_le` bounds the printed length.
-/

namespace Xash3d

open Lib

structure Ipv4Addr where
  octets : ByteArr 4
  deriving DecidableEq

structure Ipv6Addr where
  octets : ByteArr 16
  deriving DecidableEq

structure SocketAddrV4 where
  ip : Ipv4Addr
  port : UInt16
  deriving DecidableEq

structure SocketAddrV6 where
  ip : Ipv6Addr
  port : UInt16
  flowinfo : UInt32
  scopeId : UInt32
  deriving DecidableEq

inductive SocketAddr where
  | v4 (addr : SocketAddrV4)
  | v6 (addr : SocketAddrV6)
  deriving DecidableEq

/-! ## Printing -/

/-- Separate printed items by a byte. -/
def joinWith (sep : UInt8) (items : List Bytes) : Bytes := (items.intersperse [sep]).flatten

def Ipv4Addr.display (ip : Ipv4Addr) : Bytes :=
  joinWith 46 (ip.octets.1.map fun o => numeral 10 o.toNat)

namespace Ipv6Addr

/-- The pairs of octets as numbers. -/
def groups : Bytes → List ℕ
  | a :: b :: s => (a.toNat * 256 + b.toNat) :: groups s
  | _ => []

/-- The eight 16-bit segments. -/
def segments (ip : Ipv6Addr) : List ℕ := groups ip.octets.1

/-- The first longest run of zero segments, as start and length; `i` segments were read, the
current run and the longest so far are given. -/
def longestZeroes : List ℕ → ℕ → ℕ × ℕ → ℕ × ℕ → ℕ × ℕ
  | [], _, _, longest => longest
  | 0 :: s, i, current, longest =>
    let current := (if current.2 = 0 then i else current.1, current.2 + 1)
    longestZeroes s (i + 1) current (if current.2 > longest.2 then current else longest)
  | _ :: s, i, _, longest => longestZeroes s (i + 1) (0, 0) longest

def fmtSubslice (chunk : List ℕ) : Bytes := joinWith 58 (chunk.map (numeral 16))

def display (ip : Ipv6Addr) : Bytes :=
  if ip.octets.1.take 12 = List.replicate 10 0 ++ [0xff, 0xff] then
    ascii "::ffff:" ++ joinWith 46 ((ip.octets.1.drop 12).map fun o => numeral 10 o.toNat)
  else
    let zeroes := longestZeroes ip.segments 0 (0, 0) (0, 0)
    if zeroes.2 > 1 then
      fmtSubslice (ip.segments.take zeroes.1) ++ ascii "::" ++
        fmtSubslice (ip.segments.drop (zeroes.1 + zeroes.2))
    else fmtSubslice ip.segments

end Ipv6Addr

def SocketAddrV4.display (a : SocketAddrV4) : Bytes :=
  a.ip.display ++ ascii ":" ++ numeral 10 a.port.toNat

def SocketAddrV6.display (a : SocketAddrV6) : Bytes :=
  ascii "[" ++ a.ip.display ++
    (if a.scopeId = 0 then [] else ascii "%" ++ numeral 10 a.scopeId.toNat) ++
    ascii "]:" ++ numeral 10 a.port.toNat

def SocketAddr.display : SocketAddr → Bytes
  | .v4 a => a.display
  | .v6 a => a.display

/-! ### The length of a printed address -/

/-- Every item adds its length and all but the first a separator. -/
theorem length_joinWith_le (sep : UInt8) {n : ℕ} (items : List Bytes)
    (h : ∀ s ∈ items, s.length ≤ n) : (joinWith sep items).length ≤ (n + 1) * items.length - 1 := by
  unfold joinWith
  induction items with
  | nil => simp
  | cons s items ih =>
    have hs := h s (by simp)
    cases items with
    | nil => simpa using hs
    | cons s' items =>
      have hih := ih fun t ht => h t (by simp [ht])
      rw [List.intersperse_cons_cons, List.flatten_cons, List.flatten_cons]
      simp only [List.length_append, List.length_cons, List.length_nil] at hih ⊢
      rw [show (n + 1) * (items.length + 1 + 1) = (n + 1) * (items.length + 1) + (n + 1) by ring]
      have : 1 ≤ (n + 1) * (items.length + 1) := Nat.mul_pos (by omega) (by omega)
      omega

theorem length_octets_le (s : Bytes) :
    (joinWith 46 (s.map fun o => numeral 10 o.toNat)).length ≤ 4 * s.length - 1 := by
  have := length_joinWith_le 46 (n := 3) (s.map fun o => numeral 10 o.toNat) (by
    intro t ht
    obtain ⟨o, _, rfl⟩ := List.mem_map.1 ht
    exact length_numeral_le (by omega) (by omega) (by have := o.toNat_lt; omega))
  simpa using this

namespace Ipv6Addr

theorem length_groups : ∀ s : Bytes, (groups s).length = s.length / 2
  | [] => rfl
  | [_] => by simp [groups]
  | _ :: _ :: s => by simp [groups, length_groups s]; omega

theorem groups_lt : ∀ s : Bytes, ∀ g ∈ groups s, g < 16 ^ 4
  | [], _, h => by cases h
  | [_], _, h => by cases h
  | a :: b :: s, g, h => by
    have ha := a.toNat_lt
    have hb := b.toNat_lt
    rcases List.mem_cons.1 h with rfl | h
    · omega
    · exact groups_lt s g h

/-- The longest run lies within the segments read. -/
theorem longestZeroes_le (s : List ℕ) : ∀ (i : ℕ) (current longest : ℕ × ℕ),
    (current.2 = 0 ∨ current.1 + current.2 = i) → longest.1 + longest.2 ≤ i →
      (longestZeroes s i current longest).1 + (longestZeroes s i current longest).2 ≤
        i + s.length := by
  induction s with
  | nil => intro i current longest _ hl; exact hl
  | cons g s ih =>
    intro i current longest hc hl
    rw [List.length_cons, show i + (s.length + 1) = i + 1 + s.length by omega]
    rcases g with _ | g
    · rw [longestZeroes]
      refine ih _ _ _ (Or.inr ?_) ?_ <;> split_ifs <;> simp_all <;> omega
    · rw [longestZeroes.eq_3 _ _ _ _ _ (by simp)]
      exact ih _ _ _ (Or.inl rfl) (by omega)

theorem length_fmtSubslice_le (chunk : List ℕ) (h : ∀ g ∈ chunk, g < 16 ^ 4) :
    (fmtSubslice chunk).length ≤ 5 * chunk.length - 1 := by
  have := length_joinWith_le 58 (n := 4) (chunk.map (numeral 16)) (by
    intro t ht
    obtain ⟨g, hg, rfl⟩ := List.mem_map.1 ht
    exact length_numeral_le (by omega) (by omega) (h g hg))
  simpa [fmtSubslice] using this

theorem length_display_le (ip : Ipv6Addr) : ip.display.length ≤ 39 := by
  have hlen : ip.segments.length = 8 := by rw [segments, length_groups, ip.octets.2]
  have hlt : ∀ g ∈ ip.segments, g < 16 ^ 4 := groups_lt _
  unfold display
  split_ifs with h1
  · have h := length_octets_le (ip.octets.1.drop 12)
    have h7 : (ascii "::ffff:").length = 7 := by decide
    have hd : (ip.octets.1.drop 12).length = 4 := by rw [List.length_drop, ip.octets.2]
    rw [List.length_append, h7]
    omega
  · have hz := longestZeroes_le ip.segments 0 (0, 0) (0, 0) (Or.inl rfl) (by simp)
    set z := longestZeroes ip.segments 0 (0, 0) (0, 0)
    show (if z.2 > 1 then _ else _ : Bytes).length ≤ 39
    split_ifs with h2
    swap
    · have := length_fmtSubslice_le _ hlt
      omega
    have ha := length_fmtSubslice_le (ip.segments.take z.1) fun g hg =>
      hlt g (List.mem_of_mem_take hg)
    have hb := length_fmtSubslice_le (ip.segments.drop (z.1 + z.2)) fun g hg =>
      hlt g (List.mem_of_mem_drop hg)
    have h2' : (ascii "::").length = 2 := by decide
    simp only [List.length_append, List.length_take, List.length_drop, hlen, h2'] at ha hb hz ⊢
    omega

end Ipv6Addr

/-- A printed address has at most 58 bytes. -/
theorem SocketAddr.length_display_le (a : SocketAddr) : a.display.length ≤ 58 := by
  have h1 : (ascii ":").length = 1 := by decide
  have h2 : (ascii "[").length = 1 := by decide
  have h3 : (ascii "%").length = 1 := by decide
  have h4 : (ascii "]:").length = 2 := by decide
  have hport : ∀ p : UInt16, (numeral 10 p.toNat).length ≤ 5 := fun p =>
    length_numeral_le (by omega) (by omega) (by have := p.toNat_lt; omega)
  cases a with
  | v4 a =>
    have ho := length_octets_le a.ip.octets.1
    have hp := hport a.port
    rw [a.ip.octets.2] at ho
    simp only [display, SocketAddrV4.display, Ipv4Addr.display, List.length_append, h1]
    omega
  | v6 a =>
    have hi := a.ip.length_display_le
    have hp := hport a.port
    have hs : (numeral 10 a.scopeId.toNat).length ≤ 10 :=
      length_numeral_le (by omega) (by omega) (by have := a.scopeId.toNat_lt; omega)
    simp only [display, SocketAddrV6.display]
    split_ifs <;> simp only [List.length_append, List.length_nil, h2, h3, h4] <;> omega

/-! ### The bytes of a printed address -/

theorem mem_joinWith {sep c : UInt8} {items : List Bytes} (h : c ∈ joinWith sep items) :
    c = sep ∨ ∃ s ∈ items, c ∈ s := by
  unfold joinWith at h
  induction items with
  | nil => cases h
  | cons s items ih =>
    cases items with
    | nil =>
      right
      exact ⟨s, by simp, by simpa using h⟩
    | cons s' items =>
      rw [List.intersperse_cons_cons, List.flatten_cons, List.flatten_cons, List.mem_append,
        List.mem_append] at h
      rcases h with h | h | h
      · exact Or.inr ⟨s, by simp, h⟩
      · exact Or.inl (List.mem_singleton.1 h)
      · refine (ih h).imp_right ?_
        rintro ⟨t, ht, hc⟩
        exact ⟨t, List.mem_cons_of_mem s ht, hc⟩

/-- A digit, a dot, a colon, a bracket or a percent sign. -/
def IsAddrByte (c : UInt8) : Prop := IsDigit c ∨ c = 46 ∨ c = 58 ∨ c = 91 ∨ c = 93 ∨ c = 37

instance : DecidablePred IsAddrByte := fun _ => inferInstanceAs (Decidable (_ ∨ _))

theorem isAddrByte_numeral {radix n : ℕ} (hr : 1 < radix) (hr' : radix ≤ 16) {c : UInt8}
    (h : c ∈ numeral radix n) : IsAddrByte c := Or.inl (isDigit_of_mem_numeral hr hr' h)

theorem isAddrByte_numerals {radix : ℕ} (hr : 1 < radix) (hr' : radix ≤ 16) {sep c : UInt8}
    (hsep : IsAddrByte sep) {ns : List ℕ} (h : c ∈ joinWith sep (ns.map (numeral radix))) :
    IsAddrByte c := by
  rcases mem_joinWith h with rfl | ⟨s, hs, hc⟩
  · exact hsep
  · obtain ⟨n, -, rfl⟩ := List.mem_map.1 hs
    exact isAddrByte_numeral hr hr' hc

theorem isAddrByte_octets {s : Bytes} {c : UInt8}
    (h : c ∈ joinWith 46 (s.map fun o => numeral 10 o.toNat)) : IsAddrByte c := by
  have hmap : s.map (fun o => numeral 10 o.toNat) = (s.map UInt8.toNat).map (numeral 10) := by
    rw [List.map_map]
    rfl
  rw [hmap] at h
  exact isAddrByte_numerals (by omega) (by omega) (by decide) h

theorem Ipv6Addr.isAddrByte {ip : Ipv6Addr} {c : UInt8} (h : c ∈ ip.display) : IsAddrByte c := by
  have hmapped : ∀ c ∈ ascii "::ffff:", IsAddrByte c := by decide +kernel
  have hgap : ∀ c ∈ ascii "::", IsAddrByte c := by decide +kernel
  have hgroups : ∀ gs : List ℕ, c ∈ fmtSubslice gs → IsAddrByte c := fun gs hc =>
    isAddrByte_numerals (by omega) (by omega) (by decide) hc
  unfold display at h
  split_ifs at h with h1
  · rcases List.mem_append.1 h with h | h
    · exact hmapped c h
    · exact isAddrByte_octets h
  · dsimp only at h
    split_ifs at h with h2
    · rcases List.mem_append.1 h with h | h
      · rcases List.mem_append.1 h with h | h
        · exact hgroups _ h
        · exact hgap c h
      · exact hgroups _ h
    · exact hgroups _ h

/-- A printed address has no other bytes. -/
theorem SocketAddr.isAddrByte {a : SocketAddr} {c : UInt8} (h : c ∈ a.display) : IsAddrByte c := by
  have hopen : ∀ c ∈ ascii "[", IsAddrByte c := by decide +kernel
  have hclose : ∀ c ∈ ascii "]:", IsAddrByte c := by decide +kernel
  have hcolon : ∀ c ∈ ascii ":", IsAddrByte c := by decide +kernel
  have hscope : ∀ c ∈ ascii "%", IsAddrByte c := by decide +kernel
  have hdec : ∀ n, c ∈ numeral 10 n → IsAddrByte c := fun n hc =>
    isAddrByte_numeral (by omega) (by omega) hc
  cases a with
  | v4 a =>
    simp only [display, SocketAddrV4.display, Ipv4Addr.display, List.mem_append] at h
    rcases h with (h | h) | h
    · exact isAddrByte_octets h
    · exact hcolon c h
    · exact hdec _ h
  | v6 a =>
    simp only [display, SocketAddrV6.display, List.mem_append] at h
    rcases h with (((h | h) | h) | h) | h
    · exact hopen c h
    · exact Ipv6Addr.isAddrByte h
    · split_ifs at h with h0
      · cases h
      · rcases List.mem_append.1 h with h | h
        · exact hscope c h
        · exact hdec _ h
    · exact hclose c h
    · exact hdec _ h

/-! ## Parsing -/

/-- Read a number of at most `maxDigits` digits and value at most `max`. -/
def readNumber (radix maxDigits max : ℕ) (allowZeroPrefix : Bool) (s : Bytes) :
    Option (ℕ × Bytes) := do
  let digits := s.takeWhile fun c => (toDigit radix c).isSome
  if digits.length > maxDigits then none
  else if digits.length = 0 then none
  else if !allowZeroPrefix && s.head? == some 48 && digits.length > 1 then none
  else
    let n ← parseDigits radix digits 0
    if n ≤ max then some (n, s.drop digits.length) else none

/-- Read an item of a list, preceded by a separator unless it is the first. -/
def readSeparator {α : Type} (sep : UInt8) (index : ℕ) (inner : Bytes → Option (α × Bytes))
    (s : Bytes) : Option (α × Bytes) :=
  if index > 0 then
    match s with
    | c :: s => if c = sep then inner s else none
    | [] => none
  else inner s

/-- Read the octets of an IPv4 address. -/
def readIpv4Addr (s : Bytes) : Option (ByteArr 4 × Bytes) := do
  let octet := readNumber 10 3 255 false
  let (a, s) ← readSeparator 46 0 octet s
  let (b, s) ← readSeparator 46 1 octet s
  let (c, s) ← readSeparator 46 2 octet s
  let (d, s) ← readSeparator 46 3 octet s
  return (⟨[UInt8.ofNat a, UInt8.ofNat b, UInt8.ofNat c, UInt8.ofNat d], rfl⟩, s)

def Ipv4Addr.fromStr (s : Bytes) : Option Ipv4Addr :=
  if s.length > 15 then none
  else match readIpv4Addr s with
    | some (octets, []) => some ⟨octets⟩
    | _ => none

namespace Ipv6Addr

/-- Read `n` more of `limit` groups, the last two of which may be an IPv4 address; the flag tells
whether they were. -/
def readGroups (limit : ℕ) : ℕ → List ℕ → Bytes → List ℕ × Bool × Bytes
  | 0, acc, s => (acc, false, s)
  | n + 1, acc, s =>
    let ipv4 :=
      if acc.length < limit - 1 then readSeparator 58 acc.length readIpv4Addr s else none
    match ipv4 with
    | some (octets, s) => (acc ++ groups octets.1, true, s)
    | none =>
      match readSeparator 58 acc.length (readNumber 16 4 65535 true) s with
      | some (g, s) => readGroups limit n (acc ++ [g]) s
      | none => (acc, false, s)

/-- The address of eight groups. -/
def ofGroups (gs : List ℕ) : Option Ipv6Addr :=
  let octets := gs.flatMap fun g => u16Be (UInt16.ofNat g)
  if h : octets.length = 16 then some ⟨⟨octets, h⟩⟩ else none

def fromStr (s : Bytes) : Option Ipv6Addr := do
  let (head, headIpv4, s) := readGroups 8 8 [] s
  if head.length = 8 then
    if s = [] then ofGroups head else none
  else if headIpv4 then none
  else if (ascii "::").isPrefixOf s then
    let limit := 8 - (head.length + 1)
    let (tail, _, s) := readGroups limit limit [] (s.drop 2)
    if s = [] then
      ofGroups (head ++ List.replicate (8 - head.length - tail.length) 0 ++ tail)
    else none
  else none

end Ipv6Addr

/-- A compressed, a mapped and a malformed address. -/
example :
    (Ipv6Addr.fromStr (ascii "2001:db8::1:0:0:1")).map Ipv6Addr.display
      = some (ascii "2001:db8::1:0:0:1") ∧
    (Ipv6Addr.fromStr (ascii "::ffff:1.2.3.4")).map Ipv6Addr.display
      = some (ascii "::ffff:1.2.3.4") ∧
    Ipv4Addr.fromStr (ascii "1.2.03.4") = none := by decide +kernel

end Xash3d
