import Mathlib

/-!
# Byte strings and numerals

Byte strings as lists, the fixed-width little- and big-endian words, the numerals of a radix
with the parser that reads them back, and the UTF-8 check.

* `ofLe_leBytes`: reading a little-endian word undoes writing it.
* `parseUnsigned_numeral`: parsing an unsigned numeral undoes printing it.
-/

namespace Xash3d.Lib

/-- A byte string. -/
abbrev Bytes := List UInt8

/-- The bytes of an ASCII literal. -/
def ascii (s : String) : Bytes := s.toList.map fun c => UInt8.ofNat c.toNat

/-- An array of `n` bytes. -/
abbrev ByteArr (n : ℕ) := {s : Bytes // s.length = n}

/-! ## Words -/

/-- The `n` little-endian bytes of a number. -/
def leBytes : ℕ → ℕ → Bytes
  | 0, _ => []
  | n + 1, v => UInt8.ofNat v :: leBytes n (v / 256)

/-- The number of a little-endian byte string. -/
def ofLe : Bytes → ℕ
  | [] => 0
  | b :: s => b.toNat + 256 * ofLe s

@[simp] theorem length_leBytes (n v : ℕ) : (leBytes n v).length = n := by
  induction n generalizing v with
  | zero => rfl
  | succ n ih => simp [leBytes, ih]

theorem ofLe_leBytes (n v : ℕ) : ofLe (leBytes n v) = v % 256 ^ n := by
  induction n generalizing v with
  | zero => simp [leBytes, ofLe, Nat.mod_one]
  | succ n ih =>
    simp only [leBytes, ofLe, ih, UInt8.toNat_ofNat', Nat.pow_succ']
    exact (Nat.mod_mul (x := v) (a := 256) (b := 256 ^ n)).symm

theorem ofLe_lt (s : Bytes) : ofLe s < 256 ^ s.length := by
  induction s with
  | nil => simp [ofLe]
  | cons b s ih =>
    have hb := b.toNat_lt
    simp only [ofLe, List.length_cons, Nat.pow_succ']
    omega

theorem leBytes_ofLe (s : Bytes) : leBytes s.length (ofLe s) = s := by
  induction s with
  | nil => rfl
  | cons b s ih =>
    have hb := b.toNat_lt
    have hmod : (b.toNat + 256 * ofLe s) % 2 ^ 8 = b.toNat := by omega
    have hdiv : (b.toNat + 256 * ofLe s) / 256 = ofLe s := by omega
    rw [List.length_cons, leBytes, ofLe, hdiv, ih, List.cons.injEq]
    refine ⟨?_, rfl⟩
    apply UInt8.toNat_inj.1
    rw [UInt8.toNat_ofNat', hmod]

/-- The little-endian bytes of a 32-bit word. -/
def u32Le (v : UInt32) : Bytes := leBytes 4 v.toNat

/-- The 32-bit word of four little-endian bytes. -/
def ofU32Le (s : Bytes) : UInt32 := UInt32.ofNat (ofLe s)

@[simp] theorem length_u32Le (v : UInt32) : (u32Le v).length = 4 := length_leBytes 4 _

@[simp] theorem ofU32Le_u32Le (v : UInt32) : ofU32Le (u32Le v) = v := by
  unfold ofU32Le u32Le
  rw [ofLe_leBytes, Nat.mod_eq_of_lt (show v.toNat < 256 ^ 4 from v.toNat_lt), UInt32.ofNat_toNat]

/-- The little-endian bytes of a 16-bit word. -/
def u16Le (v : UInt16) : Bytes := leBytes 2 v.toNat

/-- The 16-bit word of two little-endian bytes. -/
def ofU16Le (s : Bytes) : UInt16 := UInt16.ofNat (ofLe s)

@[simp] theorem length_u16Le (v : UInt16) : (u16Le v).length = 2 := length_leBytes 2 _

@[simp] theorem ofU16Le_u16Le (v : UInt16) : ofU16Le (u16Le v) = v := by
  unfold ofU16Le u16Le
  rw [ofLe_leBytes, Nat.mod_eq_of_lt (show v.toNat < 256 ^ 2 from v.toNat_lt), UInt16.ofNat_toNat]

/-- Any two bytes are the bytes of a word. -/
theorem u16Le_ofU16Le {s : Bytes} (hs : s.length = 2) : u16Le (ofU16Le s) = s := by
  have hlt : ofLe s < 2 ^ 16 := by
    have h := ofLe_lt s
    rw [hs] at h
    omega
  unfold u16Le ofU16Le
  rw [UInt16.toNat_ofNat', Nat.mod_eq_of_lt hlt, ← hs, leBytes_ofLe]

theorem u32Le_ofU32Le {s : Bytes} (hs : s.length = 4) : u32Le (ofU32Le s) = s := by
  have hlt : ofLe s < 2 ^ 32 := by
    have h := ofLe_lt s
    rw [hs] at h
    omega
  unfold u32Le ofU32Le
  rw [UInt32.toNat_ofNat', Nat.mod_eq_of_lt hlt, ← hs, leBytes_ofLe]

/-- The little-endian bytes of a 64-bit word. -/
def u64Le (v : UInt64) : Bytes := leBytes 8 v.toNat

/-- The 64-bit word of eight little-endian bytes. -/
def ofU64Le (s : Bytes) : UInt64 := UInt64.ofNat (ofLe s)

@[simp] theorem length_u64Le (v : UInt64) : (u64Le v).length = 8 := length_leBytes 8 _

@[simp] theorem ofU64Le_u64Le (v : UInt64) : ofU64Le (u64Le v) = v := by
  unfold ofU64Le u64Le
  rw [ofLe_leBytes, Nat.mod_eq_of_lt (show v.toNat < 256 ^ 8 from v.toNat_lt), UInt64.ofNat_toNat]

theorem u64Le_ofU64Le {s : Bytes} (hs : s.length = 8) : u64Le (ofU64Le s) = s := by
  have hlt : ofLe s < 2 ^ 64 := by
    have h := ofLe_lt s
    rw [hs] at h
    omega
  unfold u64Le ofU64Le
  rw [UInt64.toNat_ofNat', Nat.mod_eq_of_lt hlt, ← hs, leBytes_ofLe]

/-- The big-endian bytes of a 16-bit word. -/
def u16Be (v : UInt16) : Bytes := (leBytes 2 v.toNat).reverse

/-- The 16-bit word of two big-endian bytes. -/
def ofU16Be (s : Bytes) : UInt16 := UInt16.ofNat (ofLe s.reverse)

@[simp] theorem length_u16Be (v : UInt16) : (u16Be v).length = 2 := by simp [u16Be]

@[simp] theorem ofU16Be_u16Be (v : UInt16) : ofU16Be (u16Be v) = v := by
  unfold ofU16Be u16Be
  rw [List.reverse_reverse, ofLe_leBytes, Nat.mod_eq_of_lt (show v.toNat < 256 ^ 2 from v.toNat_lt),
    UInt16.ofNat_toNat]

/-! ## Numerals -/

/-- The digits of `n` in a radix, most significant first, in lower case. -/
def numeral (radix n : ℕ) : Bytes := (Nat.toDigits radix n).map fun c => UInt8.ofNat c.toNat

/-- The value of a digit byte in a radix of at most 36, in either case. -/
def toDigit (radix : ℕ) (c : UInt8) : Option ℕ :=
  let v :=
    if 48 ≤ c ∧ c ≤ 57 then c.toNat - 48
    else if 97 ≤ c ∧ c ≤ 122 then c.toNat - 87
    else if 65 ≤ c ∧ c ≤ 90 then c.toNat - 55
    else radix
  if v < radix then some v else none

/-- The value of a string of digits, continuing from `acc`. -/
def parseDigits (radix : ℕ) : Bytes → ℕ → Option ℕ
  | [], acc => some acc
  | c :: s, acc => (toDigit radix c).bind fun d => parseDigits radix s (acc * radix + d)

/-- Parse an unsigned number of at most `max`: an optional plus sign and at least one digit. -/
def parseUnsigned (max radix : ℕ) (s : Bytes) : Option ℕ :=
  let digits := match s with
    | [] => none
    | [c] => if c = 43 ∨ c = 45 then none else parseDigits radix [c] 0
    | c :: s => if c = 43 then parseDigits radix s 0 else parseDigits radix (c :: s) 0
  digits.filter (· ≤ max)

theorem numeral_of_lt {radix n : ℕ} (h : n < radix) :
    numeral radix n = [UInt8.ofNat n.digitChar.toNat] := by
  simp [numeral, Nat.toDigits_of_lt_base h]

theorem numeral_of_le {radix n : ℕ} (hr : 1 < radix) (h : radix ≤ n) :
    numeral radix n = numeral radix (n / radix) ++ [UInt8.ofNat (n % radix).digitChar.toNat] := by
  simp [numeral, Nat.toDigits_of_base_le hr h]

theorem numeral_ne_nil (radix n : ℕ) : numeral radix n ≠ [] := by
  simp [numeral, Nat.toDigits_ne_nil]

theorem length_numeral_le {radix n k : ℕ} (hr : 1 < radix) (hk : 0 < k) (h : n < radix ^ k) :
    (numeral radix n).length ≤ k := by
  rw [numeral, List.length_map]
  exact (Nat.length_toDigits_le_iff hr hk).2 h

/-- A digit byte: a decimal digit or a letter from `a` to `f`. -/
def IsDigit (c : UInt8) : Prop := (48 ≤ c ∧ c ≤ 57) ∨ (97 ≤ c ∧ c ≤ 102)

instance : DecidablePred IsDigit := fun _ => inferInstanceAs (Decidable (_ ∨ _))

theorem IsDigit.lt {c : UInt8} (h : IsDigit c) : c < 0x80 := by
  unfold IsDigit at h
  rw [UInt8.lt_iff_toNat_lt]
  simp only [UInt8.le_iff_toNat_le] at h
  rcases h with ⟨_, h⟩ | ⟨_, h⟩ <;> exact lt_of_le_of_lt h (by decide)

theorem digitByte_spec : ∀ d < 16, IsDigit (UInt8.ofNat (Nat.digitChar d).toNat) ∧
    toDigit 16 (UInt8.ofNat (Nat.digitChar d).toNat) = some d ∧
    (d < 10 → toDigit 10 (UInt8.ofNat (Nat.digitChar d).toNat) = some d) := by decide

theorem isDigit_of_mem_numeral {radix n : ℕ} (hr : 1 < radix) (hr' : radix ≤ 16) {c : UInt8}
    (hc : c ∈ numeral radix n) : IsDigit c := by
  induction n using Nat.strong_induction_on with
  | _ n ih =>
    by_cases h : n < radix
    · rw [numeral_of_lt h, List.mem_singleton] at hc
      rw [hc]
      exact (digitByte_spec n (by omega)).1
    · rw [numeral_of_le hr (by omega), List.mem_append, List.mem_singleton] at hc
      rcases hc with hc | rfl
      · exact ih _ (Nat.div_lt_self (by omega) hr) hc
      · exact (digitByte_spec _ (by have := Nat.mod_lt n (y := radix) (by omega); omega)).1

theorem parseDigits_append (radix : ℕ) (s t : Bytes) (acc : ℕ) :
    parseDigits radix (s ++ t) acc = (parseDigits radix s acc).bind (parseDigits radix t) := by
  induction s generalizing acc with
  | nil => rfl
  | cons c s ih =>
    simp only [List.cons_append, parseDigits]
    cases toDigit radix c with
    | none => rfl
    | some d => exact ih _

/-- The digits of a numeral have the value of the number, in radix ten and sixteen. -/
theorem parseDigits_numeral {radix : ℕ} (hr : radix = 10 ∨ radix = 16) (n : ℕ) :
    parseDigits radix (numeral radix n) 0 = some n := by
  have hd : ∀ d < radix, toDigit radix (UInt8.ofNat (Nat.digitChar d).toNat) = some d := by
    rcases hr with rfl | rfl
    · exact fun d hd => (digitByte_spec d (by omega)).2.2 hd
    · exact fun d hd => (digitByte_spec d hd).2.1
  induction n using Nat.strong_induction_on with
  | _ n ih =>
    by_cases h : n < radix
    · rw [numeral_of_lt h]
      simp [parseDigits, hd n h]
    · have hmod := Nat.mod_lt n (y := radix) (by omega)
      rw [numeral_of_le (by omega) (by omega), parseDigits_append,
        ih _ (Nat.div_lt_self (by omega) (by omega))]
      simp [parseDigits, hd _ hmod, Nat.div_add_mod']

/-- Parsing an unsigned numeral undoes printing it. -/
theorem parseUnsigned_numeral {max radix n : ℕ} (hr : radix = 10 ∨ radix = 16) (h : n ≤ max) :
    parseUnsigned max radix (numeral radix n) = some n := by
  have hdig : ∀ c ∈ numeral radix n, c ≠ 43 ∧ c ≠ 45 := by
    intro c hc
    have := isDigit_of_mem_numeral (by omega) (by omega) hc
    constructor <;> rintro rfl <;> revert this <;> decide
  have hval := parseDigits_numeral hr n
  unfold parseUnsigned
  rcases hs : numeral radix n with _ | ⟨c, _ | ⟨c', s⟩⟩
  · exact absurd hs (numeral_ne_nil _ _)
  all_goals
    have hc := hdig c (by simp [hs])
    rw [hs] at hval
    simp [hc.1, hc.2, hval, h]

/-! ## UTF-8 -/

/-- A continuation byte. -/
def isCont (c : UInt8) : Bool := 0x80 ≤ c && c ≤ 0xBF

/-- The byte string is valid UTF-8. -/
def isUtf8 : Bytes → Bool
  | [] => true
  | a :: s =>
    if a < 0x80 then isUtf8 s
    else match s with
      | [] => false
      | b :: s =>
        if 0xC2 ≤ a && a ≤ 0xDF then isCont b && isUtf8 s
        else match s with
          | [] => false
          | c :: s =>
            if (a == 0xE0 && 0xA0 ≤ b && b ≤ 0xBF) || (0xE1 ≤ a && a ≤ 0xEC && isCont b) ||
                (a == 0xED && 0x80 ≤ b && b ≤ 0x9F) || (0xEE ≤ a && a ≤ 0xEF && isCont b) then
              isCont c && isUtf8 s
            else match s with
              | [] => false
              | d :: s =>
                if (a == 0xF0 && 0x90 ≤ b && b ≤ 0xBF) || (0xF1 ≤ a && a ≤ 0xF3 && isCont b) ||
                    (a == 0xF4 && 0x80 ≤ b && b ≤ 0x8F) then
                  isCont c && isCont d && isUtf8 s
                else false

theorem isUtf8_of_ascii {s : Bytes} (h : ∀ c ∈ s, c < 0x80) : isUtf8 s = true := by
  induction s with
  | nil => rfl
  | cons c s ih =>
    unfold isUtf8
    rw [if_pos (h c (by simp))]
    exact ih fun d hd => h d (by simp [hd])

/-- The second byte of a character of three bytes. -/
def isSecond3 (a b : UInt8) : Bool :=
  (a == 0xE0 && 0xA0 ≤ b && b ≤ 0xBF) || (0xE1 ≤ a && a ≤ 0xEC && isCont b) ||
    (a == 0xED && 0x80 ≤ b && b ≤ 0x9F) || (0xEE ≤ a && a ≤ 0xEF && isCont b)

/-- The second byte of a character of four bytes. -/
def isSecond4 (a b : UInt8) : Bool :=
  (a == 0xF0 && 0x90 ≤ b && b ≤ 0xBF) || (0xF1 ≤ a && a ≤ 0xF3 && isCont b) ||
    (a == 0xF4 && 0x80 ≤ b && b ≤ 0x8F)

/-- The replacement character. -/
def replacement : Bytes := [0xEF, 0xBF, 0xBD]

/-- Every piece of the byte string that starts no character, or breaks one off, is replaced. -/
def utf8Lossy : Bytes → Bytes
  | [] => []
  | a :: s =>
    if a < 0x80 then a :: utf8Lossy s
    else match s with
      | [] => replacement
      | b :: s =>
        if 0xC2 ≤ a && a ≤ 0xDF && isCont b then a :: b :: utf8Lossy s
        else if isSecond3 a b then
          match s with
          | [] => replacement
          | c :: s =>
            if isCont c then a :: b :: c :: utf8Lossy s
            else replacement ++ utf8Lossy (c :: s)
        else if isSecond4 a b then
          match s with
          | [] => replacement
          | c :: s =>
            if isCont c then
              match s with
              | [] => replacement
              | d :: s =>
                if isCont d then a :: b :: c :: d :: utf8Lossy s
                else replacement ++ utf8Lossy (d :: s)
            else replacement ++ utf8Lossy (c :: s)
        else replacement ++ utf8Lossy (b :: s)

/-- Two, three and four byte characters, and an overlong, a surrogate and a truncated one. -/
example : isUtf8 [0xC3, 0xA9, 0xE2, 0x82, 0xAC, 0xF0, 0x9F, 0x98, 0x80] = true ∧
    isUtf8 [0xC0, 0xAF] = false ∧ isUtf8 [0xED, 0xA0, 0x80] = false ∧
    isUtf8 [0xE2, 0x82] = false ∧
    utf8Lossy [0x61, 0xE2, 0x82, 0x62, 0xC0, 0xF0, 0x9F, 0x98] =
      [0x61] ++ replacement ++ [0x62] ++ replacement ++ replacement := by decide

end Xash3d.Lib
