import Xash3d.Protocol.SocketAddr

/-!
# Master server packets

`ServerAddress` is the trait of the addresses in a server list, with the laws its two
implementations satisfy. A list is written by `QueryServersResponse.encode`, one page at a time,
and read back by `iter`:

* `encode_spec`: a page holds a prefix of the list, which is not empty when the buffer holds two
  addresses;
* `iter_page`: reading a page gives back that prefix.
-/

namespace Xash3d

open Lib

/-- Master server challenge response packet. -/
structure ChallengeResponse where
  masterChallenge : UInt32
  serverChallenge : Option UInt32
  deriving DecidableEq

namespace ChallengeResponse

def header : Bytes := [0xff, 0xff, 0xff, 0xff] ++ ascii "s\n"

open CursorMut in
def encode (cap : ℕ) (r : ChallengeResponse) : Except ProtocolError Bytes :=
  encodeTo cap <|
    putBytes header >=>
    putU32Le r.masterChallenge >=>
    match r.serverChallenge with
    | some serverChallenge => putU32Le serverChallenge
    | none => .ok

/-- The bytes of the packet. -/
def wire (r : ChallengeResponse) : Bytes :=
  header ++ (u32Le r.masterChallenge ++ (r.serverChallenge.map u32Le).getD [])

/-- The packet fits in the buffer the master server uses. -/
theorem encode_eq (r : ChallengeResponse) : r.encode 32 = .ok r.wire := by
  have hh : header.length = 6 := by decide
  have hw : Writes (match r.serverChallenge with
      | some serverChallenge => CursorMut.putU32Le serverChallenge
      | none => .ok) ((r.serverChallenge.map u32Le).getD []) := by
    cases r.serverChallenge with
    | none => exact fun c => (Writes.putBytes_nil c).symm
    | some c => exact Writes.putU32Le c
  rw [encode, ((Writes.putBytes header).seq ((Writes.putU32Le r.masterChallenge).seq hw)).run]
  refine if_pos ?_
  cases r.serverChallenge <;> simp [hh]

end ChallengeResponse

/-! ## Server addresses -/

/-- Addresses of game servers: their size on the wire, reading and writing. -/
class ServerAddress (A : Type) where
  size : ℕ
  get : Read ProtocolError A
  put : A → Put
  /-- The bytes of an address. -/
  wire : A → Bytes
  /-- The address a reader gets back. -/
  seen : A → A
  length_wire : ∀ a, (wire a).length = size
  writes_put : ∀ a, Writes (put a) (wire a)
  get_wire : ∀ a pre t, get (.after pre (wire a ++ t)) = (.ok (seen a), .after (pre ++ wire a) t)
  get_ok_lt : ∀ {c c' a}, get c = (.ok a, c') → c'.remaining < c.remaining
  size_pos : 2 < size
  size_le : size ≤ 18

theorem getArray_ok {n : ℕ} {c c' : Cursor} {a : ByteArr n}
    (h : Cursor.getArray n c = (.ok a, c')) :
    c.pos + n ≤ c.buffer.length ∧ c' = { c with pos := c.pos + n } := by
  unfold Cursor.getArray at h
  by_cases hle : c.pos + n ≤ c.buffer.length
  · rw [dif_pos hle] at h
    exact ⟨hle, (Prod.mk.inj h).2.symm⟩
  · rw [dif_neg hle] at h
    cases h

theorem getU16Be_ok {c c' : Cursor} {v : UInt16} (h : Cursor.getU16Be c = (.ok v, c')) :
    c.pos + 2 ≤ c.buffer.length ∧ c' = { c with pos := c.pos + 2 } := by
  unfold Cursor.getU16Be at h
  rw [Read.bind_apply] at h
  by_cases hle : c.pos + 2 ≤ c.buffer.length
  · simp only [Cursor.getBytes, hle, if_true, Read.pure_apply, Prod.mk.injEq] at h
    exact ⟨hle, h.2.symm⟩
  · simp [Cursor.getBytes, hle] at h

/-- Reading an array and a port. -/
def getAddr (n : ℕ) : Read ProtocolError (ByteArr n × UInt16) := do
  let octets ← (Cursor.getArray n).lift
  let port ← Cursor.getU16Be.lift
  return (octets, port)

theorem getAddr_wire {n : ℕ} (o : ByteArr n) (p : UInt16) (pre t : Bytes) :
    getAddr n (.after pre ((o.1 ++ u16Be p) ++ t)) =
      (.ok (o, p), .after (pre ++ (o.1 ++ u16Be p)) t) := by
  unfold getAddr
  rw [List.append_assoc, Read.bind_ok (Read.lift_ok (Cursor.getArray_after pre _ o)),
    Read.bind_ok (Read.lift_ok (Cursor.getU16Be_after _ _ p)), List.append_assoc]
  rfl

theorem getAddr_ok_lt {n : ℕ} {c c' : Cursor} {x : ByteArr n × UInt16}
    (h : getAddr n c = (.ok x, c')) : c'.remaining < c.remaining := by
  unfold getAddr at h
  obtain ⟨o, c1, ho, h⟩ := Read.bind_eq_ok h
  obtain ⟨p, c2, hp, h⟩ := Read.bind_eq_ok h
  obtain ⟨_, h1⟩ := getArray_ok (Read.lift_eq_ok ho)
  obtain ⟨h2, h3⟩ := getU16Be_ok (Read.lift_eq_ok hp)
  cases h
  rw [h3]
  rw [h1] at h2 ⊢
  simp only [Cursor.remaining] at h2 ⊢
  omega

/-- An address without what the wire does not carry. -/
def SocketAddrV6.seen (a : SocketAddrV6) : SocketAddrV6 := { a with flowinfo := 0, scopeId := 0 }

instance : ServerAddress SocketAddrV4 where
  size := 6
  get := do
    let (octets, port) ← getAddr 4
    return ⟨⟨octets⟩, port⟩
  put a := CursorMut.putBytes a.ip.octets.1 >=> CursorMut.putU16Be a.port
  wire a := a.ip.octets.1 ++ u16Be a.port
  seen a := a
  length_wire a := by simp [a.ip.octets.2]
  writes_put a := (Writes.putBytes _).seq (Writes.putU16Be _)
  get_wire a pre t := Read.bind_ok (getAddr_wire a.ip.octets a.port pre t)
  get_ok_lt {c c' a} h := by
    rw [Read.bind_apply] at h
    rcases hg : getAddr 4 c with ⟨r, c1⟩
    rw [hg] at h
    cases r with
    | error e => cases h
    | ok x => cases h; exact getAddr_ok_lt hg
  size_pos := by decide
  size_le := by decide

instance : ServerAddress SocketAddrV6 where
  size := 18
  get := do
    let (octets, port) ← getAddr 16
    return ⟨⟨octets⟩, port, 0, 0⟩
  put a := CursorMut.putBytes a.ip.octets.1 >=> CursorMut.putU16Be a.port
  wire a := a.ip.octets.1 ++ u16Be a.port
  seen := SocketAddrV6.seen
  length_wire a := by simp [a.ip.octets.2]
  writes_put a := (Writes.putBytes _).seq (Writes.putU16Be _)
  get_wire a pre t := Read.bind_ok (getAddr_wire a.ip.octets a.port pre t)
  get_ok_lt {c c' a} h := by
    rw [Read.bind_apply] at h
    rcases hg : getAddr 16 c with ⟨r, c1⟩
    rw [hg] at h
    cases r with
    | error e => cases h
    | ok x => cases h; exact getAddr_ok_lt hg
  size_pos := by decide
  size_le := by decide

/-! ## Server lists -/

/-- Game server addresses list. -/
structure QueryServersResponse where
  inner : Bytes
  key : Option UInt32
  deriving DecidableEq

namespace QueryServersResponse

def header : Bytes := [0xff, 0xff, 0xff, 0xff] ++ ascii "f\n"

def decode (src : Bytes) : Except ProtocolError QueryServersResponse := Read.run (do
  (Cursor.expect header).lift
  let s ← Cursor.rest
  -- extra header for the key sent in a query
  if s.length ≥ 6 ∧ s[0]? = some 0x7f ∧ s[5]? = some 8 then
    return ⟨s.drop 6, some (ofU32Le ((s.drop 1).take 4))⟩
  else return ⟨s, none⟩) src

/-- Returns `true` if game server addresses list is empty. -/
def isEmpty (r : QueryServersResponse) : Bool := r.inner.isEmpty

variable {A : Type} [ServerAddress A]

open ServerAddress

/-- One step of the address iterator. -/
def next (A : Type) [ServerAddress A] (cur : Cursor) : Option A × Cursor :=
  -- skip last address with port 0
  if cur.remaining = size A ∧ [0, 0].isSuffixOf cur.asSlice then (none, cur)
  else match get (A := A) cur with
    | (.ok a, cur) => (some a, cur)
    | (.error _, cur) => (none, cur)

theorem next_some_lt {cur cur' : Cursor} {a : A} (h : next A cur = (some a, cur')) :
    cur'.remaining < cur.remaining := by
  unfold next at h
  split at h
  · cases h
  · split at h
    · rename_i hg; cases h; exact get_ok_lt hg
    · cases h

/-- The addresses from a cursor up to the end of the iteration. -/
def iterFrom (A : Type) [ServerAddress A] (cur : Cursor) : List A :=
  match _h : next A cur with
  | (some a, cur') => a :: iterFrom A cur'
  | (none, _) => []
termination_by cur.remaining
decreasing_by exact next_some_lt _h

/-- Game server addresses, in order. -/
def iter (A : Type) [ServerAddress A] (r : QueryServersResponse) : List A :=
  iterFrom A (.new r.inner)

/-- A response to fill, with a key. -/
def new (key : Option UInt32) : QueryServersResponse := ⟨[], key⟩

/-- Write addresses while the buffer has room for one more and the end marker. -/
def putList : List A → ℕ → CursorMut → Except CursorError (CursorMut × ℕ)
  | [], count, cur => .ok (cur, count)
  | i :: list, count, cur =>
    if cur.available < size A * 2 then .ok (cur, count)
    else do
      let cur ← put i cur
      putList list (count + 1) cur

open CursorMut in
/-- The part of a packet before the addresses. -/
def putHeader (r : QueryServersResponse) : Put :=
  putBytes header >=>
  match r.key with
  | some key => putU8 0x7f >=> putU32Le key >=> putU8 8
  | none => .ok

/-- Encode one packet: its bytes and how many addresses were written. -/
def encode (cap : ℕ) (r : QueryServersResponse) (list : List A) :
    Except ProtocolError (Bytes × ℕ) :=
  (do
    let cur ← putHeader r (.new cap)
    let (cur, count) ← putList list 0 cur
    -- always write end marker
    let cur ← CursorMut.putBytes ((List.replicate 18 0).take (size A)) cur
    return (cur.data, count)).mapError .cursorError

/-- The header bytes of a response. -/
def headerWire (key : Option UInt32) : Bytes :=
  header ++ (key.map fun k => 0x7f :: (u32Le k ++ [8])).getD []

/-- The bytes of a page of addresses. -/
def pageWire (list : List A) : Bytes :=
  list.flatMap wire ++ List.replicate (size A) 0

theorem length_headerWire_le (key : Option UInt32) : (headerWire key).length ≤ 12 := by
  have hh : header.length = 6 := by decide
  cases key <;> simp [headerWire, hh]

theorem writes_putHeader (r : QueryServersResponse) : Writes (putHeader r) (headerWire r.key) := by
  refine (Writes.putBytes header).seq ?_
  cases r.key with
  | none => exact fun c => (Writes.putBytes_nil c).symm
  | some k => exact (Writes.putU8 _).seq ((Writes.putU32Le k).seq (Writes.putU8 8))

theorem endMarker (A : Type) [ServerAddress A] :
    (List.replicate 18 (0 : UInt8)).take (size A) = List.replicate (size A) 0 := by
  rw [List.take_replicate, min_eq_left (size_le (A := A))]

theorem length_wires (list : List A) : (list.flatMap wire).length = size A * list.length := by
  induction list with
  | nil => simp
  | cons a list ih => simp [ih, length_wire]; ring

theorem put_of_fits (a : A) {c : CursorMut} (hfit : c.data.length + (wire a).length ≤ c.cap) :
    put a c = .ok { c with data := c.data ++ wire a, fits := by simpa using hfit } := by
  rw [writes_put a c, CursorMut.putBytes, dif_pos hfit]

/-- The loop writes a prefix of the list and leaves room for the end marker; it writes something
when there is room for two addresses. -/
theorem putList_spec (list : List A) : ∀ (count : ℕ) (c : CursorMut), size A ≤ c.available →
    ∃ n c', putList list count c = .ok (c', count + n) ∧ n ≤ list.length ∧
      c'.data = c.data ++ (list.take n).flatMap wire ∧ c'.cap = c.cap ∧ size A ≤ c'.available ∧
      (list ≠ [] → size A * 2 ≤ c.available → 0 < n) := by
  induction list with
  | nil => intro count c hc; exact ⟨0, c, rfl, le_rfl, by simp, rfl, hc, fun h => absurd rfl h⟩
  | cons a list ih =>
    intro count c hc
    rw [putList]
    split_ifs with hroom
    · exact ⟨0, c, rfl, by simp, by simp, rfl, hc, fun _ h => by omega⟩
    · have hlen := length_wire a
      have hroom' : size A * 2 ≤ c.cap - c.data.length := not_lt.1 hroom
      have hpos := size_pos (A := A)
      have hfit : c.data.length + (wire a).length ≤ c.cap := by omega
      obtain ⟨n, c', he, hn, hd, hcap, hav, -⟩ := ih (count + 1)
        { c with data := c.data ++ wire a, fits := by simpa using hfit }
        (by simp only [CursorMut.available, List.length_append]; omega)
      refine ⟨n + 1, c', ?_, by simpa using hn, by simpa using hd, hcap, hav,
        fun _ _ => Nat.succ_pos n⟩
      rw [put_of_fits a hfit, show count + (n + 1) = count + 1 + n by omega]
      exact he

theorem putHeader_new {cap : ℕ} (key : Option UInt32) (hcap : (headerWire key).length ≤ cap) :
    putHeader (new key) (.new cap) = .ok ⟨cap, headerWire key, 0, hcap⟩ := by
  rw [writes_putHeader, CursorMut.putBytes, dif_pos (by simpa [CursorMut.new, new] using hcap)]
  rfl

/-- The end marker follows what the loop has written. -/
theorem encode_of_putList {cap n : ℕ} {key : Option UInt32} {list : List A} {c' : CursorMut}
    (hfit0 : (headerWire key).length ≤ cap)
    (he : putList list 0 ⟨cap, headerWire key, 0, hfit0⟩ = .ok (c', n))
    (hd : c'.data = headerWire key ++ (list.take n).flatMap wire)
    (hfit : c'.data.length + (List.replicate (size A) (0 : UInt8)).length ≤ c'.cap) :
    (new key).encode cap list = .ok (headerWire key ++ pageWire (list.take n), n) := by
  have hend : CursorMut.putBytes ((List.replicate 18 0).take (size A)) c' =
      .ok { c' with
        data := c'.data ++ List.replicate (size A) 0, fits := by simpa using hfit } := by
    rw [endMarker, CursorMut.putBytes, dif_pos hfit]
  unfold encode
  rw [putHeader_new key hfit0]
  simp only [bind, Except.bind, he, hend, hd]
  simp [pure, Except.pure, Except.mapError, pageWire]

/-- With room for the end marker a page holds a prefix of the list; it holds something when there is
something, and room for it too. -/
theorem encode_of_room {cap : ℕ} (key : Option UInt32) (list : List A)
    (hcap : (headerWire key).length + size A ≤ cap) :
    ∃ n, (new key).encode cap list = .ok (headerWire key ++ pageWire (list.take n), n) ∧
      n ≤ list.length ∧
      (0 < n ↔ list ≠ [] ∧ (headerWire key).length + size A * 2 ≤ cap) ∧
      (headerWire key ++ pageWire (list.take n)).length ≤ cap := by
  have hfit0 : (headerWire key).length ≤ cap := by omega
  obtain ⟨n, c', he, hn, hd, hcap', hav, hpos⟩ := putList_spec list 0
    ⟨cap, headerWire key, 0, hfit0⟩ (by simp only [CursorMut.available]; omega)
  have hfit : c'.data.length + (List.replicate (size A) (0 : UInt8)).length ≤ c'.cap := by
    have := c'.fits
    unfold CursorMut.available at hav
    have hs := size_pos (A := A)
    rw [List.length_replicate]
    omega
  refine ⟨n, ?_, hn, ⟨fun h0 => ?_, fun ⟨hl, hroom⟩ => hpos hl ?_⟩, ?_⟩
  · rw [Nat.zero_add] at he
    exact encode_of_putList hfit0 he hd hfit
  · cases list with
    | nil => exact absurd hn (not_le.2 h0)
    | cons a list =>
      refine ⟨List.cons_ne_nil a list, ?_⟩
      by_contra hroom
      rw [putList, if_pos (by simp only [CursorMut.available]; omega)] at he
      have hcount := congrArg Prod.snd (Except.ok.inj he)
      simp only at hcount
      omega
  · simp only [CursorMut.available]; omega
  · rw [pageWire, ← List.append_assoc, List.length_append]
    have hcap'' : c'.cap = cap := hcap'
    rw [hd] at hfit
    rw [hcap''] at hfit
    exact hfit

/-- A page holds a prefix of the list, and not an empty one when the buffer holds two addresses. -/
theorem encode_spec {cap : ℕ} (key : Option UInt32) (list : List A)
    (hcap : 12 + size A * 2 ≤ cap) :
    ∃ n, (new key).encode cap list = .ok (headerWire key ++ pageWire (list.take n), n) ∧
      n ≤ list.length ∧ (list ≠ [] → 0 < n) ∧
      (headerWire key ++ pageWire (list.take n)).length ≤ cap := by
  have hh := length_headerWire_le key
  have hroom : (headerWire key).length + size A ≤ cap := by omega
  obtain ⟨n, he, hn, hpos, hlen⟩ := encode_of_room key list hroom
  exact ⟨n, he, hn, fun hl => hpos.2 ⟨hl, by omega⟩, hlen⟩

/-- Without room for the end marker nothing is encoded. -/
theorem encode_no_room {cap : ℕ} (key : Option UInt32) (list : List A)
    (hcap : cap < (headerWire key).length + size A) :
    (new key).encode cap list = .error (.cursorError .bufferOverflow) := by
  unfold encode
  by_cases hfit0 : (headerWire key).length ≤ cap
  · have hlist : putList list 0 ⟨cap, headerWire key, 0, hfit0⟩ =
        .ok (⟨cap, headerWire key, 0, hfit0⟩, 0) := by
      cases list with
      | nil => rfl
      | cons a list => rw [putList, if_pos (by simp only [CursorMut.available]; omega)]
    have hend : CursorMut.putBytes ((List.replicate 18 0).take (size A))
        ⟨cap, headerWire key, 0, hfit0⟩ = .error .bufferOverflow := by
      rw [endMarker, CursorMut.putBytes, dif_neg]
      rw [List.length_replicate]
      simp only
      omega
    rw [putHeader_new key hfit0]
    simp only [bind, Except.bind, hlist, hend]
    rfl
  · rw [writes_putHeader, CursorMut.putBytes, dif_neg (by simpa [CursorMut.new, new] using hfit0)]
    rfl

/-- A packet with a key decodes to that key and the page. -/
theorem decode_some (key : UInt32) (s : Bytes) :
    decode (headerWire (some key) ++ s) = .ok ⟨s, some key⟩ := by
  have hsplit : headerWire (some key) ++ s = header ++ (0x7f :: (u32Le key ++ 8 :: s)) := by
    simp [headerWire]
  have hk : (0x7f :: (u32Le key ++ 8 :: s))[5]? = some 8 := by
    rw [List.getElem?_cons_succ, List.getElem?_append_right (by simp)]
    simp
  have hd : (0x7f :: (u32Le key ++ 8 :: s)).drop 6 = s := by
    rw [List.drop_succ_cons, show u32Le key ++ 8 :: s = (u32Le key ++ [8]) ++ s by simp,
      show 5 = (u32Le key ++ [(8 : UInt8)]).length by simp, List.drop_left]
  have ht : ((0x7f :: (u32Le key ++ 8 :: s)).drop 1).take 4 = u32Le key := by
    rw [List.drop_succ_cons, List.drop_zero, List.take_left' (by simp)]
  rw [hsplit]
  unfold decode Read.run
  rw [Cursor.new_eq, Read.bind_ok (Read.lift_ok (Cursor.expect_after [] header _)),
    Read.bind_ok (Cursor.rest_after _ _), if_pos ⟨by simp; omega, by simp, hk⟩, hd, ht]
  simp

theorem isSuffixOf_zeros (pre : Bytes) (A : Type) [ServerAddress A] :
    [0, 0].isSuffixOf (pre ++ List.replicate (size A) (0 : UInt8)) = true := by
  rw [List.isSuffixOf_iff_suffix]
  refine List.IsSuffix.trans ?_ (List.suffix_append _ _)
  have hs := size_pos (A := A)
  exact ⟨List.replicate (size A - 2) 0, by
    rw [show ([0, 0] : Bytes) = List.replicate 2 0 from rfl, ← List.replicate_add]
    congr 1; omega⟩

theorem iterFrom_page (list : List A) : ∀ pre,
    iterFrom A (.after pre (pageWire list)) = list.map seen := by
  induction list with
  | nil =>
    intro pre
    have hnext : next A (.after pre (pageWire ([] : List A))) =
        (none, .after pre (pageWire ([] : List A))) := by
      unfold next
      rw [if_pos]
      refine ⟨by simp [pageWire], ?_⟩
      rw [Cursor.asSlice_after]
      exact isSuffixOf_zeros _ A
    rw [iterFrom]
    split
    · rename_i h; rw [hnext] at h; cases h
    · rfl
  | cons a list ih =>
    intro pre
    have hwire : pageWire (a :: list) = wire a ++ pageWire list := by simp [pageWire]
    have hnext : next A (.after pre (pageWire (a :: list))) =
        (some (seen a), .after (pre ++ wire a) (pageWire list)) := by
      unfold next
      rw [if_neg, hwire, get_wire]
      rintro ⟨hsize, -⟩
      rw [Cursor.remaining_after, pageWire, List.length_append, length_wires,
        List.length_replicate, List.length_cons] at hsize
      have hpos := size_pos (A := A)
      have : 0 < size A * (list.length + 1) := Nat.mul_pos (by omega) (by omega)
      omega
    rw [iterFrom]
    split
    · rename_i h
      rw [hnext] at h
      cases h
      rw [ih, List.map_cons]
    · rename_i h; rw [hnext] at h; cases h

/-- Reading a page gives back its addresses. -/
theorem iter_page (key : Option UInt32) (list : List A) :
    iter A ⟨pageWire list, key⟩ = list.map seen := iterFrom_page list []

end QueryServersResponse

/-! ## Other packets -/

/-- Announce a game client to game server behind NAT. -/
structure ClientAnnounce where
  addr : SocketAddr
  deriving DecidableEq

namespace ClientAnnounce

def header : Bytes := [0xff, 0xff, 0xff, 0xff] ++ ascii "c "

open CursorMut in
def encode (cap : ℕ) (r : ClientAnnounce) : Except ProtocolError Bytes :=
  encodeTo cap (putBytes header >=> putAsStr [r.addr.display])

/-- The bytes of the packet. -/
def wire (r : ClientAnnounce) : Bytes := header ++ r.addr.display

/-- The packet fits in the buffer the master server uses. -/
theorem encode_eq (r : ClientAnnounce) : r.encode 64 = .ok r.wire := by
  have hh : header.length = 6 := by decide
  have hd := r.addr.length_display_le
  rw [encode, ((Writes.putBytes header).seq (Writes.putAsStr [r.addr.display])).run]
  simp only [List.flatten_cons, List.flatten_nil, List.append_nil]
  exact if_pos (by rw [List.length_append]; omega)

end ClientAnnounce

/-- Admin challenge response. -/
structure AdminChallengeResponse where
  masterChallenge : UInt32
  hashChallenge : UInt32
  deriving DecidableEq

namespace AdminChallengeResponse

def header : Bytes := [0xff, 0xff, 0xff, 0xff] ++ ascii "adminchallenge"

open CursorMut in
def encode (cap : ℕ) (r : AdminChallengeResponse) : Except ProtocolError Bytes :=
  encodeTo cap (putBytes header >=> putU32Le r.masterChallenge >=> putU32Le r.hashChallenge)

/-- The bytes of the packet. -/
def wire (r : AdminChallengeResponse) : Bytes :=
  header ++ (u32Le r.masterChallenge ++ u32Le r.hashChallenge)

/-- The packet fits in the buffer the master server uses. -/
theorem encode_eq (r : AdminChallengeResponse) : r.encode 64 = .ok r.wire := by
  have hh : header.length = 18 := by decide
  rw [encode, ((Writes.putBytes header).seq
    ((Writes.putU32Le r.masterChallenge).seq (Writes.putU32Le r.hashChallenge))).run]
  exact if_pos (by simp [hh])

end AdminChallengeResponse

end Xash3d
