import Xash3d.Protocol.Net.Master

/-!
# Server lists without a key

The header of a key is written like an address of the network 127 whose port ends in 8, and
recognised by these two bytes. `keyless_iff` says which lists without a key are read back: those
whose first address does not look like the header of a key.
-/

namespace Xash3d

open Lib ServerAddress

namespace QueryServersResponse

/-- The bytes after the header of a packet look like the header of a key. -/
def LooksLikeKey (s : Bytes) : Prop := s[0]? = some 0x7f ∧ s[5]? = some 8

instance (s : Bytes) : Decidable (LooksLikeKey s) := inferInstanceAs (Decidable (_ ∧ _))

variable {A : Type} [ServerAddress A]

/-- With room for all addresses and the end marker, all are written. -/
theorem putList_fits (list : List A) : ∀ (count : ℕ) (c : CursorMut),
    size A * (list.length + 1) ≤ c.available → ∃ c',
      putList list count c = .ok (c', count + list.length) ∧
      c'.data = c.data ++ list.flatMap wire ∧ c'.cap = c.cap := by
  induction list with
  | nil =>
    intro count c _
    exact ⟨c, rfl, by simp, rfl⟩
  | cons a list ih =>
    intro count c hc
    have hlen := length_wire a
    have hpos := size_pos (A := A)
    unfold CursorMut.available at hc
    have hsum : size A * ((a :: list).length + 1) = size A * (list.length + 1) + size A := by
      rw [List.length_cons]
      ring
    have htwo : size A ≤ size A * (list.length + 1) := Nat.le_mul_of_pos_right _ (by omega)
    have hfit : c.data.length + (wire a).length ≤ c.cap := by omega
    obtain ⟨c', he, hd, hcap⟩ := ih (count + 1)
      { c with data := c.data ++ wire a, fits := by simpa using hfit }
      (by simp only [CursorMut.available, List.length_append]; omega)
    refine ⟨c', ?_, by simpa using hd, hcap⟩
    rw [putList, if_neg (by unfold CursorMut.available; omega), put_of_fits a hfit, List.length_cons,
      show count + (list.length + 1) = count + 1 + list.length by omega]
    exact he

/-- A list that fits is written into one packet. -/
theorem encode_fits {cap : ℕ} (list : List A) (hcap : 6 + size A * (list.length + 1) ≤ cap) :
    (new none).encode cap list = .ok (header ++ pageWire list, list.length) := by
  have hh : header.length = 6 := by decide
  have hhead : headerWire none = header := by simp [headerWire]
  have hfit0 : (headerWire none).length ≤ cap := by
    rw [hhead]
    omega
  obtain ⟨c', he, hd, hcap'⟩ := putList_fits list 0 ⟨cap, headerWire none, 0, hfit0⟩
    (by simp only [CursorMut.available, hhead]; omega)
  have hend : c'.data.length + (List.replicate (size A) (0 : UInt8)).length ≤ c'.cap := by
    have hsum : size A * (list.length + 1) = size A * list.length + size A := by ring
    rw [hd, hcap', List.length_append, length_wires, List.length_replicate]
    dsimp only
    rw [hhead]
    omega
  rw [Nat.zero_add] at he
  have henc := encode_of_putList hfit0 he (by rw [hd, List.take_length]) hend
  rw [hhead, List.take_length] at henc
  exact henc

theorem length_of_looksLikeKey {s : Bytes} (h : LooksLikeKey s) : 6 ≤ s.length := by
  obtain ⟨h5, -⟩ := List.getElem?_eq_some_iff.1 h.2
  omega

/-- Bytes that look like the header of a key are taken for it. -/
theorem decode_header (s : Bytes) : decode (header ++ s) =
    if LooksLikeKey s then .ok ⟨s.drop 6, some (ofU32Le ((s.drop 1).take 4))⟩
    else .ok ⟨s, none⟩ := by
  unfold decode Read.run
  rw [Cursor.new_eq, Read.bind_ok (Read.lift_ok (Cursor.expect_after [] header s)),
    Read.bind_ok (Cursor.rest_after _ _)]
  by_cases h : LooksLikeKey s
  · rw [if_pos h, if_pos ⟨length_of_looksLikeKey h, h⟩]
    rfl
  · rw [if_neg h, if_neg fun hs => h hs.2]
    rfl

/-- The response to a query without a key is read back. -/
def ReadBack (cap : ℕ) (list : List A) : Prop :=
  ∃ out r, (new none).encode cap list = .ok (out, list.length) ∧ decode out = .ok r ∧
    r.key = none ∧ iter A r = list

/-- A list is read back if its bytes do not look like the header of a key, and its addresses are
what the wire carries. -/
theorem readBack_iff {cap : ℕ} {list : List A} (hcap : 6 + size A * (list.length + 1) ≤ cap) :
    ReadBack cap list ↔ ¬ LooksLikeKey (pageWire list) ∧ ∀ a ∈ list, seen a = a := by
  have henc := encode_fits list hcap
  have hdec := decode_header (pageWire list)
  constructor
  · rintro ⟨out, r, hout, hr, hkey, hiter⟩
    obtain rfl : header ++ pageWire list = out :=
      congrArg Prod.fst (Except.ok.inj (henc.symm.trans hout))
    rw [hdec] at hr
    by_cases h : LooksLikeKey (pageWire list)
    · rw [if_pos h] at hr
      cases hr
      cases hkey
    · rw [if_neg h] at hr
      cases hr
      rw [iter_page] at hiter
      refine ⟨h, ?_⟩
      have hid : list.map seen = list.map id := by rw [hiter, List.map_id]
      exact List.map_inj_left.1 hid
  · rintro ⟨h, hseen⟩
    rw [if_neg h] at hdec
    refine ⟨_, _, henc, hdec, rfl, ?_⟩
    rw [iter_page]
    rw [List.map_congr_left hseen, List.map_id']

/-- Bytes with the same beginning look the same. -/
theorem looksLikeKey_append {s t : Bytes} (hs : 6 ≤ s.length) :
    LooksLikeKey (s ++ t) ↔ LooksLikeKey s := by
  unfold LooksLikeKey
  rw [List.getElem?_append_left (by omega), List.getElem?_append_left (by omega)]

theorem pageWire_cons (a : A) (list : List A) :
    pageWire (a :: list) = wire a ++ pageWire list := by simp [pageWire]

/-- The first address decides. -/
theorem looksLikeKey_pageWire (hsize : 6 ≤ size A) (list : List A) :
    LooksLikeKey (pageWire list) ↔ ∃ a ∈ list.head?, LooksLikeKey (wire a) := by
  cases list with
  | nil =>
    have hzero : pageWire ([] : List A) = List.replicate (size A) 0 := by simp [pageWire]
    constructor
    · rintro ⟨h0, -⟩
      rw [hzero, List.getElem?_replicate, if_pos (by omega)] at h0
      cases h0
    · rintro ⟨a, ha, -⟩
      cases ha
  | cons a list =>
    have hlen : 6 ≤ (wire a).length := by rwa [length_wire]
    rw [pageWire_cons, looksLikeKey_append hlen]
    simp

end QueryServersResponse

open QueryServersResponse

/-- An address of the network 127 whose port ends in the byte 8. -/
def SocketAddrV4.LooksLikeKey (a : SocketAddrV4) : Prop :=
  a.ip.octets.1[0]? = some 127 ∧ a.port.toNat % 256 = 8

/-- An address whose first and sixth octets are 0x7f and 8. -/
def SocketAddrV6.LooksLikeKey (a : SocketAddrV6) : Prop :=
  a.ip.octets.1[0]? = some 0x7f ∧ a.ip.octets.1[5]? = some 8

theorem SocketAddrV4.looksLikeKey_wire (a : SocketAddrV4) :
    QueryServersResponse.LooksLikeKey (ServerAddress.wire a) ↔ a.LooksLikeKey := by
  have hlen := a.ip.octets.2
  have hlow : (u16Be a.port)[1]? = some (UInt8.ofNat a.port.toNat) := rfl
  unfold QueryServersResponse.LooksLikeKey SocketAddrV4.LooksLikeKey
  show (a.ip.octets.1 ++ u16Be a.port)[0]? = _ ∧ (a.ip.octets.1 ++ u16Be a.port)[5]? = _ ↔ _
  rw [List.getElem?_append_left (by omega), List.getElem?_append_right (by omega), hlen, hlow,
    Option.some.injEq]
  refine and_congr_right fun _ => ?_
  rw [← UInt8.toNat_inj, UInt8.toNat_ofNat']
  rfl

theorem SocketAddrV6.looksLikeKey_wire (a : SocketAddrV6) :
    QueryServersResponse.LooksLikeKey (ServerAddress.wire a) ↔ a.LooksLikeKey := by
  have hlen := a.ip.octets.2
  unfold QueryServersResponse.LooksLikeKey SocketAddrV6.LooksLikeKey
  show (a.ip.octets.1 ++ u16Be a.port)[0]? = _ ∧ (a.ip.octets.1 ++ u16Be a.port)[5]? = _ ↔ _
  rw [List.getElem?_append_left (by omega), List.getElem?_append_left (by omega)]

namespace QueryServersResponse

/-- A list without a key is read back exactly when its first address does not look like the header
of a key; an address is read back without what the wire does not carry. -/
theorem keyless_iff :
    (∀ (cap : ℕ) (list : List SocketAddrV4), 6 + 6 * (list.length + 1) ≤ cap →
      (ReadBack cap list ↔ ∀ a ∈ list.head?, ¬ a.LooksLikeKey)) ∧
    ∀ (cap : ℕ) (list : List SocketAddrV6), 6 + 18 * (list.length + 1) ≤ cap →
      (ReadBack cap list ↔
        (∀ a ∈ list.head?, ¬ a.LooksLikeKey) ∧ ∀ a ∈ list, a.flowinfo = 0 ∧ a.scopeId = 0) := by
  constructor
  · intro cap list hcap
    rw [readBack_iff hcap, looksLikeKey_pageWire le_rfl]
    constructor
    · rintro ⟨h, -⟩ a ha hkey
      exact h ⟨a, ha, a.looksLikeKey_wire.2 hkey⟩
    · intro h
      refine ⟨?_, fun a _ => rfl⟩
      rintro ⟨a, ha, hkey⟩
      exact h a ha (a.looksLikeKey_wire.1 hkey)
  · intro cap list hcap
    rw [readBack_iff hcap, looksLikeKey_pageWire (by decide)]
    have hseen : ∀ a : SocketAddrV6, a.seen = a ↔ a.flowinfo = 0 ∧ a.scopeId = 0 := by
      rintro ⟨ip, port, flowinfo, scopeId⟩
      simp [SocketAddrV6.seen, eq_comm]
    constructor
    · rintro ⟨h, hs⟩
      refine ⟨?_, fun a ha => (hseen a).1 (hs a ha)⟩
      intro a ha hkey
      exact h ⟨a, ha, a.looksLikeKey_wire.2 hkey⟩
    · rintro ⟨h, hs⟩
      refine ⟨?_, fun a ha => (hseen a).2 (hs a ha)⟩
      rintro ⟨a, ha, hkey⟩
      exact h a ha (a.looksLikeKey_wire.1 hkey)

/-- A server of a local network at the address 127.0.0.1:27144 is taken for a key. -/
theorem loopback_taken_for_key : ¬ ∀ (cap : ℕ) (list : List SocketAddrV4),
    6 + 6 * (list.length + 1) ≤ cap → ReadBack cap list := by
  intro h
  have hback := h 512 [⟨⟨[127, 0, 0, 1], rfl⟩, 27144⟩] (by decide)
  apply ((readBack_iff (A := SocketAddrV4) (by decide)).1 hback).1
  exact (looksLikeKey_pageWire le_rfl _).2 ⟨_, rfl, by decide⟩

end QueryServersResponse

end Xash3d
