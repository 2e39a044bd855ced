import Xash3d.Protocol.Keyless

/-!
# Empty lists of servers

`is_empty` looks at the bytes of a list and the iterator at its addresses, but the end marker is
made of bytes and is no address. A packet always has an end marker, so `is_empty` is false of every
packet that was encoded: it agrees with the iterator where an address was written
(`empty_agrees_iff`).
-/

namespace Xash3d

open Lib ServerAddress

namespace QueryServersResponse

variable {A : Type} [ServerAddress A] {cap n : ℕ} {key : Option UInt32} {list : List A}
  {out : Bytes}

/-- A response is empty exactly when it has no address, and it has none exactly when none was
written. -/
def EmptyAgrees (A : Type) [ServerAddress A] (r : QueryServersResponse) (written : ℕ) : Prop :=
  (r.isEmpty = true ↔ iter A r = []) ∧ (iter A r = [] ↔ written = 0)

/-- What a packet is, if there is one. -/
theorem encode_ok (h : (new key).encode cap list = .ok (out, n)) :
    out = headerWire key ++ pageWire (list.take n) ∧ n ≤ list.length ∧
      (0 < n ↔ list ≠ [] ∧ (headerWire key).length + size A * 2 ≤ cap) := by
  rcases Nat.lt_or_ge cap ((headerWire key).length + size A) with hroom | hroom
  · rw [encode_no_room key list hroom] at h
    cases h
  · obtain ⟨n', he, hn, hpos, -⟩ := encode_of_room key list hroom
    cases he.symm.trans h
    exact ⟨rfl, hn, hpos⟩

/-- A packet is decoded to its page. -/
theorem decode_page (hkey : key = none → ¬ LooksLikeKey (pageWire list)) :
    decode (headerWire key ++ pageWire list) = .ok ⟨pageWire list, key⟩ := by
  cases key with
  | some k => exact decode_some k _
  | none =>
    have hhead : headerWire none = header := by simp [headerWire]
    rw [hhead, decode_header, if_neg (hkey rfl)]

/-- A page is never without bytes, but it can be without addresses. -/
theorem emptyAgrees_page (key : Option UInt32) (hn : n ≤ list.length) :
    EmptyAgrees A ⟨pageWire (list.take n), key⟩ n ↔ 0 < n := by
  have hbytes : isEmpty ⟨pageWire (list.take n), key⟩ = false := by
    have hpos := size_pos (A := A)
    have hzeros : List.replicate (size A) (0 : UInt8) ≠ [] := by
      rw [ne_eq, List.replicate_eq_nil_iff]
      omega
    rw [isEmpty, pageWire, List.isEmpty_eq_false_iff]
    exact List.append_ne_nil_of_right_ne_nil _ hzeros
  have hiter : iter A ⟨pageWire (list.take n), key⟩ = [] ↔ n = 0 := by
    rw [iter_page, List.map_eq_nil_iff, List.take_eq_nil_iff]
    constructor
    · rintro (h | rfl)
      · exact h
      · exact Nat.le_zero.1 hn
    · exact Or.inl
  unfold EmptyAgrees
  rw [hbytes, hiter]
  constructor
  · rintro ⟨h, -⟩
    refine Nat.pos_of_ne_zero fun h0 => ?_
    cases h.2 h0
  · intro h
    exact ⟨iff_of_false Bool.false_ne_true h.ne', Iff.rfl⟩

/-- The response that a packet is decoded to. -/
theorem emptyAgrees_iff (hsize : 6 ≤ size A)
    (hkey : key = none → ∀ a ∈ list.head?, ¬ LooksLikeKey (wire a))
    (h : (new key).encode cap list = .ok (out, n)) :
    ∃ r, decode out = .ok r ∧ r.key = key ∧
      (EmptyAgrees A r n ↔ list ≠ [] ∧ (headerWire key).length + size A * 2 ≤ cap) := by
  obtain ⟨rfl, hn, hpos⟩ := encode_ok h
  have hpage : key = none → ¬ LooksLikeKey (pageWire (list.take n)) := by
    intro hnone hlooks
    obtain ⟨a, ha, hwire⟩ := (looksLikeKey_pageWire hsize _).1 hlooks
    rw [List.head?_take] at ha
    split_ifs at ha
    · cases ha
    · exact hkey hnone a ha hwire
  refine ⟨_, decode_page hpage, rfl, ?_⟩
  rw [emptyAgrees_page key hn, hpos]

end QueryServersResponse

open QueryServersResponse

/-- Emptiness agrees with the iteration over a packet, and with what was written to it, exactly
where an address was written: the list has one, and the buffer has room for it and the end marker
behind the header. -/
theorem empty_agrees_iff (cap : ℕ) (key : Option UInt32) :
    (∀ (list : List SocketAddrV4) (out : Bytes) (n : ℕ),
      (key = none → ∀ a ∈ list.head?, ¬ a.LooksLikeKey) →
      (new key).encode cap list = .ok (out, n) →
      ∃ r, QueryServersResponse.decode out = .ok r ∧ r.key = key ∧
        (EmptyAgrees SocketAddrV4 r n ↔ list ≠ [] ∧ (headerWire key).length + 6 * 2 ≤ cap)) ∧
    ∀ (list : List SocketAddrV6) (out : Bytes) (n : ℕ),
      (key = none → ∀ a ∈ list.head?, ¬ a.LooksLikeKey) →
      (new key).encode cap list = .ok (out, n) →
      ∃ r, QueryServersResponse.decode out = .ok r ∧ r.key = key ∧
        (EmptyAgrees SocketAddrV6 r n ↔ list ≠ [] ∧ (headerWire key).length + 18 * 2 ≤ cap) := by
  constructor
  · intro list out n hkey h
    exact emptyAgrees_iff (A := SocketAddrV4) le_rfl
      (fun hnone a ha hlooks => hkey hnone a ha (a.looksLikeKey_wire.1 hlooks)) h
  · intro list out n hkey h
    exact emptyAgrees_iff (A := SocketAddrV6) (by decide)
      (fun hnone a ha hlooks => hkey hnone a ha (a.looksLikeKey_wire.1 hlooks)) h

/-- A list without servers is not empty, though the iterator finds none. -/
theorem empty_list_not_empty : ¬ ∀ (cap : ℕ) (key : Option UInt32) (list : List SocketAddrV4)
    (out : Bytes) (n : ℕ) (r : QueryServersResponse),
    (key = none → ∀ a ∈ list.head?, ¬ a.LooksLikeKey) →
    (new key).encode cap list = .ok (out, n) → QueryServersResponse.decode out = .ok r →
    EmptyAgrees SocketAddrV4 r n := by
  intro h
  have hencode : (new none).encode 512 ([] : List SocketAddrV4) =
      .ok (QueryServersResponse.header ++ List.replicate 6 0, 0) := by decide +kernel
  have hagrees := h 512 none [] _ 0 ⟨List.replicate 6 0, none⟩ (fun _ a ha => by cases ha) hencode
    (by decide +kernel)
  have hiter : iter SocketAddrV4 ⟨List.replicate 6 0, none⟩ = [] := hagrees.2.2 rfl
  have hempty := hagrees.1.2 hiter
  revert hempty
  decide

end Xash3d
