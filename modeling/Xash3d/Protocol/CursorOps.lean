import Xash3d.Protocol.Cursor

/-!
# The reads of a cursor

Every operation of `Cursor`, and what it does to the position: a read that succeeds moves over the
bytes that it consumes, and a read that fails does not move (`Read.Atomic`). The exception is
`getCstrAsStr`, which has passed the string before it finds that it is not UTF-8.

Lengths are unbounded here; where the sum of a position and a length overflows, the code panics and
returns neither a value nor an error.
-/

namespace Xash3d

open Lib

/-! ## The operations left -/

/-- The numbers of more than a byte; a float is given by its bits. -/
inductive Num where
  | u16
  | u32
  | u64
  | i16
  | i32
  | i64
  | f32
  | f64
  deriving DecidableEq

namespace Num

def size : Num → ℕ
  | u16 => 2
  | u32 => 4
  | u64 => 8
  | i16 => 2
  | i32 => 4
  | i64 => 8
  | f32 => 4
  | f64 => 8

def Value : Num → Type
  | u16 => UInt16
  | u32 => UInt32
  | u64 => UInt64
  | i16 => Int16
  | i32 => Int32
  | i64 => Int64
  | f32 => UInt32
  | f64 => UInt64

/-- The number with the given bits. -/
def ofBits : (t : Num) → ℕ → t.Value
  | u16, n => UInt16.ofNat n
  | u32, n => UInt32.ofNat n
  | u64, n => UInt64.ofNat n
  | i16, n => (UInt16.ofNat n).toInt16
  | i32, n => (UInt32.ofNat n).toInt32
  | i64, n => (UInt64.ofNat n).toInt64
  | f32, n => UInt32.ofNat n
  | f64, n => UInt64.ofNat n

end Num

/-- The order of the bytes of a number: little-endian, big-endian, or that of the target. -/
inductive ByteOrder where
  | le
  | be
  | ne
  deriving DecidableEq

/-- The bytes with the least significant one first, on a target that may be big-endian. -/
def ByteOrder.arrange (bigEndian : Bool) (o : ByteOrder) (s : Bytes) : Bytes :=
  match o with
  | .le => s
  | .be => s.reverse
  | .ne => if bigEndian then s.reverse else s

namespace Cursor

/-- The getters `get_u16_le` to `get_f64_ne`. -/
def getNum (bigEndian : Bool) (t : Num) (o : ByteOrder) : Read CursorError t.Value := do
  let array ← getArray t.size
  return t.ofBits (ofLe (o.arrange bigEndian array.1))

def getI8 : Read CursorError Int8 := do
  let array ← getArray 1
  return (array.1.headD 0).toInt8

/-- The bytes before the next delimiter. -/
def takeUntil (x : UInt8) : Read CursorError Bytes := do
  let i ← find x
  slice i

/-- The position is behind the C string when its text is checked. -/
def getCstrAsStr : Read CursorError Bytes := do
  let s ← getCstr
  if isUtf8 s then return s
  else Read.fail .invalidString

end Cursor

/-- An operation of a cursor with its arguments. -/
inductive CursorOp where
  | getTail
  | getBytes (count : ℕ)
  | advance (count : ℕ)
  | getArray (n : ℕ)
  | getStr (n : ℕ)
  | find (x : UInt8)
  | find2 (x y : UInt8)
  | takeUntil (x : UInt8)
  | takeUntil2 (x y : UInt8)
  | getCstrFfi
  | getCstr
  | getCstrAsStr
  | getU8
  | getI8
  | getNum (t : Num) (o : ByteOrder)
  | expect (s : Bytes)
  | expectEmpty
  | takeWhile (cond : UInt8 → Bool)

namespace CursorOp

/-- What the operation returns. -/
def Value : CursorOp → Type
  | getTail => Bytes
  | getBytes _ => Bytes
  | advance _ => Unit
  | getArray n => ByteArr n
  | getStr _ => Bytes
  | find _ => ℕ
  | find2 _ _ => ℕ
  | takeUntil _ => Bytes
  | takeUntil2 _ _ => Bytes
  | getCstrFfi => Bytes
  | getCstr => Bytes
  | getCstrAsStr => Bytes
  | getU8 => UInt8
  | getI8 => Int8
  | getNum t _ => t.Value
  | expect _ => Unit
  | expectEmpty => Unit
  | takeWhile _ => Bytes

def run (bigEndian : Bool) : (op : CursorOp) → Read CursorError op.Value
  | getTail => Cursor.getTail
  | getBytes count => Cursor.getBytes count
  | advance count => Cursor.advance count
  | getArray n => Cursor.getArray n
  | getStr n => Cursor.getStr n
  | find x => Cursor.find x
  | find2 x y => Cursor.find2 x y
  | takeUntil x => Cursor.takeUntil x
  | takeUntil2 x y => Cursor.takeUntil2 x y
  | getCstrFfi => Cursor.getCstrFfi
  | getCstr => Cursor.getCstr
  | getCstrAsStr => Cursor.getCstrAsStr
  | getU8 => Cursor.getU8
  | getI8 => Cursor.getI8
  | getNum t o => Cursor.getNum bigEndian t o
  | expect s => Cursor.expect s
  | expectEmpty => Cursor.expectEmpty
  | takeWhile cond => Cursor.takeWhile cond

/-- A text with the terminator of a C string. -/
def cstr (s : Bytes) : Bytes := s ++ [0]

/-- The bytes that the operation consumes where it returns a value. -/
def Consumes (bigEndian : Bool) : (op : CursorOp) → op.Value → Bytes → Prop
  | getTail, v, s => s = v
  | getBytes count, v, s => s = v ∧ s.length = count
  | advance count, _, s => s.length = count
  | getArray _, v, s => s = v.1
  | getStr n, v, s => s = v ∧ s.length = n
  | find _, _, s => s = []
  | find2 _ _, _, s => s = []
  | takeUntil _, v, s => s = v
  | takeUntil2 _ _, v, s => s = v
  | getCstrFfi, v, s => s = v
  | getCstr, v, s => s = cstr v
  | getCstrAsStr, v, s => s = cstr v
  | getU8, v, s => s = [v]
  | getI8, v, s => s = [v.toUInt8]
  | getNum t o, v, s => s.length = t.size ∧ v = t.ofBits (ofLe (o.arrange bigEndian s))
  | expect s', _, s => s = s'
  | expectEmpty, _, s => s = []
  | takeWhile _, v, s => s = v

end CursorOp

/-! ## What a read does to the position -/

namespace Read

variable {α β : Type}

/-- The read moves over the bytes that it consumes, or, if it fails, not at all. -/
def Atomic (m : Read CursorError α) (consumes : α → Bytes → Prop) (c : Cursor) : Prop :=
  match m c with
  | (.ok v, c') => ∃ s, consumes v s ∧ s <+: c.asSlice ∧ c' = { c with pos := c.pos + s.length }
  | (.error _, c') => c' = c

variable {m : Read CursorError α} {consumes : α → Bytes → Prop} {pre s t : Bytes} {v : α}

theorem atomic_of_ok (h : m (.after pre (s ++ t)) = (.ok v, .after (pre ++ s) t))
    (hs : consumes v s) : Atomic m consumes (.after pre (s ++ t)) := by
  unfold Atomic
  rw [h]
  refine ⟨s, hs, ?_, (Cursor.moved_after pre s t).symm⟩
  rw [Cursor.asSlice_after]
  exact List.prefix_append s t

theorem atomic_of_error {c : Cursor} {e : CursorError} (h : m c = (.error e, c)) :
    Atomic m consumes c := by
  unfold Atomic
  rw [h]

theorem Atomic.imp {c : Cursor} {consumes' : α → Bytes → Prop} (h : Atomic m consumes c)
    (hf : ∀ v s, consumes v s → consumes' v s) : Atomic m consumes' c := by
  unfold Atomic at h ⊢
  rcases hm : m c with ⟨_ | v, c'⟩
  · rw [hm] at h
    exact h
  · rw [hm] at h
    obtain ⟨s, hs, hprefix, hc⟩ := h
    exact ⟨s, hf v s hs, hprefix, hc⟩

/-- The value of a read is converted. -/
theorem Atomic.map {c : Cursor} {f : α → β} {consumes' : β → Bytes → Prop}
    (h : Atomic m consumes c) (hf : ∀ v s, consumes v s → consumes' (f v) s) :
    Atomic (m >>= fun v => pure (f v)) consumes' c := by
  unfold Atomic at h ⊢
  rw [bind_apply]
  rcases hm : m c with ⟨_ | v, c'⟩
  · rw [hm] at h
    exact h
  · rw [hm] at h
    obtain ⟨s, hs, hprefix, hc⟩ := h
    exact ⟨s, hf v s hs, hprefix, hc⟩

/-- The read moves forward inside the buffer, whatever it returns. -/
def Stays (m : Read CursorError α) (c : Cursor) : Prop :=
  ∃ s, s <+: c.asSlice ∧ (m c).2 = { c with pos := c.pos + s.length }

theorem Atomic.stays {c : Cursor} (h : Atomic m consumes c) : Stays m c := by
  unfold Atomic at h
  rcases hm : m c with ⟨_ | v, c'⟩
  · rw [hm] at h
    subst h
    exact ⟨[], List.nil_prefix, by rw [hm]; rfl⟩
  · rw [hm] at h
    obtain ⟨s, -, hprefix, hc⟩ := h
    exact ⟨s, hprefix, by rw [hm]; exact hc⟩

theorem Stays.pos_le {c : Cursor} (h : Stays m c) (hc : c.pos ≤ c.buffer.length) :
    (m c).2.buffer = c.buffer ∧ (m c).2.pos ≤ c.buffer.length := by
  obtain ⟨s, hprefix, hmoved⟩ := h
  have hlen := hprefix.length_le
  rw [Cursor.asSlice, List.length_drop] at hlen
  rw [hmoved]
  refine ⟨rfl, ?_⟩
  show c.pos + s.length ≤ c.buffer.length
  omega

end Read

namespace Cursor

variable (pre s t : Bytes)

/-- A cursor inside its buffer has bytes behind it and bytes in front of it. -/
theorem eq_after {c : Cursor} (h : c.pos ≤ c.buffer.length) : ∃ pre r, c = after pre r := by
  refine ⟨c.buffer.take c.pos, c.buffer.drop c.pos, ?_⟩
  rw [after, List.take_append_drop, List.length_take_of_le h]

theorem slice_apply : slice s.length (after pre (s ++ t)) = (.ok s, after (pre ++ s) t) :=
  Prod.ext (congrArg Except.ok (slice_after pre s t)) (moved_after pre s t)

/-- What a search finds is in the string. -/
theorem split_findIdx? {p : UInt8 → Bool} {r : Bytes} {i : ℕ} (h : r.findIdx? p = some i) :
    ∃ s t, r = s ++ t ∧ s.length = i := by
  have hi := lt_length_of_findIdx? h
  exact ⟨r.take i, r.drop i, (List.take_append_drop i r).symm, List.length_take_of_le hi.le⟩

variable (r : Bytes)

theorem atomic_getBytes (count : ℕ) : Read.Atomic (getBytes count)
    (fun v s => s = v ∧ s.length = count) (after pre r) := by
  by_cases h : r.length < count
  · obtain ⟨e, he⟩ := getBytes_short pre r h
    exact Read.atomic_of_error he
  · have hlen := List.length_take_of_le (not_lt.1 h)
    rw [← List.take_append_drop count r]
    exact Read.atomic_of_ok (getBytes_after pre _ _ hlen) ⟨rfl, hlen⟩

/-- An array is read like the bytes that it holds. -/
theorem getArray_eq {α : Type} (n : ℕ) (f : Bytes → α) :
    (getArray n >>= fun array => pure (f array.1) : Read CursorError α) =
      getBytes n >>= fun s => pure (f s) := by
  funext c
  rw [Read.bind_apply, Read.bind_apply]
  unfold getArray getBytes
  by_cases h : c.pos + n ≤ c.buffer.length
  · rw [dif_pos h, if_pos h]
  · rw [dif_neg h, if_neg h]

theorem atomic_getArray (n : ℕ) :
    Read.Atomic (getArray n) (fun v s => s = v.1) (after pre r) := by
  have hbytes := atomic_getBytes pre r n
  unfold Read.Atomic at hbytes ⊢
  unfold getBytes at hbytes
  unfold getArray
  by_cases h : (after pre r).pos + n ≤ (after pre r).buffer.length
  · rw [if_pos h] at hbytes
    rw [dif_pos h]
    obtain ⟨s, ⟨hs, -⟩, hrest⟩ := hbytes
    exact ⟨s, hs, hrest⟩
  · rw [dif_neg h]

theorem atomic_getStr (n : ℕ) : Read.Atomic (getStr n)
    (fun v s => s = v ∧ s.length = n) (after pre r) := by
  have hbytes := atomic_getBytes pre r n
  unfold Read.Atomic at hbytes ⊢
  unfold getStr
  generalize getBytes n (after pre r) = read at hbytes ⊢
  obtain ⟨_ | v, c'⟩ := read
  · rfl
  · dsimp only at hbytes ⊢
    by_cases h : isUtf8 v = true
    · rw [if_pos h]
      exact hbytes
    · rw [if_neg h]

theorem atomic_find (x : UInt8) :
    Read.Atomic (find x) (fun _ s => s = []) (after pre r) := by
  unfold Read.Atomic find
  cases (after pre r).asSlice.findIdx? (· == x) with
  | none => rfl
  | some i => exact ⟨[], rfl, List.nil_prefix, rfl⟩

theorem atomic_find2 (x y : UInt8) :
    Read.Atomic (find2 x y) (fun _ s => s = []) (after pre r) := by
  unfold Read.Atomic find2
  cases (after pre r).asSlice.findIdx? (fun b => b == x || b == y) with
  | none => rfl
  | some i => exact ⟨[], rfl, List.nil_prefix, rfl⟩

theorem atomic_takeUntil2 (x y : UInt8) :
    Read.Atomic (takeUntil2 x y) (fun v s => s = v) (after pre r) := by
  unfold takeUntil2
  cases h : r.findIdx? (fun b => b == x || b == y) with
  | none =>
    have hfind : find2 x y (after pre r) = (.error (.needMoreBytes 1), after pre r) := by
      unfold find2
      rw [asSlice_after, h]
    exact Read.atomic_of_error (Read.bind_error hfind)
  | some i =>
    have hfind : find2 x y (after pre r) = (.ok i, after pre r) := by
      unfold find2
      rw [asSlice_after, h]
    obtain ⟨s, t, rfl, rfl⟩ := split_findIdx? h
    exact Read.atomic_of_ok ((Read.bind_ok hfind).trans (slice_apply pre s t)) rfl

theorem takeUntil_eq (x : UInt8) : takeUntil x = takeUntil2 x x := by
  unfold takeUntil takeUntil2
  refine congrArg (· >>= slice) ?_
  funext c
  unfold find find2
  simp only [Bool.or_self]

theorem atomic_getCstrFfi : Read.Atomic getCstrFfi
    (fun v s => s = v ∧ ∃ u, v = u ++ [0]) (after pre r) := by
  by_cases h0 : (0 : UInt8) ∈ r
  · obtain ⟨u, t, rfl, hu⟩ := List.eq_append_cons_of_mem h0
    have hcstr := getCstrFfi_after pre u t hu
    rw [List.append_assoc] at hcstr
    rw [show u ++ 0 :: t = (u ++ [0]) ++ t by simp] at hcstr ⊢
    exact Read.atomic_of_ok hcstr ⟨rfl, u, rfl⟩
  · exact Read.atomic_of_error (getCstrFfi_none pre r h0)

theorem atomic_getCstr :
    Read.Atomic getCstr (fun v s => s = CursorOp.cstr v) (after pre r) := by
  refine (atomic_getCstrFfi pre r).map ?_
  rintro v s ⟨rfl, u, rfl⟩
  rw [toBytes, List.dropLast_concat]
  rfl

theorem atomic_expect (s : Bytes) :
    Read.Atomic (expect s) (fun _ s' => s' = s) (after pre r) := by
  by_cases h1 : r.length < s.length
  · have herror : expect s (after pre r) = (.error (.needMoreBytes _), after pre r) :=
      if_pos (by rwa [remaining_after])
    exact Read.atomic_of_error herror
  · by_cases h2 : s.isPrefixOf r = true
    · obtain ⟨t, rfl⟩ := List.isPrefixOf_iff_prefix.1 h2
      exact Read.atomic_of_ok (expect_after pre s t) rfl
    · have herror : expect s (after pre r) = (.error .expect, after pre r) := by
        unfold expect
        rw [remaining_after, if_neg h1, asSlice_after, if_neg h2]
      exact Read.atomic_of_error herror

theorem atomic_takeWhile (cond : UInt8 → Bool) :
    Read.Atomic (takeWhile cond) (fun v s => s = v) (after pre r) := by
  cases h : r.findIdx? (fun b => !cond b) with
  | none =>
    have herror : takeWhile cond (after pre r) = (.error (.needMoreBytes 1), after pre r) := by
      unfold takeWhile
      rw [asSlice_after, h]
    exact Read.atomic_of_error herror
  | some i =>
    obtain ⟨s, t, rfl, rfl⟩ := split_findIdx? h
    have hok : takeWhile cond (after pre (s ++ t)) = (.ok s, after (pre ++ s) t) := by
      unfold takeWhile
      rw [asSlice_after, h]
      exact getBytes_after pre s t rfl
    exact Read.atomic_of_ok hok rfl

theorem atomic_getTail :
    Read.Atomic getTail (fun v s => s = v) (after pre r) := by
  have htail : (getTail : Read CursorError Bytes) (after pre (r ++ [])) =
      (.ok r, after (pre ++ r) []) := by
    rw [List.append_nil]
    exact getTail_after pre r
  have h : Read.Atomic getTail (fun v s => s = v) (after pre (r ++ [])) :=
    Read.atomic_of_ok htail rfl
  rwa [List.append_nil] at h

theorem atomic_expectEmpty :
    Read.Atomic expectEmpty (fun _ s => s = []) (after pre r) := by
  unfold Read.Atomic expectEmpty
  cases (after pre r).hasRemaining with
  | false => exact ⟨[], rfl, List.nil_prefix, rfl⟩
  | true => rfl

/-- The next C string, if there is one, is text. -/
def NextUtf8 (c : Cursor) : Prop :=
  ∀ s t, c.asSlice = s ++ 0 :: t → (0 : UInt8) ∉ s → isUtf8 s = true

theorem getCstrAsStr_none {r : Bytes} (h0 : (0 : UInt8) ∉ r) :
    getCstrAsStr (after pre r) = (.error (.needMoreBytes 1), after pre r) :=
  Read.bind_error (Read.bind_error (getCstrFfi_none pre r h0))

/-- The position is behind the string, whether it is text or not. -/
theorem getCstrAsStr_after {u : Bytes} (hu : (0 : UInt8) ∉ u) :
    getCstrAsStr (after pre (u ++ 0 :: t)) =
      (if isUtf8 u then .ok u else .error .invalidString, after (pre ++ (u ++ [0])) t) := by
  unfold getCstrAsStr
  rw [Read.bind_ok (getCstr_after pre u t hu), List.append_assoc]
  by_cases h : isUtf8 u = true
  · rw [if_pos h, if_pos h]
    rfl
  · rw [if_neg h, if_neg h]
    rfl

theorem atomic_getCstrAsStr_iff :
    Read.Atomic getCstrAsStr (fun v s => s = CursorOp.cstr v) (after pre r) ↔
      NextUtf8 (after pre r) := by
  unfold NextUtf8
  rw [asSlice_after]
  by_cases h0 : (0 : UInt8) ∈ r
  · obtain ⟨u, t, rfl, hu⟩ := List.eq_append_cons_of_mem h0
    have hread := getCstrAsStr_after pre t hu
    by_cases h : isUtf8 u = true
    · rw [if_pos h] at hread
      rw [show u ++ 0 :: t = (u ++ [0]) ++ t by simp] at hread
      refine iff_of_true ?_ fun s t' hs hs0 => ?_
      · rw [show u ++ 0 :: t = (u ++ [0]) ++ t by simp]
        exact Read.atomic_of_ok hread rfl
      · have hsame := getCstr_after pre u t hu
        rw [hs, getCstr_after pre s t' hs0] at hsame
        rwa [Except.ok.inj (congrArg Prod.fst hsame)]
    · rw [if_neg h] at hread
      refine iff_of_false ?_ fun hs => h (hs u t rfl hu)
      unfold Read.Atomic
      rw [hread]
      intro hc
      have hpos := congrArg Cursor.pos hc
      simp [after] at hpos
  · refine iff_of_true (Read.atomic_of_error (getCstrAsStr_none pre h0)) ?_
    rintro s t rfl
    exact absurd (List.mem_append_right s List.mem_cons_self) h0

theorem stays_getCstrAsStr : Read.Stays getCstrAsStr (after pre r) := by
  by_cases h0 : (0 : UInt8) ∈ r
  · obtain ⟨u, t, rfl, hu⟩ := List.eq_append_cons_of_mem h0
    refine ⟨u ++ [0], ?_, ?_⟩
    · rw [asSlice_after]
      exact ⟨t, by simp⟩
    · rw [getCstrAsStr_after pre t hu, show u ++ 0 :: t = (u ++ [0]) ++ t by simp]
      exact (moved_after pre _ t).symm
  · have hatomic : Read.Atomic getCstrAsStr (fun _ _ => True) (after pre r) :=
      Read.atomic_of_error (getCstrAsStr_none pre h0)
    exact hatomic.stays

end Cursor

namespace CursorOp

variable (bigEndian : Bool)

/-- Every operation but one is atomic wherever the cursor is. -/
theorem atomic_run {op : CursorOp} (hop : op ≠ getCstrAsStr) (pre r : Bytes) :
    (op.run bigEndian).Atomic (op.Consumes bigEndian) (.after pre r) := by
  cases op with
  | getTail => exact Cursor.atomic_getTail pre r
  | getBytes count => exact Cursor.atomic_getBytes pre r count
  | advance count => exact (Cursor.atomic_getBytes pre r count).map fun _ _ h => h.2
  | getArray n => exact Cursor.atomic_getArray pre r n
  | getStr n => exact Cursor.atomic_getStr pre r n
  | find x => exact Cursor.atomic_find pre r x
  | find2 x y => exact Cursor.atomic_find2 pre r x y
  | takeUntil x =>
    have h := Cursor.atomic_takeUntil2 pre r x x
    rwa [← Cursor.takeUntil_eq] at h
  | takeUntil2 x y => exact Cursor.atomic_takeUntil2 pre r x y
  | getCstrFfi =>
    refine (Cursor.atomic_getCstrFfi pre r).imp fun v s h => h.1
  | getCstr => exact Cursor.atomic_getCstr pre r
  | getCstrAsStr => exact absurd rfl hop
  | getU8 =>
    refine (Cursor.atomic_getBytes pre r 1).map ?_
    rintro v s ⟨rfl, hlen⟩
    obtain ⟨b, rfl⟩ := List.length_eq_one_iff.1 hlen
    rfl
  | getI8 =>
    refine (Cursor.atomic_getArray pre r 1).map ?_
    rintro ⟨v, hlen⟩ s rfl
    obtain ⟨b, rfl⟩ := List.length_eq_one_iff.1 hlen
    show [b] = [b.toInt8.toUInt8]
    rw [UInt8.toUInt8_toInt8]
  | getNum t o =>
    refine (Cursor.atomic_getArray pre r t.size).map ?_
    rintro ⟨v, hlen⟩ s rfl
    exact ⟨hlen, rfl⟩
  | expect s => exact Cursor.atomic_expect pre r s
  | expectEmpty => exact Cursor.atomic_expectEmpty pre r
  | takeWhile cond => exact Cursor.atomic_takeWhile pre r cond

theorem stays_run (op : CursorOp) {c : Cursor} (h : c.pos ≤ c.buffer.length) :
    (op.run bigEndian).Stays c := by
  obtain ⟨pre, r, rfl⟩ := Cursor.eq_after h
  by_cases hop : op = getCstrAsStr
  · subst hop
    exact Cursor.stays_getCstrAsStr pre r
  · exact (atomic_run bigEndian hop pre r).stays

/-- The cursor of a buffer after some operations. -/
def reach (buffer : Bytes) (ops : List CursorOp) : Cursor :=
  ops.foldl (fun c op => (op.run bigEndian c).2) (.new buffer)

theorem reach_pos_le (buffer : Bytes) (ops : List CursorOp) :
    (reach bigEndian buffer ops).buffer = buffer ∧
      (reach bigEndian buffer ops).pos ≤ buffer.length := by
  induction ops using List.reverseRecOn with
  | nil => exact ⟨rfl, Nat.zero_le _⟩
  | append_singleton ops op ih =>
    obtain ⟨hbuffer, hpos⟩ := ih
    have hle : (reach bigEndian buffer ops).pos ≤ (reach bigEndian buffer ops).buffer.length := by
      rwa [hbuffer]
    have hstep := (stays_run bigEndian op hle).pos_le hle
    unfold reach at hstep hbuffer ⊢
    rw [List.foldl_append]
    rwa [hbuffer] at hstep

end CursorOp

/-- After any operations the position is in the buffer, and stays there; an operation moves over the
bytes that it consumes, or not at all, except where the next C string is read as text and is not
UTF-8. -/
theorem reads_atomic_iff (bigEndian : Bool) (buffer : Bytes) (ops : List CursorOp)
    (op : CursorOp) :
    ((CursorOp.reach bigEndian buffer ops).pos ≤ buffer.length ∧
      (op.run bigEndian (CursorOp.reach bigEndian buffer ops)).2.pos ≤ buffer.length ∧
      (op.run bigEndian).Atomic (op.Consumes bigEndian) (CursorOp.reach bigEndian buffer ops)) ↔
    (op = .getCstrAsStr → (CursorOp.reach bigEndian buffer ops).NextUtf8) := by
  obtain ⟨hbuffer, hpos⟩ := CursorOp.reach_pos_le bigEndian buffer ops
  generalize CursorOp.reach bigEndian buffer ops = c at hbuffer hpos ⊢
  subst hbuffer
  have hstays := ((op.stays_run bigEndian hpos).pos_le hpos).2
  rw [and_iff_right hpos, and_iff_right hstays]
  obtain ⟨pre, r, rfl⟩ := Cursor.eq_after hpos
  by_cases hop : op = .getCstrAsStr
  · subst hop
    rw [forall_prop_of_true rfl]
    exact Cursor.atomic_getCstrAsStr_iff pre r
  · exact iff_of_true (CursorOp.atomic_run bigEndian hop pre r) fun h => absurd h hop

/-- A string that is not text is passed, though the read fails. -/
theorem read_not_atomic : ¬ ∀ (bigEndian : Bool) (buffer : Bytes) (ops : List CursorOp)
    (op : CursorOp),
    (op.run bigEndian).Atomic (op.Consumes bigEndian) (CursorOp.reach bigEndian buffer ops) := by
  intro h
  have hatomic := h false [0xff, 0] [] .getCstrAsStr
  have hmoved : Cursor.mk [0xff, 0] 2 = Cursor.mk [0xff, 0] 0 := hatomic
  exact absurd hmoved (by decide)

end Xash3d
