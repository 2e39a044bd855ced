import Xash3d.Lib.Bytes
import Xash3d.Lib.Search

/-!
# Errors and cursors

`Cursor` reads a packet, `CursorMut` fills a buffer. A read is a function of the cursor that
returns a result and the cursor it leaves, also when it fails; a write returns the filled cursor
or `bufferOverflow`.

`Cursor.after pre rest` is the cursor of `pre ++ rest` that has read `pre`: the read lemmas are
stated on it. `Writes p s` says that the write `p` appends exactly `s`, so an encoder is known
from the bytes it writes (`Writes.run`).
-/

namespace Xash3d

open Lib

/-- The error type for `Cursor` and `CursorMut`. -/
inductive CursorError where
  | invalidNumber
  | invalidString
  | invalidBool
  | invalidTableKey
  | invalidTableValue
  | tableEnd
  | expect
  | expectEmpty
  | expectFull
  | needMoreBytes (n : ℕ)
  | bufferOverflow
  deriving DecidableEq

/-- The error type for decoding and encoding packets. -/
inductive ProtocolError where
  | invalidPacket
  | invalidMap
  | invalidRegion
  | invalidClientAnnounceIp
  | invalidQueryServersLast
  | invalidProtocolVersion
  | cursorError (e : CursorError)
  | invalidServerValue (key : String) (e : CursorError)
  | invalidFilterValue (key : String) (e : CursorError)
  deriving DecidableEq

/-! ## Reading -/

/-- A packet and the position of the next byte to read. -/
structure Cursor where
  buffer : Bytes
  pos : ℕ
  deriving DecidableEq

/-- A read: its result, and the cursor it leaves. -/
def Read (ε α : Type) := Cursor → Except ε α × Cursor

namespace Read

variable {ε ε' α β : Type}

instance : Monad (Read ε) where
  pure a := fun c => (.ok a, c)
  bind m f := fun c => match m c with
    | (.ok a, c') => f a c'
    | (.error e, c') => (.error e, c')

/-- Fail without moving. -/
def fail (e : ε) : Read ε α := fun c => (.error e, c)

/-- Run a read and go on with its result, whether it failed or not. -/
def attempt (m : Read ε α) : Read ε' (Except ε α) := fun c => (.ok (m c).1, (m c).2)

/-- Convert the error of a read. -/
def mapError (f : ε → ε') (m : Read ε α) : Read ε' α := fun c => ((m c).1.mapError f, (m c).2)

/-- The result of a read on a packet. -/
def run (m : Read ε α) (src : Bytes) : Except ε α := (m ⟨src, 0⟩).1

@[simp] theorem pure_apply (a : α) (c : Cursor) : (pure a : Read ε α) c = (.ok a, c) := rfl

theorem bind_apply (m : Read ε α) (f : α → Read ε β) (c : Cursor) :
    (m >>= f) c = match m c with
      | (.ok a, c') => f a c'
      | (.error e, c') => (.error e, c') := rfl

theorem bind_ok {m : Read ε α} {f : α → Read ε β} {c c' : Cursor} {a : α}
    (h : m c = (.ok a, c')) : (m >>= f) c = f a c' := by rw [bind_apply, h]

theorem bind_error {m : Read ε α} {f : α → Read ε β} {c c' : Cursor} {e : ε}
    (h : m c = (.error e, c')) : (m >>= f) c = (.error e, c') := by rw [bind_apply, h]

/-- A read inside a packet decoder. -/
def lift (m : Read CursorError α) : Read ProtocolError α := m.mapError .cursorError

/-- A result that does not depend on the cursor. -/
def ofExcept (r : Except ε α) : Read ε α := fun c => (r, c)

theorem lift_ok {m : Read CursorError α} {c c' : Cursor} {a : α} (h : m c = (.ok a, c')) :
    m.lift c = (.ok a, c') := by unfold lift mapError; rw [h]; rfl

theorem lift_error {m : Read CursorError α} {c c' : Cursor} {e : CursorError}
    (h : m c = (.error e, c')) : m.lift c = (.error (.cursorError e), c') := by
  unfold lift mapError
  rw [h]
  rfl

theorem bind_eq_ok {m : Read ε α} {f : α → Read ε β} {c c' : Cursor} {b : β}
    (h : (m >>= f) c = (.ok b, c')) : ∃ a c₁, m c = (.ok a, c₁) ∧ f a c₁ = (.ok b, c') := by
  rw [bind_apply] at h
  rcases hm : m c with ⟨r, c₁⟩
  rw [hm] at h
  cases r with
  | error e => cases h
  | ok a => exact ⟨a, c₁, rfl, h⟩

theorem lift_eq_ok {m : Read CursorError α} {c c' : Cursor} {a : α}
    (h : m.lift c = (.ok a, c')) : m c = (.ok a, c') := by
  unfold lift mapError at h
  rcases hm : m c with ⟨r, c₁⟩
  rw [hm] at h
  cases r with
  | error e => cases h
  | ok b =>
    cases h
    rfl

@[simp] theorem ofExcept_apply (r : Except ε α) (c : Cursor) : ofExcept r c = (r, c) := rfl

theorem attempt_eq_ok {m : Read ε α} {c c' : Cursor} {r : Except ε α}
    (h : (m.attempt : Read ε' _) c = (.ok r, c')) : m c = (r, c') := by
  unfold attempt at h
  cases h
  rfl

theorem attempt_apply {m : Read ε α} {c c' : Cursor} {r : Except ε α} (h : m c = (r, c')) :
    (m.attempt : Read ε' _) c = (.ok r, c') := by unfold attempt; rw [h]

end Read

namespace Cursor

/-- The cursor at the start of a packet. -/
def new (buffer : Bytes) : Cursor := ⟨buffer, 0⟩

/-- The bytes not read yet, of `end` and `as_slice`. -/
def asSlice (c : Cursor) : Bytes := c.buffer.drop c.pos

def remaining (c : Cursor) : ℕ := c.buffer.length - c.pos

def hasRemaining (c : Cursor) : Bool := c.pos < c.buffer.length

/-- The bytes not read yet, as a read. -/
def rest {ε : Type} : Read ε Bytes := fun c => (.ok c.asSlice, c)

def getBytes (count : ℕ) : Read CursorError Bytes := fun c =>
  let e := c.pos + count
  if e ≤ c.buffer.length then (.ok ((c.buffer.take e).drop c.pos), { c with pos := e })
  else (.error (.needMoreBytes (e - c.buffer.length)), c)

/-- The bytes not read yet, which are read then. -/
def getTail {ε : Type} : Read ε Bytes := fun c =>
  if c.pos < c.buffer.length then (.ok (c.buffer.drop c.pos), { c with pos := c.buffer.length })
  else (.ok [], c)

def advance (count : ℕ) : Read CursorError Unit := do
  let _ ← getBytes count
  return ()

def getArray (n : ℕ) : Read CursorError (ByteArr n) := fun c =>
  if h : c.pos + n ≤ c.buffer.length then
    (.ok ⟨(c.buffer.take (c.pos + n)).drop c.pos, by simp; omega⟩, { c with pos := c.pos + n })
  else (.error (.needMoreBytes (c.pos + n - c.buffer.length)), c)

/-- Read `n` bytes of text; the cursor moves only if they are UTF-8. -/
def getStr (n : ℕ) : Read CursorError Bytes := fun c =>
  match getBytes n c with
  | (.ok s, c') => if isUtf8 s then (.ok s, c') else (.error .invalidString, c)
  | (.error e, _) => (.error e, c)

def find (x : UInt8) : Read CursorError ℕ := fun c =>
  match c.asSlice.findIdx? (· == x) with
  | some i => (.ok i, c)
  | none => (.error (.needMoreBytes 1), c)

def find2 (x y : UInt8) : Read CursorError ℕ := fun c =>
  match c.asSlice.findIdx? (fun b => b == x || b == y) with
  | some i => (.ok i, c)
  | none => (.error (.needMoreBytes 1), c)

/-- The next `n` bytes, which the caller has found to be there. -/
def slice (n : ℕ) : Read CursorError Bytes := fun c =>
  (.ok ((c.buffer.take (c.pos + n)).drop c.pos), { c with pos := c.pos + n })

/-- The bytes before the next of two delimiters. -/
def takeUntil2 (x y : UInt8) : Read CursorError Bytes := do
  let i ← find2 x y
  slice i

/-- A C string with its terminator. -/
def getCstrFfi : Read CursorError Bytes := do
  let i ← find 0
  slice (i + 1)

/-- The bytes of a C string before its terminator. -/
def toBytes (cstr : Bytes) : Bytes := cstr.dropLast

def getCstr : Read CursorError Bytes := do
  let s ← getCstrFfi
  return toBytes s

def getU8 : Read CursorError UInt8 := do
  let s ← getBytes 1
  return s.headD 0

def getU32Le : Read CursorError UInt32 := do
  let s ← getBytes 4
  return ofU32Le s

def getI32Le : Read CursorError Int32 := do
  let s ← getBytes 4
  return (ofU32Le s).toInt32

/-- The bits of a float. -/
def getF32Le : Read CursorError UInt32 := do
  let s ← getBytes 4
  return ofU32Le s

def getU16Le : Read CursorError UInt16 := do
  let s ← getBytes 2
  return ofU16Le s

def getU64Le : Read CursorError UInt64 := do
  let s ← getBytes 8
  return ofU64Le s

def getU16Be : Read CursorError UInt16 := do
  let s ← getBytes 2
  return ofU16Be s

def expect (s : Bytes) : Read CursorError Unit := fun c =>
  if c.remaining < s.length then (.error (.needMoreBytes (s.length - c.remaining)), c)
  else if s.isPrefixOf c.asSlice then advance s.length c
  else (.error .expect, c)

def expectEmpty : Read CursorError Unit := fun c =>
  if c.hasRemaining then (.error .expectEmpty, c) else (.ok (), c)

/-- The bytes before the first one that fails a condition; there must be such a byte. -/
def takeWhile (cond : UInt8 → Bool) : Read CursorError Bytes := fun c =>
  match c.asSlice.findIdx? (fun b => !cond b) with
  | some n => getBytes n c
  | none => (.error (.needMoreBytes 1), c)

/-! ### Reads at a position -/

/-- The cursor of `pre ++ rest` that has read `pre`. -/
def after (pre rest : Bytes) : Cursor := ⟨pre ++ rest, pre.length⟩

variable (pre s t : Bytes)

theorem new_eq (src : Bytes) : (⟨src, 0⟩ : Cursor) = after [] src := rfl

@[simp] theorem asSlice_after : (after pre s).asSlice = s := List.drop_left

@[simp] theorem remaining_after : (after pre s).remaining = s.length := by simp [remaining, after]

@[simp] theorem hasRemaining_after : (after pre s).hasRemaining = !s.isEmpty := by
  cases s <;> simp [hasRemaining, after]

@[simp] theorem rest_after {ε : Type} : (rest : Read ε Bytes) (after pre s) = (.ok s, after pre s) := by
  simp [rest]

theorem moved_after : ({ after pre (s ++ t) with pos := pre.length + s.length } : Cursor) =
    after (pre ++ s) t := by simp [after]

theorem slice_after : ((after pre (s ++ t)).buffer.take (pre.length + s.length)).drop pre.length = s := by
  simp [after, List.take_append]

theorem getBytes_after {n : ℕ} (hn : s.length = n) :
    getBytes n (after pre (s ++ t)) = (.ok s, after (pre ++ s) t) := by
  subst hn
  have hle : (after pre (s ++ t)).pos + s.length ≤ (after pre (s ++ t)).buffer.length := by
    simp [after]
  unfold getBytes
  rw [if_pos hle]
  exact Prod.ext (congrArg Except.ok (slice_after pre s t)) (moved_after pre s t)

theorem getBytes_short {n : ℕ} (h : s.length < n) :
    ∃ e, getBytes n (after pre s) = (.error e, after pre s) := by
  unfold getBytes
  rw [if_neg (by simp only [after, List.length_append]; omega)]
  exact ⟨_, rfl⟩

theorem getArray_after {n : ℕ} (a : ByteArr n) :
    getArray n (after pre (a.1 ++ t)) = (.ok a, after (pre ++ a.1) t) := by
  obtain ⟨s, rfl⟩ := a
  have hle : (after pre (s ++ t)).pos + s.length ≤ (after pre (s ++ t)).buffer.length := by
    simp [after]
  unfold getArray
  rw [dif_pos hle]
  exact Prod.ext (congrArg Except.ok (Subtype.ext (slice_after pre s t))) (moved_after pre s t)

theorem getU8_after (x : UInt8) : getU8 (after pre (x :: t)) = (.ok x, after (pre ++ [x]) t) :=
  Read.bind_ok (getBytes_after pre [x] t rfl)

theorem getU32Le_after (v : UInt32) :
    getU32Le (after pre (u32Le v ++ t)) = (.ok v, after (pre ++ u32Le v) t) := by
  unfold getU32Le
  rw [Read.bind_ok (getBytes_after pre (u32Le v) t (length_u32Le v)), Read.pure_apply, ofU32Le_u32Le]

theorem getU16Le_after (v : UInt16) :
    getU16Le (after pre (u16Le v ++ t)) = (.ok v, after (pre ++ u16Le v) t) := by
  unfold getU16Le
  rw [Read.bind_ok (getBytes_after pre (u16Le v) t (length_u16Le v)), Read.pure_apply, ofU16Le_u16Le]

theorem getU64Le_after (v : UInt64) :
    getU64Le (after pre (u64Le v ++ t)) = (.ok v, after (pre ++ u64Le v) t) := by
  unfold getU64Le
  rw [Read.bind_ok (getBytes_after pre (u64Le v) t (length_u64Le v)), Read.pure_apply, ofU64Le_u64Le]

theorem getU16Be_after (v : UInt16) :
    getU16Be (after pre (u16Be v ++ t)) = (.ok v, after (pre ++ u16Be v) t) := by
  unfold getU16Be
  rw [Read.bind_ok (getBytes_after pre (u16Be v) t (length_u16Be v)), Read.pure_apply, ofU16Be_u16Be]

theorem expect_after : expect s (after pre (s ++ t)) = (.ok (), after (pre ++ s) t) := by
  unfold expect
  rw [if_neg (by simp), if_pos (by simp)]
  exact Read.bind_ok (getBytes_after pre s t rfl)

theorem expectEmpty_after : expectEmpty (after pre []) = (.ok (), after pre []) := by simp [expectEmpty]

theorem expectEmpty_more (ht : t ≠ []) :
    expectEmpty (after pre t) = (.error .expectEmpty, after pre t) := by
  unfold expectEmpty
  rw [hasRemaining_after, List.isEmpty_eq_false_iff.2 ht]
  rfl

/-- A C string ends at its first zero byte. -/
theorem getCstrFfi_after (hs : (0 : UInt8) ∉ s) :
    getCstrFfi (after pre (s ++ 0 :: t)) = (.ok (s ++ [0]), after (pre ++ s ++ [0]) t) := by
  have hfind : find 0 (after pre (s ++ 0 :: t)) = (.ok s.length, after pre (s ++ 0 :: t)) := by
    unfold find
    rw [asSlice_after, findIdx?_delim t hs]
  unfold getCstrFfi
  rw [Read.bind_ok hfind, show s.length + 1 = (s ++ [0]).length by simp,
    show s ++ 0 :: t = (s ++ [0]) ++ t by simp, List.append_assoc pre]
  exact Prod.ext (congrArg Except.ok (slice_after pre _ t)) (moved_after pre _ t)

theorem getCstr_after (hs : (0 : UInt8) ∉ s) :
    getCstr (after pre (s ++ 0 :: t)) = (.ok s, after (pre ++ s ++ [0]) t) := by
  unfold getCstr
  rw [Read.bind_ok (getCstrFfi_after pre s t hs)]
  simp [toBytes]

/-- No C string without a terminator. -/
theorem getCstrFfi_none (hs : (0 : UInt8) ∉ s) :
    getCstrFfi (after pre s) = (.error (.needMoreBytes 1), after pre s) := by
  have hfind : find 0 (after pre s) = (.error (.needMoreBytes 1), after pre s) := by
    unfold find
    rw [asSlice_after, findIdx?_of_not_mem hs]
  exact Read.bind_error hfind

/-- The bytes before a delimiter. -/
theorem takeUntil2_after {x y : UInt8} (hx : x ∉ s) (hy : y ∉ s) :
    takeUntil2 x y (after pre (s ++ x :: t)) = (.ok s, after (pre ++ s) (x :: t)) := by
  have hidx : (s ++ x :: t).findIdx? (fun b => b == x || b == y) = some s.length :=
    findIdx?_first (or_beq_eq_false_of_mem hx hy) (by simp) t
  have hfind : find2 x y (after pre (s ++ x :: t)) = (.ok s.length, after pre (s ++ x :: t)) := by
    unfold find2
    rw [asSlice_after, hidx]
  unfold takeUntil2
  rw [Read.bind_ok hfind]
  exact Prod.ext (congrArg Except.ok (slice_after pre s _)) (moved_after pre s _)

/-- There is no delimiter. -/
theorem takeUntil2_none {x y : UInt8} (hx : x ∉ s) (hy : y ∉ s) :
    takeUntil2 x y (after pre s) = (.error (.needMoreBytes 1), after pre s) := by
  have hfind : find2 x y (after pre s) = (.error (.needMoreBytes 1), after pre s) := by
    unfold find2
    rw [asSlice_after, List.findIdx?_eq_none_iff.2 (or_beq_eq_false_of_mem hx hy)]
  exact Read.bind_error hfind

theorem getTail_after {ε : Type} :
    (getTail : Read ε Bytes) (after pre s) = (.ok s, after (pre ++ s) []) := by
  unfold getTail
  by_cases hs : s = []
  · subst hs
    rw [if_neg (by simp [after])]
    simp
  · have hpos := List.length_pos_of_ne_nil hs
    rw [if_pos (by simp [after]; omega)]
    simp [after]

/-- The bytes that meet a condition end at the first one that fails it. -/
theorem takeWhile_after {cond : UInt8 → Bool} {x : UInt8} (hs : ∀ b ∈ s, cond b = true)
    (hx : cond x = false) :
    takeWhile cond (after pre (s ++ x :: t)) = (.ok s, after (pre ++ s) (x :: t)) := by
  have hmet : ∀ b ∈ s, (!cond b) = false := fun b hb => by rw [hs b hb, Bool.not_true]
  have hidx : (s ++ x :: t).findIdx? (fun b => !cond b) = some s.length :=
    findIdx?_first hmet (by rw [hx, Bool.not_false]) t
  unfold takeWhile
  rw [asSlice_after, hidx]
  exact getBytes_after pre s _ rfl

/-- Without a byte that fails the condition nothing is read. -/
theorem takeWhile_none {cond : UInt8 → Bool} (hs : ∀ b ∈ s, cond b = true) :
    takeWhile cond (after pre s) = (.error (.needMoreBytes 1), after pre s) := by
  have hidx : s.findIdx? (fun b => !cond b) = none := by
    rw [List.findIdx?_eq_none_iff]
    intro b hb
    rw [hs b hb]
    rfl
  unfold takeWhile
  rw [asSlice_after, hidx]

/-! ### What a successful read has found -/

theorem expect_ok {c c' : Cursor} {s : Bytes} (h : expect s c = (.ok (), c')) :
    c' = { c with pos := c.pos + s.length } := by
  unfold expect at h
  split at h
  · cases h
  · split at h
    · obtain ⟨bytes, c₁, hbytes, h⟩ := Read.bind_eq_ok h
      cases h
      unfold getBytes at hbytes
      dsimp only at hbytes
      split at hbytes
      · cases hbytes
        rfl
      · cases hbytes
    · cases h

/-- The bytes before the first byte of a kind are not of that kind. -/
theorem not_of_mem_slice {c : Cursor} {p : UInt8 → Bool} {i : ℕ}
    (h : c.asSlice.findIdx? p = some i) :
    ∀ b ∈ (c.buffer.take (c.pos + i)).drop c.pos, p b = false := by
  intro b hb
  rw [List.drop_take, Nat.add_sub_cancel_left] at hb
  exact not_of_mem_take h b hb

/-- The bytes before a terminator have no zero byte. -/
theorem getCstrFfi_ok {c c' : Cursor} {s : Bytes} (h : getCstrFfi c = (.ok s, c')) :
    (0 : UInt8) ∉ toBytes s := by
  obtain ⟨i, c₂, hfind, hslice⟩ := Read.bind_eq_ok h
  unfold find at hfind
  cases hidx : c.asSlice.findIdx? (· == 0) with
  | none =>
    rw [hidx] at hfind
    cases hfind
  | some j =>
    rw [hidx] at hfind
    cases hfind
    cases hslice
    have hlen : c.pos + (i + 1) - c.pos = i + 1 := by omega
    have hbytes : toBytes ((c.buffer.take (c.pos + (i + 1))).drop c.pos) ⊆
        (c.buffer.take (c.pos + i)).drop c.pos := by
      rw [toBytes, List.drop_take, List.drop_take, hlen, Nat.add_sub_cancel_left,
        List.dropLast_eq_take, List.take_take]
      exact List.take_subset_take_left _ (by simp)
    intro h0
    have hne := not_of_mem_slice hidx 0 (hbytes h0)
    exact absurd hne (by decide)

theorem getCstr_ok {c c' : Cursor} {s : Bytes} (h : getCstr c = (.ok s, c')) : (0 : UInt8) ∉ s := by
  obtain ⟨cstr, c₁, hcstr, h⟩ := Read.bind_eq_ok h
  cases h
  exact getCstrFfi_ok hcstr

/-- Without a terminator there is no zero byte. -/
theorem getCstrFfi_error {c c' : Cursor} {e : CursorError} (h : getCstrFfi c = (.error e, c')) :
    c' = c ∧ (0 : UInt8) ∉ c.asSlice := by
  unfold getCstrFfi at h
  rw [Read.bind_apply] at h
  unfold find at h
  cases hidx : c.asSlice.findIdx? (· == 0) with
  | none =>
    rw [hidx] at h
    cases h
    exact ⟨rfl, not_mem_of_findIdx? hidx⟩
  | some i =>
    rw [hidx] at h
    cases h

/-- The bytes before the first byte of a kind. -/
theorem slice_eq_takeWhile {c : Cursor} {p : UInt8 → Bool} {i : ℕ}
    (h : c.asSlice.findIdx? p = some i) :
    (c.buffer.take (c.pos + i)).drop c.pos = c.asSlice.takeWhile fun b => !p b := by
  rw [List.drop_take, Nat.add_sub_cancel_left, List.takeWhile_eq_take_findIdx_not]
  simp only [Bool.not_not]
  rw [(List.findIdx?_eq_some_iff_findIdx_eq.1 h).2]
  rfl

/-- What is taken are the bytes before a delimiter. -/
theorem takeUntil2_ok {c c' : Cursor} {x y : UInt8} {s : Bytes}
    (h : takeUntil2 x y c = (.ok s, c')) :
    s = c.asSlice.takeWhile (fun b => !(b == x || b == y)) ∧ x ∉ s ∧ y ∉ s := by
  obtain ⟨i, c₂, hfind, hslice⟩ := Read.bind_eq_ok h
  unfold find2 at hfind
  cases hidx : c.asSlice.findIdx? (fun b => b == x || b == y) with
  | none =>
    rw [hidx] at hfind
    cases hfind
  | some j =>
    rw [hidx] at hfind
    cases hfind
    cases hslice
    have hnot := not_of_mem_slice hidx
    exact ⟨slice_eq_takeWhile hidx, fun hx => by simpa using hnot x hx,
      fun hy => by simpa using hnot y hy⟩

/-- Without a delimiter nothing is read. -/
theorem takeUntil2_error {c c' : Cursor} {x y : UInt8} {e : CursorError}
    (h : takeUntil2 x y c = (.error e, c')) : c' = c ∧ x ∉ c.asSlice ∧ y ∉ c.asSlice := by
  unfold takeUntil2 at h
  rw [Read.bind_apply] at h
  unfold find2 at h
  cases hidx : c.asSlice.findIdx? (fun b => b == x || b == y) with
  | none =>
    rw [hidx] at h
    cases h
    have hnot := List.findIdx?_eq_none_iff.1 hidx
    exact ⟨rfl, fun hx => by simpa using hnot x hx, fun hy => by simpa using hnot y hy⟩
  | some i =>
    rw [hidx] at h
    cases h

end Cursor

/-! ## Headers -/

/-- A packet has at most one of two headers that are not prefixes of each other. -/
theorem not_isPrefixOf {h h' src : Bytes} (hd : ¬ h <+: h' ∧ ¬ h' <+: h)
    (hp : h.isPrefixOf src = true) : ¬ h'.isPrefixOf src = true := by
  intro hp'
  rw [List.isPrefixOf_iff_prefix] at hp hp'
  rcases List.prefix_or_prefix_of_prefix hp hp' with h1 | h1
  · exact hd.1 h1
  · exact hd.2 h1

/-- A decoder that expects a header accepts only packets with it. -/
theorem isPrefixOf_of_run {α : Type} {header src : Bytes} {m : Unit → Read ProtocolError α} {a : α}
    (h : Read.run ((Cursor.expect header).lift >>= m) src = .ok a) :
    header.isPrefixOf src = true := by
  unfold Read.run at h
  rw [Read.bind_apply] at h
  unfold Read.lift Read.mapError Cursor.expect at h
  by_cases h1 : (⟨src, 0⟩ : Cursor).remaining < header.length
  · rw [if_pos h1] at h
    cases h
  · rw [if_neg h1] at h
    by_cases h2 : header.isPrefixOf (Cursor.asSlice ⟨src, 0⟩) = true
    · exact h2
    · rw [if_neg h2] at h
      cases h

/-- On a packet without its header it fails with an error of the cursor. -/
theorem run_of_not_isPrefixOf {α : Type} {header src : Bytes} (m : Unit → Read ProtocolError α)
    (h : ¬ header.isPrefixOf src = true) :
    ∃ e, Read.run ((Cursor.expect header).lift >>= m) src = .error (.cursorError e) := by
  unfold Read.run
  rw [Read.bind_apply]
  unfold Read.lift Read.mapError Cursor.expect
  by_cases h1 : (⟨src, 0⟩ : Cursor).remaining < header.length
  · rw [if_pos h1]
    exact ⟨_, rfl⟩
  · have h2 : ¬ header.isPrefixOf (Cursor.asSlice ⟨src, 0⟩) = true := h
    rw [if_neg h1, if_neg h2]
    exact ⟨_, rfl⟩

/-! ## Decoders -/

namespace Read

variable {ε α β : Type}

/-- The read takes `s` off the rest of the packet, and returns `a`. -/
def Takes (m : Read ε α) (s : Bytes) (a : α) : Prop :=
  ∀ pre t, m (Cursor.after pre (s ++ t)) = (.ok a, Cursor.after (pre ++ s) t)

/-- Every result of the read has the property. -/
def Returns (m : Read ε α) (P : α → Prop) : Prop := ∀ c a c', m c = (.ok a, c') → P a

theorem Takes.pure (a : α) : Takes (Pure.pure a : Read ε α) [] a := fun pre t => by simp

theorem Takes.bind {m : Read ε α} {f : α → Read ε β} {s t : Bytes} {a : α} {b : β}
    (hm : Takes m s a) (hf : Takes (f a) t b) : Takes (m >>= f) (s ++ t) b := by
  intro pre u
  rw [List.append_assoc, bind_ok (hm pre (t ++ u)), hf (pre ++ s) u, List.append_assoc]

theorem Takes.lift {m : Read CursorError α} {s : Bytes} {a : α} (hm : Takes m s a) :
    Takes m.lift s a := fun pre t => lift_ok (hm pre t)

/-- The first read of a decoder. -/
theorem Takes.bind_after {m : Read ε α} {f : α → Read ε β} {s pre t : Bytes} {a : α}
    (hm : Takes m s a) : (m >>= f) (Cursor.after pre (s ++ t)) = f a (Cursor.after (pre ++ s) t) :=
  bind_ok (hm pre t)

theorem Returns.bind {m : Read ε α} {f : α → Read ε β} {P : α → Prop} {Q : β → Prop}
    (hm : Returns m P) (hf : ∀ a, P a → Returns (f a) Q) : Returns (m >>= f) Q := by
  intro c b c' h
  obtain ⟨a, c₁, ha, hb⟩ := bind_eq_ok h
  exact hf a (hm c a c₁ ha) c₁ b c' hb

/-- A read of which nothing is known. -/
theorem Returns.bind_any {m : Read ε α} {f : α → Read ε β} {Q : β → Prop}
    (hf : ∀ a, Returns (f a) Q) : Returns (m >>= f) Q := by
  intro c b c' h
  obtain ⟨a, c₁, -, hb⟩ := bind_eq_ok h
  exact hf a c₁ b c' hb

theorem Returns.pure {a : α} {P : α → Prop} (h : P a) : Returns (Pure.pure a : Read ε α) P := by
  rintro c b c' hb
  cases hb
  exact h

theorem Returns.fail {e : ε} {P : α → Prop} : Returns (Read.fail e : Read ε α) P := by
  rintro c b c' hb
  cases hb

theorem Returns.lift {m : Read CursorError α} {P : α → Prop} (hm : Returns m P) :
    Returns m.lift P := fun c a c' h => hm c a c' (lift_eq_ok h)

/-- What a decoder accepts. -/
theorem Returns.run {m : Read ε α} {P : α → Prop} {src : Bytes} {a : α} (hm : Returns m P)
    (h : m.run src = .ok a) : P a := hm ⟨src, 0⟩ a _ (Prod.ext h rfl)

end Read

namespace Cursor

variable {s : Bytes}

theorem takes_expect (s : Bytes) : Read.Takes (expect s) s () := fun pre t => expect_after pre s t

theorem takes_u8 (x : UInt8) : Read.Takes getU8 [x] x := fun pre t => getU8_after pre t x

theorem takes_u16Le (v : UInt16) : Read.Takes getU16Le (u16Le v) v :=
  fun pre t => getU16Le_after pre t v

theorem takes_u32Le (v : UInt32) : Read.Takes getU32Le (u32Le v) v :=
  fun pre t => getU32Le_after pre t v

theorem takes_u64Le (v : UInt64) : Read.Takes getU64Le (u64Le v) v :=
  fun pre t => getU64Le_after pre t v

theorem takes_cstr (hs : (0 : UInt8) ∉ s) : Read.Takes getCstr (s ++ [0]) s := by
  intro pre t
  rw [List.append_assoc, ← List.append_assoc pre]
  exact getCstr_after pre s t hs

theorem returns_cstr : Read.Returns getCstr fun s => (0 : UInt8) ∉ s :=
  fun _ _ _ h => getCstr_ok h

end Cursor

/-! ## Writing -/

/-- A buffer of `cap` bytes filled up to its position, at an offset in an outer buffer. -/
structure CursorMut where
  cap : ℕ
  data : Bytes
  offset : ℕ
  fits : data.length ≤ cap

/-- A write. -/
abbrev Put := CursorMut → Except CursorError CursorMut

namespace CursorMut

def new (cap : ℕ) : CursorMut := ⟨cap, [], 0, Nat.zero_le _⟩

def pos (c : CursorMut) : ℕ := c.offset + c.data.length

/-- The position in the current chunk of the buffer. -/
def currentPos (c : CursorMut) : ℕ := c.data.length

def available (c : CursorMut) : ℕ := c.cap - c.data.length

def putBytes (s : Bytes) : Put := fun c =>
  if h : c.data.length + s.length ≤ c.cap then
    .ok { c with data := c.data ++ s, fits := by simpa using h }
  else .error .bufferOverflow

def putU8 (n : UInt8) : Put := putBytes [n]

def putU32Le (n : UInt32) : Put := putBytes (u32Le n)

def putU16Be (n : UInt16) : Put := putBytes (u16Be n)

def putU16Le (n : UInt16) : Put := putBytes (u16Le n)

def putU64Le (n : UInt64) : Put := putBytes (u64Le n)

def putCstr (s : Bytes) : Put := putBytes s >=> putU8 0

/-- Every byte of the buffer has been written. -/
def expectFull (c : CursorMut) : Except CursorError Unit :=
  if c.data.length = c.cap then .ok () else .error .expectFull

/-- Split into two parts after `len` more bytes: the first keeps what was written. -/
def split (len : ℕ) (c : CursorMut) : Except CursorError (CursorMut × CursorMut) :=
  let newPos := c.data.length + len
  if newPos ≤ c.cap then
    .ok (⟨newPos, c.data, c.offset, Nat.le_add_right _ _⟩,
      ⟨c.cap - newPos, [], c.offset + newPos, Nat.zero_le _⟩)
  else .error .bufferOverflow

/-- Write the pieces a formatter produces, one after another. -/
def putAsStr : List Bytes → Put
  | [] => .ok
  | s :: ps => fun c => do
    let c ← putBytes s c
    putAsStr ps c

/-- Write `\key\value`, the value by `put`. -/
def putKey (key : String) (put : Put) : Put :=
  putU8 92 >=> putBytes (ascii key) >=> putU8 92 >=> put

end CursorMut

open CursorMut

/-- Fill a buffer of `cap` bytes; the packet is what was written. -/
def encodeTo (cap : ℕ) (p : Put) : Except ProtocolError Bytes :=
  ((p (.new cap)).map CursorMut.data).mapError .cursorError

/-- The write appends exactly `s`, or fails when `s` does not fit. -/
def Writes (p : Put) (s : Bytes) : Prop := ∀ c, p c = putBytes s c

namespace Writes

variable {p q : Put} {s t : Bytes}

theorem putBytes (s : Bytes) : Writes (putBytes s) s := fun _ => rfl

theorem putBytes_nil (c : CursorMut) : CursorMut.putBytes [] c = .ok c := by
  unfold CursorMut.putBytes
  rw [dif_pos (by simpa using c.fits)]
  simp

theorem putBytes_append (s t : Bytes) :
    (CursorMut.putBytes s >=> CursorMut.putBytes t) = CursorMut.putBytes (s ++ t) := by
  funext c
  unfold CursorMut.putBytes
  simp only [Bind.kleisliRight, bind, Except.bind]
  by_cases hs : c.data.length + s.length ≤ c.cap
  · rw [dif_pos hs]
    simp only [List.length_append, List.append_assoc, Nat.add_assoc]
  · rw [dif_neg hs, dif_neg (by simp; omega)]

theorem seq (hp : Writes p s) (hq : Writes q t) : Writes (p >=> q) (s ++ t) := by
  have hp' : p = CursorMut.putBytes s := funext hp
  have hq' : q = CursorMut.putBytes t := funext hq
  rw [hp', hq', putBytes_append]
  exact putBytes _

theorem putU8 (n : UInt8) : Writes (putU8 n) [n] := fun _ => rfl

theorem putU32Le (n : UInt32) : Writes (putU32Le n) (u32Le n) := fun _ => rfl

theorem putU16Be (n : UInt16) : Writes (putU16Be n) (u16Be n) := fun _ => rfl

theorem putU16Le (n : UInt16) : Writes (putU16Le n) (u16Le n) := fun _ => rfl

theorem putU64Le (n : UInt64) : Writes (putU64Le n) (u64Le n) := fun _ => rfl

theorem putCstr (s : Bytes) : Writes (putCstr s) (s ++ [0]) := (putBytes s).seq (putU8 0)

theorem putAsStr (ps : List Bytes) : Writes (putAsStr ps) ps.flatten := by
  induction ps with
  | nil => exact fun c => (putBytes_nil c).symm
  | cons s ps ih => exact (putBytes s).seq ih

theorem putKey (key : String) (hp : Writes p s) :
    Writes (putKey key p) (92 :: (ascii key ++ 92 :: s)) :=
  (putU8 92).seq ((putBytes (ascii key)).seq ((putU8 92).seq hp))

/-- An encoder succeeds exactly when its bytes fit in the buffer. -/
theorem run (hp : Writes p s) (cap : ℕ) :
    encodeTo cap p = if s.length ≤ cap then .ok s else .error (.cursorError .bufferOverflow) := by
  unfold encodeTo
  rw [hp, CursorMut.putBytes]
  by_cases h : s.length ≤ cap
  · rw [if_pos h, dif_pos (by simpa [CursorMut.new] using h)]
    simp [Except.map, Except.mapError, CursorMut.new]
  · rw [if_neg h, dif_neg (by simpa [CursorMut.new] using h)]
    rfl

/-- What an encoder returns are its bytes. -/
theorem eq_of_encoded {fits : Prop} [Decidable fits] {out : Bytes} {e : ProtocolError}
    (h : (if fits then .ok s else .error e) = Except.ok out) : out = s := by
  by_cases hfits : fits
  · rw [if_pos hfits] at h
    exact (Except.ok.inj h).symm
  · rw [if_neg hfits] at h
    cases h

theorem run_ok {cap : ℕ} {out : Bytes} (hp : Writes p s) (h : encodeTo cap p = .ok out) :
    out = s ∧ s.length ≤ cap := by
  rw [hp.run] at h
  split at h
  · exact ⟨(Except.ok.inj h).symm, ‹_›⟩
  · cases h

end Writes

end Xash3d
