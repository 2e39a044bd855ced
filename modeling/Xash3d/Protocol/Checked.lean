import Xash3d.Lib.Faults
import Xash3d.Protocol.CursorOps

/-!
# Reads with their checks

The reads of a cursor with every addition, every range of a slice and every precondition of an
unsafe function as the source has them. A read is `Safe` at a cursor if it has no fault there and
does what the read of the model does; `Safe.bind` follows a decoder line by line.
-/

namespace Xash3d

open Lib

/-- A read that may end in a fault, or returns a result and the cursor it leaves. -/
def Checked (ε α : Type) := Cursor → Except Fault (Except ε α × Cursor)

namespace Checked

variable {ε ε' α β : Type}

instance : Monad (Checked ε) where
  pure a := fun c => .ok (.ok a, c)
  bind m f := fun c => match m c with
    | .ok (.ok a, c') => f a c'
    | .ok (.error e, c') => .ok (.error e, c')
    | .error fault => .error fault

theorem bind_apply (m : Checked ε α) (f : α → Checked ε β) (c : Cursor) :
    (m >>= f) c = match m c with
      | .ok (.ok a, c') => f a c'
      | .ok (.error e, c') => .ok (.error e, c')
      | .error fault => .error fault := rfl

/-- A computation that does not read. -/
def check (r : Except Fault α) : Checked ε α := fun c => r.map fun a => (.ok a, c)

def fail (e : ε) : Checked ε α := fun c => .ok (.error e, c)

def ofExcept (r : Except ε α) : Checked ε α := fun c => .ok (r, c)

/-- A computation with its result, which does not read. -/
def outcome (r : Except Fault (Except ε α)) : Checked ε α := fun c => r.map fun x => (x, c)

/-- Run a read and go on with its result, whether it failed or not. -/
def attempt (m : Checked ε α) : Checked ε' (Except ε α) := fun c =>
  (m c).map fun x => (.ok x.1, x.2)

/-- A read inside a packet decoder. -/
def lift (m : Checked CursorError α) : Checked ProtocolError α := fun c =>
  (m c).map fun x => (x.1.mapError .cursorError, x.2)

/-- The result of a read on a packet. -/
def run (m : Checked ε α) (src : Bytes) : Except Fault (Except ε α) :=
  (m ⟨src, 0⟩).map Prod.fst

/-! ## Reads -/

/-- The bytes not read yet, of `end` and `as_slice`. -/
def rest : Checked ε Bytes := fun c => do
  let s ← sliceRange c.buffer c.pos c.buffer.length
  return (.ok s, c)

def remaining : Checked ε ℕ := fun c => do
  let n ← wordSub c.buffer.length c.pos
  return (.ok n, c)

def hasRemaining : Checked ε Bool := fun c => .ok (.ok c.hasRemaining, c)

def getTail : Checked ε Bytes := fun c => do
  if c.pos < c.buffer.length then
    let tail ← sliceRange c.buffer c.pos c.buffer.length
    return (.ok tail, { c with pos := c.buffer.length })
  else return (.ok [], c)

def getBytes (count : ℕ) : Checked CursorError Bytes := fun c => do
  let e ← wordAdd c.pos count
  if e ≤ c.buffer.length then
    let bytes ← sliceRange c.buffer c.pos e
    return (.ok bytes, { c with pos := e })
  else
    let n ← wordSub e c.buffer.length
    return (.error (.needMoreBytes n), c)

def advance (count : ℕ) : Checked CursorError Unit := do
  let _ ← getBytes count
  return ()

/-- `copy_from_slice` into an array, whose length must be that of the slice. -/
def copyFromSlice (n : ℕ) (s : Bytes) : Except Fault (ByteArr n) :=
  if h : s.length = n then .ok ⟨s, h⟩ else .error .slice

def getArray (n : ℕ) : Checked CursorError (ByteArr n) := do
  let s ← getBytes n
  check (copyFromSlice n s)

/-- A number out of an array of bytes. -/
def getNum (n : ℕ) (ofBytes : Bytes → α) : Checked CursorError α := do
  let array ← getArray n
  return ofBytes array.1

def getU8 : Checked CursorError UInt8 := do
  let array ← getArray 1
  check (sliceIndex array.1 0)

def getU16Le : Checked CursorError UInt16 := getNum 2 ofU16Le

def getU32Le : Checked CursorError UInt32 := getNum 4 ofU32Le

def getU64Le : Checked CursorError UInt64 := getNum 8 ofU64Le

def getU16Be : Checked CursorError UInt16 := getNum 2 ofU16Be

def getI32Le : Checked CursorError Int32 := getNum 4 fun s => (ofU32Le s).toInt32

/-- The bits of a float. -/
def getF32Le : Checked CursorError UInt32 := getNum 4 ofU32Le

/-- Read `n` bytes of text with a copy of the cursor, which replaces it if they are UTF-8. -/
def getStr (n : ℕ) : Checked CursorError Bytes := fun c => do
  match ← getBytes n c with
  | (.ok s, c') => return if isUtf8 s then (.ok s, c') else (.error .invalidString, c)
  | (.error e, _) => return (.error e, c)

/-- The first of the bytes not read yet that is searched for. -/
def search (p : UInt8 → Bool) : Checked CursorError ℕ := fun c => do
  let s ← sliceRange c.buffer c.pos c.buffer.length
  match s.findIdx? p with
  | some i => return (.ok i, c)
  | none => return (.error (.needMoreBytes 1), c)

def find (x : UInt8) : Checked CursorError ℕ := search (· == x)

def find2 (x y : UInt8) : Checked CursorError ℕ := search fun b => b == x || b == y

/-- The bytes up to the end of what was found. -/
def sliceTo (e : ℕ) : Checked CursorError Bytes := fun c => do
  let s ← sliceRange c.buffer c.pos e
  return (.ok s, { c with pos := e })

/-- The addition of an offset to the position. -/
def posAdd (n : ℕ) : Checked CursorError ℕ := fun c => do
  let e ← wordAdd c.pos n
  return (.ok e, c)

def takeUntil2 (x y : UInt8) : Checked CursorError Bytes := do
  let i ← find2 x y
  let e ← posAdd i
  sliceTo e

/-- The slice ends with its only zero byte. -/
def IsCstr (s : Bytes) : Prop := s.count 0 = 1 ∧ s.getLast? = some 0

instance : DecidablePred IsCstr := fun _ => inferInstanceAs (Decidable (_ ∧ _))

def getCstrFfi : Checked CursorError Bytes := do
  let i ← find 0
  let e ← posAdd i
  let e ← check (wordAdd e 1)
  let s ← sliceTo e
  -- `CStr::from_bytes_with_nul_unchecked`
  check (require (IsCstr s) s)

def getCstr : Checked CursorError Bytes := do
  let s ← getCstrFfi
  return Cursor.toBytes s

def expect (s : Bytes) : Checked CursorError Unit := do
  let n ← remaining
  if n < s.length then
    let n ← check (wordSub s.length n)
    fail (.needMoreBytes n)
  else
    let r ← rest
    if s.isPrefixOf r then advance s.length else fail .expect

def expectEmpty : Checked CursorError Unit := fun c =>
  if c.hasRemaining then .ok (.error .expectEmpty, c) else .ok (.ok (), c)

/-- The bytes before the first one that fails a condition; there must be such a byte. -/
def takeWhile (cond : UInt8 → Bool) : Checked CursorError Bytes := do
  let s ← rest
  match s.findIdx? (fun b => !cond b) with
  | some n => getBytes n
  | none => fail (.needMoreBytes 1)

end Checked

/-! ## Reads without faults -/

/-- The position is in the buffer, which is no larger than an object may be. -/
def Cursor.Fits (c : Cursor) : Prop := c.pos ≤ c.buffer.length ∧ c.buffer.length < 2 ^ 63

/-- The read has no fault and does what the read of the model does. -/
def Safe {ε α : Type} (m : Checked ε α) (m' : Read ε α) (c : Cursor) : Prop :=
  m c = .ok (m' c) ∧ (m' c).2.Fits

namespace Safe

variable {ε ε' α β γ : Type} {c : Cursor}

theorem pure (hc : c.Fits) (a : α) : Safe (Pure.pure a : Checked ε α) (Pure.pure a) c := ⟨rfl, hc⟩

theorem fail (hc : c.Fits) (e : ε) : Safe (Checked.fail e : Checked ε α) (Read.fail e) c := ⟨rfl, hc⟩

theorem ofExcept (hc : c.Fits) (r : Except ε α) : Safe (Checked.ofExcept r) (Read.ofExcept r) c :=
  ⟨rfl, hc⟩

theorem outcome (hc : c.Fits) {r : Except Fault (Except ε α)} {x : Except ε α} (hr : r = .ok x) :
    Safe (Checked.outcome r) (Read.ofExcept x) c := by
  subst hr
  exact ⟨rfl, hc⟩

theorem bind {m : Checked ε α} {m' : Read ε α} {f : α → Checked ε β} {f' : α → Read ε β}
    (hm : Safe m m' c) (hf : ∀ a c', c'.Fits → m' c = (.ok a, c') → Safe (f a) (f' a) c') :
    Safe (m >>= f) (m' >>= f') c := by
  obtain ⟨hok, hfits⟩ := hm
  unfold Safe
  rw [Checked.bind_apply, hok, Read.bind_apply]
  rcases hc : m' c with ⟨r, c'⟩
  rw [hc] at hfits
  cases r with
  | ok a => exact hf a c' hfits hc
  | error e => exact ⟨rfl, hfits⟩

theorem congr {m : Checked ε α} {m' m'' : Read ε α} (h : Safe m m' c) (heq : m'' c = m' c) :
    Safe m m'' c := by
  unfold Safe at h ⊢
  rwa [heq]

/-- A check that the model leaves out. -/
theorem check {r : Except Fault γ} {x : γ} {f : γ → Checked ε β} {f' : Read ε β} (hr : r = .ok x)
    (hf : Safe (f x) f' c) : Safe (Checked.check r >>= f) f' c := by
  subst hr
  exact hf

theorem remaining {f : ℕ → Checked ε β} {f' : Read ε β} (hc : c.Fits)
    (hf : Safe (f c.asSlice.length) f' c) : Safe (Checked.remaining >>= f) f' c := by
  have hread : (Checked.remaining : Checked ε ℕ) c = .ok (.ok c.asSlice.length, c) := by
    unfold Checked.remaining
    rw [wordSub_ok hc.1, Cursor.asSlice, List.length_drop]
    rfl
  unfold Safe at hf ⊢
  rw [Checked.bind_apply, hread]
  exact hf

theorem attempt {m : Checked ε α} {m' : Read ε α} (hm : Safe m m' c) :
    Safe (m.attempt : Checked ε' _) m'.attempt c := by
  obtain ⟨hok, hfits⟩ := hm
  refine ⟨?_, hfits⟩
  unfold Checked.attempt Read.attempt
  rw [hok]
  rfl

theorem lift {m : Checked CursorError α} {m' : Read CursorError α} (hm : Safe m m' c) :
    Safe m.lift m'.lift c := by
  obtain ⟨hok, hfits⟩ := hm
  refine ⟨?_, hfits⟩
  unfold Checked.lift Read.lift Read.mapError
  rw [hok]
  rfl

theorem ite {p : Prop} [Decidable p] {m n : Checked ε α} {m' n' : Read ε α}
    (hm : p → Safe m m' c) (hn : ¬ p → Safe n n' c) :
    Safe (if p then m else n) (if p then m' else n') c := by
  by_cases h : p
  · rw [if_pos h, if_pos h]
    exact hm h
  · rw [if_neg h, if_neg h]
    exact hn h

/-- A packet is read from its start. -/
theorem run {m : Checked ε α} {m' : Read ε α} {src : Bytes} (hsrc : src.length < 2 ^ 63)
    (hm : ∀ c, c.Fits → Safe m m' c) : m.run src = .ok (m'.run src) := by
  obtain ⟨hok, -⟩ := hm ⟨src, 0⟩ ⟨Nat.zero_le _, hsrc⟩
  unfold Checked.run Read.run
  rw [hok]
  rfl

/-- A check of a result, which the model leaves out. -/
theorem guarded {m : Checked ε α} {m' : Read ε α} {r : α → Except Fault α} (hm : Safe m m' c)
    (hr : ∀ a c', m' c = (.ok a, c') → r a = .ok a) :
    Safe (m >>= fun a => Checked.check (r a)) m' c := by
  obtain ⟨hok, hfits⟩ := hm
  refine ⟨?_, hfits⟩
  rw [Checked.bind_apply, hok]
  rcases hc : m' c with ⟨res, c'⟩
  cases res with
  | error e => rfl
  | ok a =>
    have ha := hr a c' hc
    dsimp only
    rw [ha]
    rfl

end Safe

/-! ### The reads of a cursor -/

/-- The searches of the model, which are for one byte or two. -/
def Cursor.search (p : UInt8 → Bool) : Read CursorError ℕ := fun c =>
  match c.asSlice.findIdx? p with
  | some i => (.ok i, c)
  | none => (.error (.needMoreBytes 1), c)

section

variable {ε α β : Type} {c : Cursor}

/-- An operation of a cursor keeps it in its buffer. -/
theorem Cursor.Fits.stays {m : Read CursorError α} (hc : c.Fits) (h : m.Stays c) :
    (m c).2.Fits := by
  obtain ⟨hbuffer, hpos⟩ := h.pos_le hc.1
  exact ⟨hbuffer ▸ hpos, hbuffer ▸ hc.2⟩

theorem Cursor.Fits.run (hc : c.Fits) (op : CursorOp) : ((op.run false) c).2.Fits :=
  hc.stays (op.stays_run false hc.1)

theorem Cursor.Fits.length_asSlice_lt (hc : c.Fits) : c.asSlice.length < 2 ^ 63 := by
  rw [Cursor.asSlice, List.length_drop]
  have hlen := hc.2
  omega

namespace Safe

theorem rest (hc : c.Fits) : Safe (Checked.rest : Checked ε Bytes) Cursor.rest c := by
  refine ⟨?_, hc⟩
  unfold Checked.rest
  rw [sliceRange_rest hc.1]
  rfl

/-- A look at the rest of the buffer. -/
theorem withRest {f : Bytes → Checked ε β} {f' : Read ε β} (hc : c.Fits)
    (hf : Safe (f c.asSlice) f' c) : Safe (Checked.rest >>= f) f' c := by
  unfold Safe at hf ⊢
  rw [Checked.bind_apply, (rest hc).1]
  exact hf

theorem hasRemaining {f : Bool → Checked ε β} {f' : Bytes → Read ε β}
    (hf : Safe (f !c.asSlice.isEmpty) (f' c.asSlice) c) :
    Safe (Checked.hasRemaining >>= f) (Cursor.rest >>= f') c := by
  have hread : c.hasRemaining = !c.asSlice.isEmpty := by
    rw [Bool.eq_iff_iff, Bool.not_eq_true', List.isEmpty_eq_false_iff, Ne, Cursor.asSlice,
      List.drop_eq_nil_iff, not_le]
    exact decide_eq_true_iff
  unfold Safe at hf ⊢
  rw [← hread] at hf
  exact hf

theorem getTail (hc : c.Fits) :
    Safe (Checked.getTail : Checked CursorError Bytes) Cursor.getTail c := by
  refine ⟨?_, hc.run .getTail⟩
  unfold Checked.getTail Cursor.getTail
  rw [sliceRange_rest hc.1]
  by_cases h : c.pos < c.buffer.length
  · rw [if_pos h, if_pos h]
    rfl
  · rw [if_neg h, if_neg h]
    rfl

theorem getBytes (hc : c.Fits) {count : ℕ} (h : count < 2 ^ 63) :
    Safe (Checked.getBytes count) (Cursor.getBytes count) c := by
  refine ⟨?_, hc.run (.getBytes count)⟩
  obtain ⟨hpos, hlen⟩ := hc
  unfold Checked.getBytes Cursor.getBytes
  rw [wordAdd_ok (by omega)]
  show (if c.pos + count ≤ c.buffer.length then _ else _) = _
  by_cases hle : c.pos + count ≤ c.buffer.length
  · rw [if_pos hle, if_pos hle, sliceRange_ok (Nat.le_add_right _ _) hle]
    rfl
  · rw [if_neg hle, if_neg hle, wordSub_ok (by omega)]
    rfl

theorem advance (hc : c.Fits) {count : ℕ} (h : count < 2 ^ 63) :
    Safe (Checked.advance count) (Cursor.advance count) c :=
  (getBytes hc h).bind fun _ _ hc _ => .pure hc _

theorem getArray (hc : c.Fits) {n : ℕ} (h : n < 2 ^ 63) :
    Safe (Checked.getArray n) (Cursor.getArray n) c := by
  refine ⟨?_, hc.run (.getArray n)⟩
  have hbytes := (getBytes hc h).1
  unfold Checked.getArray
  rw [Checked.bind_apply, hbytes]
  unfold Cursor.getBytes Cursor.getArray
  by_cases hle : c.pos + n ≤ c.buffer.length
  · have hlen : ((c.buffer.take (c.pos + n)).drop c.pos).length = n := by simp; omega
    rw [dif_pos hle]
    simp only [hle, if_true]
    unfold Checked.check Checked.copyFromSlice
    rw [dif_pos hlen]
    rfl
  · rw [dif_neg hle]
    simp only [hle, if_false]

theorem getNum (hc : c.Fits) {n : ℕ} (h : n < 2 ^ 63) (ofBytes : Bytes → α) :
    Safe (Checked.getNum n ofBytes) (Cursor.getBytes n >>= fun s => Pure.pure (ofBytes s)) c := by
  rw [← Cursor.getArray_eq]
  exact (getArray hc h).bind fun _ _ hc _ => .pure hc _

theorem getU16Le (hc : c.Fits) : Safe Checked.getU16Le Cursor.getU16Le c :=
  getNum hc (by decide) _

theorem getU32Le (hc : c.Fits) : Safe Checked.getU32Le Cursor.getU32Le c :=
  getNum hc (by decide) _

theorem getU64Le (hc : c.Fits) : Safe Checked.getU64Le Cursor.getU64Le c :=
  getNum hc (by decide) _

theorem getU16Be (hc : c.Fits) : Safe Checked.getU16Be Cursor.getU16Be c :=
  getNum hc (by decide) _

theorem getI32Le (hc : c.Fits) : Safe Checked.getI32Le Cursor.getI32Le c :=
  getNum hc (by decide) _

theorem getF32Le (hc : c.Fits) : Safe Checked.getF32Le Cursor.getF32Le c :=
  getNum hc (by decide) _

theorem getU8 (hc : c.Fits) : Safe Checked.getU8 Cursor.getU8 c := by
  unfold Cursor.getU8
  rw [← Cursor.getArray_eq 1 fun s => s.headD 0]
  refine (getArray hc (by decide)).bind fun array _ hc _ => ?_
  obtain ⟨s, hs⟩ := array
  obtain ⟨b, rfl⟩ := List.length_eq_one_iff.1 hs
  exact ⟨rfl, hc⟩

theorem getStr (hc : c.Fits) {n : ℕ} (h : n < 2 ^ 63) :
    Safe (Checked.getStr n) (Cursor.getStr n) c := by
  refine ⟨?_, hc.run (.getStr n)⟩
  unfold Checked.getStr Cursor.getStr
  rw [(getBytes hc h).1]
  rcases Cursor.getBytes n c with ⟨_ | s, c'⟩
  · rfl
  · rfl

theorem search (hc : c.Fits) (p : UInt8 → Bool) : Safe (Checked.search p) (Cursor.search p) c := by
  unfold Safe Checked.search Cursor.search
  rw [sliceRange_rest hc.1]
  show (match c.asSlice.findIdx? p with
    | some i => _
    | none => _) = _ ∧ _
  cases c.asSlice.findIdx? p with
  | none => exact ⟨rfl, hc⟩
  | some i => exact ⟨rfl, hc⟩

theorem find (hc : c.Fits) (x : UInt8) : Safe (Checked.find x) (Cursor.find x) c := search hc _

theorem find2 (hc : c.Fits) (x y : UInt8) : Safe (Checked.find2 x y) (Cursor.find2 x y) c :=
  search hc _

/-- What is found is in front of the cursor. -/
theorem search_ok {c' : Cursor} {p : UInt8 → Bool} {i : ℕ}
    (h : Cursor.search p c = (.ok i, c')) : c' = c ∧ c.pos + i < c.buffer.length := by
  unfold Cursor.search at h
  cases hidx : c.asSlice.findIdx? p with
  | none =>
    rw [hidx] at h
    cases h
  | some j =>
    rw [hidx] at h
    cases h
    have hi := lt_length_of_findIdx? hidx
    rw [Cursor.asSlice, List.length_drop] at hi
    exact ⟨rfl, by omega⟩

theorem posAdd {f : ℕ → Checked CursorError β} {f' : Read CursorError β} {n : ℕ}
    (h : c.pos + n < 2 ^ 64) (hf : Safe (f (c.pos + n)) f' c) :
    Safe (Checked.posAdd n >>= f) f' c := by
  have hread : Checked.posAdd n c = .ok (.ok (c.pos + n), c) := by
    unfold Checked.posAdd
    rw [wordAdd_ok h]
    rfl
  unfold Safe at hf ⊢
  rw [Checked.bind_apply, hread]
  exact hf

theorem sliceTo (hc : c.Fits) {n : ℕ} (h : c.pos + n ≤ c.buffer.length) :
    Safe (Checked.sliceTo (c.pos + n)) (Cursor.slice n) c := by
  refine ⟨?_, h, hc.2⟩
  unfold Checked.sliceTo
  rw [sliceRange_ok (Nat.le_add_right _ _) h]
  rfl

theorem takeUntil2 (hc : c.Fits) (x y : UInt8) :
    Safe (Checked.takeUntil2 x y) (Cursor.takeUntil2 x y) c := by
  apply (find2 hc x y).bind
  intro i c' _ hfind
  obtain ⟨rfl, hi⟩ := search_ok hfind
  have hlen := hc.2
  apply posAdd
  · omega
  · exact sliceTo hc hi.le

/-- A C string ends with its only zero byte. -/
theorem isCstr_of_getCstrFfi {c' : Cursor} {s : Bytes} (hc : c.Fits)
    (h : Cursor.getCstrFfi c = (.ok s, c')) : Checked.IsCstr s := by
  obtain ⟨pre, r, rfl⟩ := Cursor.eq_after hc.1
  have hatomic := Cursor.atomic_getCstrFfi pre r
  unfold Read.Atomic at hatomic
  rw [h] at hatomic
  obtain ⟨s, ⟨rfl, u, rfl⟩, -⟩ := hatomic
  have h0 := Cursor.getCstrFfi_ok h
  rw [Cursor.toBytes, List.dropLast_concat] at h0
  refine ⟨?_, List.getLast?_concat⟩
  rw [List.count_append, List.count_eq_zero.2 h0]
  rfl

theorem length_of_getCstrFfi {c' : Cursor} {s : Bytes} (hc : c.Fits)
    (h : Cursor.getCstrFfi c = (.ok s, c')) : (Cursor.toBytes s).length < 2 ^ 63 := by
  have hlen := hc.length_asSlice_lt
  obtain ⟨pre, r, rfl⟩ := Cursor.eq_after hc.1
  have hatomic := Cursor.atomic_getCstrFfi pre r
  unfold Read.Atomic at hatomic
  rw [h] at hatomic
  obtain ⟨s, ⟨rfl, -⟩, hprefix, -⟩ := hatomic
  have hle := hprefix.length_le
  rw [Cursor.toBytes, List.length_dropLast]
  omega

theorem getCstrFfi (hc : c.Fits) : Safe Checked.getCstrFfi Cursor.getCstrFfi c := by
  apply (find hc 0).bind
  intro i c' _ hfind
  obtain ⟨rfl, hi⟩ := search_ok hfind
  have hlen := hc.2
  apply posAdd (by omega)
  apply check (wordAdd_ok (by omega))
  have hslice : Safe (Checked.sliceTo (c'.pos + i + 1)) (Cursor.slice (i + 1)) c' :=
    sliceTo (n := i + 1) hc hi
  apply hslice.guarded
  intro s c'' hslice
  exact require_ok (isCstr_of_getCstrFfi hc ((Read.bind_ok hfind).trans hslice)) s

theorem getCstr (hc : c.Fits) : Safe Checked.getCstr Cursor.getCstr c :=
  (getCstrFfi hc).bind fun _ _ hc _ => .pure hc _

theorem expect (hc : c.Fits) {s : Bytes} (h : s.length < 2 ^ 63) :
    Safe (Checked.expect s) (Cursor.expect s) c := by
  have hlen : c.asSlice.length = c.remaining := List.length_drop
  apply remaining hc
  rw [hlen]
  by_cases hshort : c.remaining < s.length
  · rw [if_pos hshort]
    apply check (wordSub_ok hshort.le)
    exact (fail hc _).congr (if_pos hshort)
  · have hread : Cursor.expect s c =
        if s.isPrefixOf c.asSlice then Cursor.advance s.length c else (.error .expect, c) :=
      if_neg hshort
    rw [if_neg hshort]
    apply withRest hc
    by_cases hprefix : s.isPrefixOf c.asSlice = true
    · rw [if_pos hprefix] at hread ⊢
      exact (advance hc h).congr hread
    · rw [if_neg hprefix] at hread ⊢
      exact (fail hc _).congr hread

theorem expectEmpty (hc : c.Fits) : Safe Checked.expectEmpty Cursor.expectEmpty c := by
  refine ⟨?_, hc.run .expectEmpty⟩
  unfold Checked.expectEmpty Cursor.expectEmpty
  by_cases h : c.hasRemaining = true
  · rw [if_pos h, if_pos h]
  · rw [if_neg h, if_neg h]

theorem takeWhile (hc : c.Fits) (cond : UInt8 → Bool) :
    Safe (Checked.takeWhile cond) (Cursor.takeWhile cond) c := by
  have hread : Cursor.takeWhile cond c = match c.asSlice.findIdx? (fun b => !cond b) with
    | some n => Cursor.getBytes n c
    | none => (.error (.needMoreBytes 1), c) := rfl
  apply withRest hc
  cases hidx : c.asSlice.findIdx? (fun b => !cond b) with
  | none =>
    rw [hidx] at hread
    exact (fail hc _).congr hread
  | some n =>
    have hn := lt_length_of_findIdx? hidx
    have hlen : c.asSlice.length < 2 ^ 63 := hc.length_asSlice_lt
    rw [hidx] at hread
    exact (getBytes hc (hn.trans hlen)).congr hread

end Safe

end

end Xash3d
