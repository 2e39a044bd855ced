import Mathlib

/-!
# Checked computations

Additions of machine words, slices, and calls with a precondition, each of which may end in a
`Fault`. A computation without faults is one that ends in `.ok`; `calls_ok` carries this over any
number of calls of a step that keeps an invariant.
-/

namespace Xash3d.Lib

/-- What may go wrong. -/
inductive Fault where
  /-- The result of an addition or a subtraction is not a word. -/
  | overflow
  /-- A range or an index is outside of its slice. -/
  | slice
  /-- A call breaks the precondition of an unsafe function. -/
  | undefined
  deriving DecidableEq

variable {α β S : Type}

/-- The addition of words of 64 bits. -/
def wordAdd (x y : ℕ) : Except Fault ℕ :=
  if x + y < 2 ^ 64 then .ok (x + y) else .error .overflow

/-- The subtraction of words. -/
def wordSub (x y : ℕ) : Except Fault ℕ := if y ≤ x then .ok (x - y) else .error .overflow

/-- The part of a slice from an offset up to another one. -/
def sliceRange (s : List α) (start stop : ℕ) : Except Fault (List α) :=
  if start ≤ stop ∧ stop ≤ s.length then .ok ((s.take stop).drop start) else .error .slice

/-- The same part, where the caller answers for the range. -/
def getUnchecked (s : List α) (start stop : ℕ) : Except Fault (List α) :=
  if start ≤ stop ∧ stop ≤ s.length then .ok ((s.take stop).drop start) else .error .undefined

def sliceIndex (s : List α) (i : ℕ) : Except Fault α :=
  if h : i < s.length then .ok (s.get ⟨i, h⟩) else .error .slice

/-- An unsafe call, whose precondition the caller answers for. -/
def require (p : Prop) [Decidable p] (a : α) : Except Fault α :=
  if p then .ok a else .error .undefined

theorem wordAdd_ok {x y : ℕ} (h : x + y < 2 ^ 64) : wordAdd x y = .ok (x + y) := if_pos h

theorem wordSub_ok {x y : ℕ} (h : y ≤ x) : wordSub x y = .ok (x - y) := if_pos h

theorem sliceRange_ok {s : List α} {start stop : ℕ} (h : start ≤ stop) (hs : stop ≤ s.length) :
    sliceRange s start stop = .ok ((s.take stop).drop start) := if_pos ⟨h, hs⟩

/-- The rest of a slice. -/
theorem sliceRange_rest {s : List α} {start : ℕ} (h : start ≤ s.length) :
    sliceRange s start s.length = .ok (s.drop start) := by
  rw [sliceRange_ok h le_rfl, List.take_length]

theorem getUnchecked_ok {s : List α} {start stop : ℕ} (h : start ≤ stop) (hs : stop ≤ s.length) :
    getUnchecked s start stop = .ok ((s.take stop).drop start) := if_pos ⟨h, hs⟩

theorem require_ok {p : Prop} [Decidable p] (h : p) (a : α) : require p a = .ok a := if_pos h

/-- A computation without faults has had none so far. -/
theorem of_bind_ok {r : Except Fault α} {f : α → Except Fault β} {b : β}
    (h : (r >>= f) = .ok b) : ∃ a, r = .ok a ∧ f a = .ok b := by
  cases r with
  | error fault => cases h
  | ok a => exact ⟨a, rfl, h⟩

theorem of_getUnchecked {s t : List α} {start stop : ℕ} (h : getUnchecked s start stop = .ok t) :
    start ≤ stop ∧ stop ≤ s.length ∧ t = (s.take stop).drop start := by
  unfold getUnchecked at h
  by_cases hrange : start ≤ stop ∧ stop ≤ s.length
  · rw [if_pos hrange] at h
    exact ⟨hrange.1, hrange.2, (Except.ok.inj h).symm⟩
  · rw [if_neg hrange] at h
    cases h

theorem of_wordAdd {x y n : ℕ} (h : wordAdd x y = .ok n) : n = x + y := by
  unfold wordAdd at h
  by_cases hlt : x + y < 2 ^ 64
  · rw [if_pos hlt] at h
    exact (Except.ok.inj h).symm
  · rw [if_neg hlt] at h
    cases h

/-! ## Calls -/

/-- What a number of calls have returned. -/
def returned (step : S → β × S) : ℕ → S → List β
  | 0, _ => []
  | n + 1, s => (step s).1 :: returned step n (step s).2

/-- The same calls with checks. -/
def calls (step : S → Except Fault (β × S)) : ℕ → S → Except Fault (List β)
  | 0, _ => .ok []
  | n + 1, s => do
    let (b, s) ← step s
    let bs ← calls step n s
    return b :: bs

/-- Calls that keep an invariant have no fault if one of them has none. -/
theorem calls_ok {checked : S → Except Fault (β × S)} {step : S → β × S} {Inv : S → Prop}
    (hstep : ∀ s, Inv s → checked s = .ok (step s) ∧ Inv (step s).2) {s : S} (h : Inv s) (n : ℕ) :
    calls checked n s = .ok (returned step n s) := by
  induction n generalizing s with
  | zero => rfl
  | succ n ih =>
    obtain ⟨hok, hinv⟩ := hstep s h
    rw [calls, hok]
    show ((calls checked n (step s).2).bind fun bs => .ok ((step s).1 :: bs)) = _
    rw [ih hinv]
    rfl

end Xash3d.Lib
