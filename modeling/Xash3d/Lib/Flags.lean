import Mathlib

/-!
# Bit flags

Sets of flags kept in the bits of a machine word. `has_set` and `contains_single` reduce the
operations on a single flag to the membership test `has`, by which two sets of flags are compared
(`Flags.ext_has`).
-/

namespace Xash3d.Lib

/-- A set of flags in a `w`-bit word. -/
structure Flags (w : ℕ) where
  bits : BitVec w
  deriving DecidableEq

namespace Flags

variable {w : ℕ}

/-- No flags. -/
def empty : Flags w := ⟨0⟩

/-- The flag of bit `k`. -/
def single (k : ℕ) : Flags w := ⟨BitVec.twoPow w k⟩

def insert (f g : Flags w) : Flags w := ⟨f.bits ||| g.bits⟩

def remove (f g : Flags w) : Flags w := ⟨f.bits &&& ~~~g.bits⟩

/-- Insert the flags `g` if `v` holds, and remove them otherwise. -/
def set (f g : Flags w) (v : Bool) : Flags w := if v then f.insert g else f.remove g

def inter (f g : Flags w) : Flags w := ⟨f.bits &&& g.bits⟩

/-- All flags of `g` are in `f`. -/
def contains (f g : Flags w) : Bool := f.bits &&& g.bits == g.bits

/-- Some flag of `g` is in `f`. -/
def intersects (f g : Flags w) : Bool := f.bits &&& g.bits != 0

/-- There are no flags. -/
def isEmpty (f : Flags w) : Bool := f.bits == 0

/-- Bit `k` is set. -/
def has (f : Flags w) (k : ℕ) : Bool := f.bits.getLsbD k

instance : Inhabited (Flags w) := ⟨empty⟩

variable {f g : Flags w} {i k : ℕ} {v : Bool}

theorem ext_has (h : ∀ i < w, f.has i = g.has i) : f = g := by
  obtain ⟨f⟩ := f
  obtain ⟨g⟩ := g
  congr 1
  exact BitVec.eq_of_getLsbD_eq h

@[simp] theorem has_empty : (empty : Flags w).has i = false := by simp [has, empty]

theorem has_of_le (h : w ≤ i) : f.has i = false := BitVec.getLsbD_of_ge _ _ h

@[simp] theorem has_inter : (f.inter g).has i = (f.has i && g.has i) := by simp [has, inter]

theorem has_union : (f.insert g).has i = (f.has i || g.has i) := by simp [has, insert]

theorem has_remove : (f.remove g).has i = (f.has i && !g.has i) := by
  unfold has remove
  rw [BitVec.getLsbD_and, BitVec.getLsbD_not]
  by_cases hi : i < w
  · rw [decide_eq_true hi, Bool.true_and]
  · rw [BitVec.getLsbD_of_ge f.bits i (by omega), Bool.false_and, Bool.false_and]

theorem has_single (hk : k < w) : (single k : Flags w).has i = decide (i = k) := by
  unfold has single
  rw [BitVec.getLsbD_twoPow]
  by_cases h : i = k
  · subst h; simp [hk]
  · simp [h, Ne.symm h]

theorem has_set (hk : k < w) : (f.set (single k) v).has i = if i = k then v else f.has i := by
  have hs := has_single (i := i) hk
  unfold has at hs ⊢
  by_cases h : i = k
  · subst h
    cases v <;> simp_all [set, insert, remove]
  · by_cases hi : i < w
    · cases v <;> simp_all [set, insert, remove]
    · rw [BitVec.getLsbD_of_ge _ _ (by omega), BitVec.getLsbD_of_ge _ _ (by omega), if_neg h]

theorem contains_single (hk : k < w) : f.contains (single k) = f.has k := by
  have hs : ∀ i, (BitVec.twoPow w k).getLsbD i = decide (i = k) := fun i => has_single hk
  unfold contains single has
  cases hf : f.bits.getLsbD k with
  | true =>
    rw [beq_iff_eq]
    refine BitVec.eq_of_getLsbD_eq fun i hi => ?_
    rw [BitVec.getLsbD_and, hs]
    by_cases h : i = k
    · subst h; simp [hf]
    · simp [h]
  | false =>
    rw [beq_eq_false_iff_ne]
    intro he
    have := congrArg (BitVec.getLsbD · k) he
    simp [BitVec.getLsbD_and, hs, hf] at this

theorem has_insert (hk : k < w) : (f.insert (single k)).has i = (decide (i = k) || f.has i) := by
  have h := has_set (f := f) (i := i) (v := true) hk
  rw [set, if_pos rfl] at h
  rw [h]
  by_cases hi : i = k
  · rw [if_pos hi, decide_eq_true hi, Bool.true_or]
  · rw [if_neg hi, decide_eq_false hi, Bool.false_or]

theorem isEmpty_iff : f.isEmpty = true ↔ ∀ i, f.has i = false := by
  unfold isEmpty has
  rw [beq_iff_eq]
  constructor
  · rintro h i
    rw [h]
    simp
  · intro h
    refine BitVec.eq_of_getLsbD_eq fun i _ => ?_
    rw [h i]
    simp

theorem intersects_single (hk : k < w) : f.intersects (single k) = f.has k := by
  have hmask : f.intersects (single k) = !(f.inter (single k)).isEmpty := rfl
  rw [hmask]
  cases hf : f.has k with
  | true =>
    have hne : ¬ (f.inter (single k)).isEmpty = true := by
      intro h
      have hbit := isEmpty_iff.1 h k
      rw [has_inter, has_single hk, hf] at hbit
      simp at hbit
    rw [eq_false_of_ne_true hne, Bool.not_false]
  | false =>
    have he : (f.inter (single k)).isEmpty = true := by
      refine isEmpty_iff.2 fun i => ?_
      rw [has_inter, has_single hk]
      by_cases hi : i = k
      · rw [hi, hf, Bool.false_and]
      · rw [decide_eq_false hi, Bool.and_false]
    rw [he, Bool.not_true]

theorem contains_iff : f.contains g = true ↔ ∀ i, g.has i = true → f.has i = true := by
  unfold contains has
  rw [beq_iff_eq]
  constructor
  · intro he i hi
    rw [← he, BitVec.getLsbD_and, Bool.and_eq_true] at hi
    exact hi.1
  · intro h
    refine BitVec.eq_of_getLsbD_eq fun i _ => ?_
    rw [BitVec.getLsbD_and]
    cases hg : g.bits.getLsbD i with
    | true => simp [h i hg]
    | false => simp

end Flags

end Xash3d.Lib
