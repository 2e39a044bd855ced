import Mathlib

/-!
# Spaced times

Times of which each is by `len` later than the ones before it: not many fit into an interval.
-/

namespace Xash3d.Lib

/-- Each time is by `len` later than the ones before it. -/
def Spaced (len : ℕ) (ts : List ℕ) : Prop := ts.Pairwise fun t t' => t + len ≤ t'

namespace Spaced

variable {len : ℕ} {ts : List ℕ}

theorem nil : Spaced len [] := List.Pairwise.nil

theorem cons {t : ℕ} (h : Spaced len ts) (ht : ∀ t' ∈ ts, t + len ≤ t') : Spaced len (t :: ts) :=
  List.pairwise_cons.2 ⟨ht, h⟩

theorem length_le (h : Spaced len ts) {a b : ℕ} (hts : ∀ t ∈ ts, a ≤ t ∧ t ≤ b) :
    ts.length * len ≤ b - a + len := by
  induction ts generalizing a with
  | nil => simp
  | cons t ts ih =>
    obtain ⟨hlater, hrest⟩ := List.pairwise_cons.1 h
    have ht := hts t List.mem_cons_self
    rcases ts with _ | ⟨t', ts⟩
    · simp
    · have ht' := hts t' (by simp)
      have hnext := hlater t' List.mem_cons_self
      have hlen := ih hrest (a := t + len) fun t'' h'' =>
        ⟨hlater t'' h'', (hts t'' (List.mem_cons_of_mem t h'')).2⟩
      rw [List.length_cons, add_mul]
      omega

/-- An interval holds at most one time for each length that fits into it, and one more. -/
theorem countP_le (h : Spaced len ts) (a b : ℕ) :
    ts.countP (fun t => a ≤ t ∧ t ≤ b) * len ≤ b - a + len := by
  rw [List.countP_eq_length_filter]
  refine length_le (List.Pairwise.filter _ h) fun t ht => ?_
  simpa using (List.mem_filter.1 ht).2

end Spaced

end Xash3d.Lib
