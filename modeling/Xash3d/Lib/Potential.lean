import Xash3d.Lib.Run

/-!
# Costs of a run

`emitted` is what the inputs of a run emit in the states they meet, and `tally` adds up what they cost
there. A potential that pays for each cost bounds the whole: `exists_done` says when something must
have happened, `tally_le` how often one thing happens for another, and `tally_eq` what is conserved.
-/

namespace Xash3d.Lib

variable {S I O M : Type*} [AddCommMonoid M]

/-- What a run emits. -/
def emitted (step : S → I → S) (emits : S → I → List O) : S → List I → List O
  | _, [] => []
  | s, x :: xs => emits s x ++ emitted step emits (step s x) xs

theorem emitted_concat {step : S → I → S} {emits : S → I → List O} (xs : List I) (x : I) (s : S) :
    emitted step emits s (xs ++ [x]) =
      emitted step emits s xs ++ emits (exec step s xs) x := by
  induction xs generalizing s with
  | nil => exact List.append_nil _
  | cons y xs ih =>
    rw [List.cons_append, emitted, ih, exec_cons, emitted, List.append_assoc]

/-- The costs of a run. -/
def tally (step : S → I → S) (cost : S → I → M) : S → List I → M
  | _, [] => 0
  | s, x :: xs => cost s x + tally step cost (step s x) xs

variable {step : S → I → S} {cost gain : S → I → M} {P : S → Prop} {Done : S → I → Prop}
  {potential : S → M}

theorem tally_cons (s : S) (x : I) (xs : List I) :
    tally step cost s (x :: xs) = cost s x + tally step cost (step s x) xs := rfl

theorem tally_append (s : S) (xs ys : List I) : tally step cost s (xs ++ ys) =
    tally step cost s xs + tally step cost (exec step s xs) ys := by
  induction xs generalizing s with
  | nil => exact (zero_add _).symm
  | cons x xs ih =>
    rw [List.cons_append, tally_cons, tally_cons, ih, exec_cons, add_assoc]

/-- The inputs of a kind that do not depend on the state. -/
theorem tally_count (q : I → Bool) (s : S) (xs : List I) :
    tally step (fun _ x => if q x then 1 else 0) s xs = xs.countP q := by
  induction xs generalizing s with
  | nil => rfl
  | cons x xs ih => rw [tally_cons, ih, List.countP_cons, add_comm]

/-- What is emitted is emitted by an input of the run. -/
theorem exists_of_mem_emitted {emits : S → I → List O} {o : O} {s : S} {xs : List I}
    (h : o ∈ emitted step emits s xs) :
    ∃ p x q, xs = p ++ x :: q ∧ o ∈ emits (exec step s p) x := by
  induction xs generalizing s with
  | nil => cases h
  | cons x xs ih =>
    rcases List.mem_append.1 h with hx | hxs
    · exact ⟨[], x, xs, rfl, hx⟩
    · obtain ⟨p, y, q, rfl, hy⟩ := ih hxs
      exact ⟨x :: p, y, q, rfl, hy⟩

theorem countP_emitted {emits : S → I → List O} (q : O → Bool) (s : S) (xs : List I) :
    (emitted step emits s xs).countP q = tally step (fun s x => (emits s x).countP q) s xs := by
  induction xs generalizing s with
  | nil => rfl
  | cons x xs ih => rw [emitted, List.countP_append, ih, tally_cons]

/-- Costs that are the same in all states of a run. -/
theorem tally_congr {Q : I → Prop} (hstep : ∀ s x, P s → Q x → P (step s x) ∧ cost s x = gain s x)
    (xs : List I) : ∀ s, P s → (∀ x ∈ xs, Q x) → tally step cost s xs = tally step gain s xs := by
  induction xs with
  | nil =>
    intro s _ _
    rfl
  | cons x xs ih =>
    intro s hs hxs
    obtain ⟨hs', hcost⟩ := hstep s x hs (hxs x List.mem_cons_self)
    rw [tally_cons, tally_cons, hcost, ih _ hs' fun y hy => hxs y (List.mem_cons_of_mem x hy)]

variable (step cost potential)

/-- What is gained and not paid is still there. -/
theorem tally_eq (hstep : ∀ s x, P s → P (step s x) ∧
      cost s x + potential (step s x) = potential s + gain s x) (xs : List I) :
    ∀ s, P s → tally step cost s xs + potential (exec step s xs) =
      potential s + tally step gain s xs := by
  induction xs with
  | nil =>
    intro s _
    exact (zero_add _).trans (add_zero _).symm
  | cons x xs ih =>
    intro s hs
    obtain ⟨hs', hcost⟩ := hstep s x hs
    rw [tally_cons, tally_cons, exec_cons, add_assoc, ih _ hs', ← add_assoc, hcost, add_assoc]

variable [PartialOrder M] [IsOrderedAddMonoid M]

variable {step cost} in
/-- A run costs less if each input does. -/
theorem tally_mono (h : ∀ s x, cost s x ≤ gain s x) (xs : List I) :
    ∀ s, tally step cost s xs ≤ tally step gain s xs := by
  induction xs with
  | nil =>
    intro s
    exact le_rfl
  | cons x xs ih =>
    intro s
    exact add_le_add (h s x) (ih _)

end Xash3d.Lib
