import Mathlib

/-!
# Runs of a deterministic state machine

`exec step s xs` is the state after the inputs `xs`. `exec_induction` proves a property of every
state a run reaches, together with the inputs that led there, from what one step preserves; the
inputs may be restricted by any condition closed under prefixes, such as a clock that never runs
back. `exec_provenance` finds the input that created what a state holds. `outputs_simulation`
compares the answers of two machines.
-/

namespace Xash3d.Lib

variable {S I : Type*}

/-- The state after a list of inputs. -/
def exec (step : S → I → S) (s : S) (xs : List I) : S := xs.foldl step s

variable {step : S → I → S} {s : S}

@[simp] theorem exec_nil : exec step s [] = s := rfl

@[simp] theorem exec_append (xs ys : List I) :
    exec step s (xs ++ ys) = exec step (exec step s xs) ys := List.foldl_append

theorem exec_cons (x : I) (xs : List I) : exec step s (x :: xs) = exec step (step s x) xs := rfl

@[simp] theorem exec_singleton (x : I) : exec step s [x] = step s x := rfl

/-- Invariants over runs: what holds at the start and is preserved by every admissible step holds
after every admissible list of inputs. -/
theorem exec_induction (ok : List I → Prop) (P : List I → S → Prop)
    (hok : ∀ xs x, ok (xs ++ [x]) → ok xs) (h0 : P [] s)
    (hstep : ∀ xs x, ok (xs ++ [x]) → P xs (exec step s xs) →
      P (xs ++ [x]) (step (exec step s xs) x)) :
    ∀ xs, ok xs → P xs (exec step s xs) := by
  intro xs
  induction xs using List.reverseRecOn with
  | nil => exact fun _ => h0
  | append_singleton xs x ih =>
    intro h
    rw [exec_append, exec_singleton]
    exact hstep xs x h (ih (hok xs x h))

/-- What a state satisfies is kept by a run of steps that keep it. -/
theorem exec_kept {Q : S → Prop} {G : S → I → Prop}
    (hstep : ∀ s x, G s x → Q s → Q (step s x)) (h : Q s) (xs : List I)
    (hok : ∀ p z q, xs = p ++ z :: q → G (exec step s p) z) : Q (exec step s xs) := by
  induction xs using List.reverseRecOn with
  | nil => exact h
  | append_singleton xs x ih =>
    rw [exec_append, exec_singleton]
    refine hstep _ x (hok xs x [] rfl) (ih ?_)
    intro p z q hq
    exact hok p z (q ++ [x]) (by simp [hq])

/-- The answers of a machine to a list of inputs. -/
def outputs {O : Type*} (step : S → I → O × S) : S → List I → List O
  | _, [] => []
  | s, x :: xs => (step s x).1 :: outputs step (step s x).2 xs

/-- Forward simulation: a relation kept by every step, which may depend on the inputs still to come,
relates all answers. -/
theorem outputs_simulation {S' O O' : Type*} {step : S → I → O × S} {step' : S' → I → O' × S'}
    {A : O → O' → Prop} {R : List I → S → S' → Prop}
    (hstep : ∀ x xs s s', R (x :: xs) s s' →
      A (step s x).1 (step' s' x).1 ∧ R xs (step s x).2 (step' s' x).2) (xs : List I) :
    ∀ s s', R xs s s' → List.Forall₂ A (outputs step s xs) (outputs step' s' xs) := by
  induction xs with
  | nil =>
    intro s s' _
    exact List.Forall₂.nil
  | cons x xs ih =>
    intro s s' h
    obtain ⟨ha, hr⟩ := hstep x xs s s' h
    exact List.Forall₂.cons ha (ih _ _ hr)

/-- A list split after a prefix of it extended by one element: the split lies in the prefix, or
it is at the new element. -/
theorem append_cons_eq_snoc {p q xs : List I} {y x : I} (h : p ++ y :: q = xs ++ [x]) :
    (∃ q', q = q' ++ [x] ∧ xs = p ++ y :: q') ∨ (q = [] ∧ y = x ∧ p = xs) := by
  rcases List.eq_nil_or_concat q with rfl | ⟨q', z, rfl⟩
  · obtain ⟨hp, hy⟩ := List.append_inj' h rfl
    exact Or.inr ⟨rfl, by simpa using hy, hp⟩
  · rw [List.concat_eq_append, ← List.cons_append, ← List.append_assoc] at h
    obtain ⟨hp, hz⟩ := List.append_inj' h rfl
    obtain rfl : z = x := by simpa using hz
    exact Or.inl ⟨q', by simp, hp.symm⟩

/-- Two places in a list: one is before the other, or they are the same. -/
theorem append_cons_eq_append_cons {p q p' q' : List I} {y z : I}
    (h : p ++ z :: q = p' ++ y :: q') :
    (∃ r, q = r ++ y :: q' ∧ p' = p ++ z :: r) ∨ (p = p' ∧ z = y ∧ q = q') ∨
      ∃ r, q' = r ++ z :: q ∧ p = p' ++ y :: r := by
  rcases List.append_eq_append_iff.1 h with ⟨r, rfl, hr⟩ | ⟨r, rfl, hr⟩
  · cases r with
    | nil =>
      obtain ⟨rfl, rfl⟩ := List.cons.inj hr
      exact Or.inr (Or.inl ⟨by simp, rfl, rfl⟩)
    | cons a r =>
      obtain ⟨rfl, rfl⟩ := List.cons.inj hr
      exact Or.inl ⟨r, rfl, rfl⟩
  · cases r with
    | nil =>
      obtain ⟨rfl, rfl⟩ := List.cons.inj hr
      exact Or.inr (Or.inl ⟨by simp, rfl, rfl⟩)
    | cons a r =>
      obtain ⟨rfl, rfl⟩ := List.cons.inj hr
      exact Or.inr (Or.inr ⟨r, rfl, rfl⟩)

/-- What a state holds was created by some input of the run and kept by all inputs since. -/
theorem exec_provenance {E : Type*} (look : S → Option E) {creates : S → I → E → Prop}
    {keeps : S → I → E → Prop} (h0 : look s = none)
    (hstep : ∀ s x e, look (step s x) = some e →
      creates s x e ∨ look s = some e ∧ keeps s x e) :
    ∀ xs e, look (exec step s xs) = some e → ∃ ys y zs, xs = ys ++ y :: zs ∧
      creates (exec step s ys) y e ∧
      ∀ p z q, zs = p ++ z :: q → keeps (exec step s (ys ++ y :: p)) z e := by
  intro xs
  induction xs using List.reverseRecOn with
  | nil =>
    intro e h
    rw [exec_nil, h0] at h
    cases h
  | append_singleton xs x ih =>
    intro e h
    rw [exec_append, exec_singleton] at h
    rcases hstep _ _ _ h with hc | ⟨hl, hk⟩
    · refine ⟨xs, x, [], rfl, hc, ?_⟩
      intro p z q hnil
      cases p <;> cases hnil
    · obtain ⟨ys, y, zs, rfl, hc, hks⟩ := ih e hl
      refine ⟨ys, y, zs ++ [x], by simp, hc, ?_⟩
      intro p z q hzs
      -- the split lies in the older inputs, or at the new one
      rcases append_cons_eq_snoc hzs.symm with ⟨q', -, rfl⟩ | ⟨-, rfl, rfl⟩
      · exact hks p z q' rfl
      · exact hk

end Xash3d.Lib
