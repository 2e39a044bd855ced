import Mathlib

/-!
# Triples for programs with state and errors

`Triple P m Q E`: from a state with `P`, the program `m` either returns `a` in a state with `Q a`,
or stops with an error `e` in a state with `E e`. The changes of a program that stops are kept.
There is one rule for each way of composing programs; loops are proved by an invariant.
-/

namespace Xash3d.Lib

variable {ε σ τ α β : Type}

/-- What a program guarantees of the states that satisfy `P`. -/
def Triple (P : σ → Prop) (m : EStateM ε σ α) (Q : α → σ → Prop) (E : ε → σ → Prop) : Prop :=
  ∀ s, P s → match m s with
    | .ok a s' => Q a s'
    | .error e s' => E e s'

/-- Run a program on a part of the state. -/
def zoom (get : σ → τ) (put : τ → σ → σ) (m : EStateM ε τ α) : EStateM ε σ α := fun s =>
  match m (get s) with
  | .ok a t => .ok a (put t s)
  | .error e t => .error e (put t s)

namespace Triple

variable {P P' : σ → Prop} {Q Q' : α → σ → Prop} {R : β → σ → Prop} {E E' : ε → σ → Prop}
  {m : EStateM ε σ α} {f : α → EStateM ε σ β}

theorem ok (h : Triple P m Q E) {s s' : σ} {a : α} (hs : P s) (hm : m s = .ok a s') : Q a s' := by
  have := h s hs
  rwa [hm] at this

theorem error (h : Triple P m Q E) {s s' : σ} {e : ε} (hs : P s) (hm : m s = .error e s') :
    E e s' := by
  have := h s hs
  rwa [hm] at this

theorem pure {a : α} (h : ∀ s, P s → Q a s) : Triple P (Pure.pure a : EStateM ε σ α) Q E := h

/-- What the program does. -/
theorem self (s : σ) :
    Triple (· = s) m (fun a s' => m s = .ok a s') fun e s' => m s = .error e s' := by
  rintro _ rfl
  split <;> assumption

/-- Nothing is asked of the program. -/
theorem of_forall (hQ : ∀ a s, Q a s) (hE : ∀ e s, E e s) : Triple P m Q E := by
  intro s _
  cases m s with
  | ok a s' => exact hQ a s'
  | error e s' => exact hE e s'

theorem throw {e : ε} (h : ∀ s, P s → E e s) : Triple P (MonadExcept.throw e : EStateM ε σ α) Q E :=
  h

theorem bind (hm : Triple P m Q E) (hf : ∀ a, Triple (Q a) (f a) R E) : Triple P (m >>= f) R E := by
  intro s hs
  have h := hm s hs
  show match EStateM.bind m f s with
    | .ok b s' => R b s'
    | .error e s' => E e s'
  unfold EStateM.bind
  cases hr : m s with
  | ok a s' =>
    rw [hr] at h
    exact hf a s' h
  | error e s' =>
    rw [hr] at h
    exact h

theorem conseq (h : Triple P m Q E) (hP : ∀ s, P' s → P s) (hQ : ∀ a s, Q a s → Q' a s)
    (hE : ∀ e s, E e s → E' e s) : Triple P' m Q' E' := by
  intro s hs
  have := h s (hP s hs)
  cases hr : m s with
  | ok a s' =>
    rw [hr] at this
    exact hQ a s' this
  | error e s' =>
    rw [hr] at this
    exact hE e s' this

/-- Strengthen the precondition. -/
theorem pre (h : Triple P m Q E) (hP : ∀ s, P' s → P s) : Triple P' m Q E :=
  h.conseq hP (fun _ _ => id) fun _ _ => id

theorem of_exists {ι : Type} {P : ι → σ → Prop} (h : ∀ i, Triple (P i) m Q E) :
    Triple (fun s => ∃ i, P i s) m Q E := by
  rintro s ⟨i, hs⟩
  exact h i s hs

/-- Weaken the postcondition. -/
theorem post (h : Triple P m Q E) (hQ : ∀ a s, Q a s → Q' a s) : Triple P m Q' E :=
  h.conseq (fun _ => id) hQ fun _ _ => id

/-- Two guarantees together. -/
theorem and (h : Triple P m Q E) (h' : Triple P' m Q' E') :
    Triple (fun s => P s ∧ P' s) m (fun a s => Q a s ∧ Q' a s) (fun e s => E e s ∧ E' e s) := by
  intro s hs
  have h1 := h s hs.1
  have h2 := h' s hs.2
  cases hr : m s with
  | ok a s' =>
    rw [hr] at h1 h2
    exact ⟨h1, h2⟩
  | error e s' =>
    rw [hr] at h1 h2
    exact ⟨h1, h2⟩

/-- A program may be verified from each state on its own. -/
theorem of_state (h : ∀ s, P s → Triple (· = s) m Q E) : Triple P m Q E :=
  fun s hs => h s hs s rfl

theorem zoom {get : σ → τ} {put : τ → σ → σ} {m : EStateM ε τ α}
    (h : ∀ s, P s → Triple (· = get s) m (fun a t => Q a (put t s)) fun e t => E e (put t s)) :
    Triple P (zoom get put m) Q E := by
  intro s hs
  have := h s hs (get s) rfl
  unfold Lib.zoom
  cases hr : m (get s) with
  | ok a t =>
    rw [hr] at this
    exact this
  | error e t =>
    rw [hr] at this
    exact this

/-- A loop over a list: the invariant tells what is still to be done. -/
theorem forM {γ : Type} {f : γ → EStateM ε σ PUnit} {I : List γ → σ → Prop}
    (h : ∀ c l, Triple (I (c :: l)) (f c) (fun _ => I l) E) :
    ∀ l, Triple (I l) (l.forM f) (fun _ => I []) E := by
  intro l
  induction l with
  | nil => exact pure fun _ => id
  | cons c l ih => exact (h c l).bind fun _ => ih

end Triple

/-- A program keeps a property, however it ends, and stops with the errors of `F` only. -/
def Keeps (P : σ → Prop) (F : ε → Prop) (m : EStateM ε σ α) : Prop :=
  Triple P m (fun _ => P) fun e s => P s ∧ F e

namespace Keeps

variable {P : σ → Prop} {F : ε → Prop} {m : EStateM ε σ α} {f : α → EStateM ε σ β}

theorem pure {a : α} : Keeps P F (Pure.pure a : EStateM ε σ α) := Triple.pure fun _ h => h

theorem throw {e : ε} (he : F e) : Keeps P F (MonadExcept.throw e : EStateM ε σ α) :=
  Triple.throw fun _ h => ⟨h, he⟩

theorem bind (hm : Keeps P F m) (hf : ∀ a, Keeps P F (f a)) : Keeps P F (m >>= f) :=
  Triple.bind hm hf

theorem forM {γ : Type} {f : γ → EStateM ε σ PUnit} (h : ∀ c, Keeps P F (f c)) (l : List γ) :
    Keeps P F (l.forM f) := Triple.forM (I := fun _ => P) (fun c _ => h c) l

theorem of_ok (h : Keeps P F m) {s s' : σ} {a : α} (hs : P s) (hm : m s = .ok a s') : P s' :=
  Triple.ok h hs hm

end Keeps

end Xash3d.Lib
