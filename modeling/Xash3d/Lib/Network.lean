import Xash3d.Lib.Run

/-!
# Messages over a network that loses them

A history is the list of the events of all parties, in their order. `Carried` says of it that the
network makes no message up: what an event takes was sent by an event before it. A message may be
lost, taken more than once, and taken after ones that were sent later.
-/

namespace Xash3d.Lib

variable {E M : Type*}

/-- What events send, after the events before them, and what they take. -/
structure Network (E M : Type*) where
  sends : List E → E → M → Prop
  takes : E → M → Prop

namespace Network

variable {n : Network E M} {es p q : List E} {e : E} {m : M}

/-- A message was sent in a history. -/
def Sent (n : Network E M) (es : List E) (m : M) : Prop :=
  ∃ p e q, es = p ++ e :: q ∧ n.sends p e m

/-- Every message that is taken was sent before. -/
def Carried (n : Network E M) (es : List E) : Prop :=
  ∀ p e q, es = p ++ e :: q → ∀ m, n.takes e m → n.Sent p m

theorem carried_nil : n.Carried [] := by
  intro p e q h
  simp at h

theorem carried_snoc :
    n.Carried (es ++ [e]) ↔ n.Carried es ∧ ∀ m, n.takes e m → n.Sent es m := by
  constructor
  · intro h
    refine ⟨?_, h es e [] rfl⟩
    rintro p e' q rfl
    exact h p e' (q ++ [e]) (by simp)
  · rintro ⟨h, he⟩ p e' q hes
    rcases append_cons_eq_snoc hes.symm with ⟨q', -, hes'⟩ | ⟨-, rfl, rfl⟩
    · exact h p e' q' hes'
    · exact he

/-- Events that take nothing may come at any time. -/
theorem Carried.append (h : n.Carried es) (q : List E) (hq : ∀ e ∈ q, ∀ m, ¬ n.takes e m) :
    n.Carried (es ++ q) := by
  induction q using List.reverseRecOn with
  | nil => rwa [List.append_nil]
  | append_singleton q e ih =>
    rw [← List.append_assoc, carried_snoc]
    refine ⟨ih fun e he => hq e (List.mem_append_left _ he), fun m hm => ?_⟩
    exact absurd hm (hq e (List.mem_append_right _ (List.mem_singleton_self e)) m)

theorem Carried.left (h : n.Carried (p ++ q)) : n.Carried p := by
  rintro p' e q' rfl
  exact h p' e (q' ++ q) (by simp)

end Network

/-- The events of one party, split where its own events are split. -/
theorem exists_split_of_filterMap {α : Type*} {f : E → Option α} {u v : List α} {x : α}
    (h : es.filterMap f = u ++ x :: v) : ∃ p e q, es = p ++ e :: q ∧ p.filterMap f = u ∧
      f e = some x ∧ q.filterMap f = v := by
  obtain ⟨p, r, rfl, hp, hr⟩ := List.filterMap_eq_append_iff.1 h
  obtain ⟨r', e, q, rfl, hnone, he, hq⟩ := List.filterMap_eq_cons_iff.1 hr
  have hr' : r'.filterMap f = [] := List.filterMap_eq_nil_iff.2 hnone
  refine ⟨p ++ r', e, q, by simp, ?_, he, hq⟩
  rw [List.filterMap_append, hp, hr', List.append_nil]

end Xash3d.Lib
