import Mathlib

/-!
# Expiring stores

A store holds entries that die as the clock advances and is swept of dead entries now and then.
What a reader with a liveness check sees of it is its `view`: a sweep never changes the view, and
the views of a store only shrink as the clock advances.

The finite stores are association lists; `filterMapVal` drops or rewrites the values of one.
-/

namespace Xash3d.Lib

/-! ## Filtering an association list -/

section Assoc

variable {K V W : Type*}

theorem keys_filterMap_sublist (f : K → V → Option W) (l : List (Σ _ : K, V)) :
    (l.filterMap fun e => (f e.1 e.2).map (Sigma.mk (β := fun _ => W) e.1)).keys.Sublist
      l.keys := by
  induction l with
  | nil => simp
  | cons e l ih =>
    rw [List.filterMap_cons]
    cases f e.1 e.2 with
    | none => exact ih.trans (List.sublist_cons_self _ _)
    | some w => simpa using ih

/-- Drop the values on which `f` fails and replace the others by its answer. -/
def filterMapVal (f : K → V → Option W) (m : AList fun _ : K => V) : AList fun _ : K => W where
  entries := m.entries.filterMap fun e => (f e.1 e.2).map (Sigma.mk (β := fun _ => W) e.1)
  nodupKeys := List.Nodup.sublist (keys_filterMap_sublist f m.entries) m.nodupKeys

variable [DecidableEq K]

theorem lookup_filterMapVal (f : K → V → Option W) (m : AList fun _ : K => V) (k : K) :
    (filterMapVal f m).lookup k = (m.lookup k).bind (f k) := by
  ext w
  have hmem : w ∈ (filterMapVal f m).lookup k ↔
      (⟨k, w⟩ : Σ _ : K, W) ∈ (filterMapVal f m).entries := AList.mem_lookup_iff
  rw [← Option.mem_def, hmem]
  simp only [filterMapVal, List.mem_filterMap, Option.map_eq_some_iff, Option.bind_eq_some_iff]
  constructor
  · rintro ⟨e, he, w', hw', heq⟩
    cases heq
    exact ⟨e.2, AList.mem_lookup_iff.2 he, hw'⟩
  · rintro ⟨v, hv, hw⟩
    exact ⟨⟨k, v⟩, AList.mem_lookup_iff.1 hv, w, hw, rfl⟩

end Assoc

/-! ## Lifetimes and views -/

/-- A liveness test of entries against the clock: what has died stays dead. -/
structure Lifetime (E T : Type*) [Preorder T] where
  alive : E → T → Bool
  alive_of_le : ∀ {e t t'}, t ≤ t' → alive e t' = true → alive e t = true

namespace Lifetime

variable {K E T : Type*} [Preorder T] (L : Lifetime E T)

/-- What a reader at time `t` sees of a store. -/
def view (m : K → Option E) (t : T) (k : K) : Option E := (m k).filter (L.alive · t)

/-- `m'` is `m` less some entries that are dead at `t`. -/
def Sweep (t : T) (m m' : K → Option E) : Prop :=
  ∀ k, m' k = m k ∨ (m' k = none ∧ ∀ e, m k = some e → L.alive e t = false)

variable {L} {m m' m'' : K → Option E} {t t' : T} {k : K} {e : E}

theorem view_eq_some : L.view m t k = some e ↔ m k = some e ∧ L.alive e t = true := by
  simp [view, Option.filter_eq_some_iff]

theorem view_eq_none : L.view m t k = none ↔ ∀ e, m k = some e → L.alive e t = false := by
  simp [view, Option.filter_eq_none_iff]

theorem view_of_le (h : t ≤ t') (he : L.view m t' k = some e) : L.view m t k = some e :=
  view_eq_some.2 ⟨(view_eq_some.1 he).1, L.alive_of_le h (view_eq_some.1 he).2⟩

theorem view_none_of_le (h : t ≤ t') (he : L.view m t k = none) : L.view m t' k = none := by
  cases hv : L.view m t' k with
  | none => rfl
  | some e => rw [view_of_le h hv] at he; cases he

theorem dead_of_le (h : t ≤ t') (he : L.alive e t = false) : L.alive e t' = false := by
  cases hv : L.alive e t' with
  | false => rfl
  | true => rw [L.alive_of_le h hv] at he; cases he

theorem view_update [DecidableEq K] (m : K → Option E) (k : K) (o : Option E) (t : T) :
    L.view (Function.update m k o) t = Function.update (L.view m t) k (o.filter (L.alive · t)) := by
  funext k'
  by_cases h : k' = k
  · subst h; simp [view]
  · simp [view, h]

namespace Sweep

theorem refl (m : K → Option E) : L.Sweep t m m := fun _ => Or.inl rfl

theorem trans (h : L.Sweep t m m') (ht : t ≤ t') (h' : L.Sweep t' m' m'') : L.Sweep t' m m'' := by
  intro k
  rcases h' k with e' | ⟨e', hd'⟩
  · rcases h k with e | ⟨e, hd⟩
    · exact Or.inl (e'.trans e)
    · exact Or.inr ⟨e'.trans e, fun x hx => dead_of_le ht (hd x hx)⟩
  · rcases h k with e | ⟨_, hd⟩
    · exact Or.inr ⟨e', fun x hx => hd' x (e.trans hx)⟩
    · exact Or.inr ⟨e', fun x hx => dead_of_le ht (hd x hx)⟩

theorem later (h : L.Sweep t m m') (ht : t ≤ t') : L.Sweep t' m m' := h.trans ht (refl m')

/-- A sweep adds nothing. -/
theorem eq_some (h : L.Sweep t m m') (he : m' k = some e) : m k = some e := by
  rcases h k with hk | ⟨hk, _⟩
  · exact hk ▸ he
  · rw [he] at hk; cases hk

/-- What is missing after a sweep was not seen any more. -/
theorem eq_or_view_eq_none (h : L.Sweep t m m') (k : K) :
    m' k = m k ∨ m' k = none ∧ L.view m t k = none := by
  rcases h k with hk | ⟨hk, hd⟩
  · exact Or.inl hk
  · exact Or.inr ⟨hk, view_eq_none.2 hd⟩

/-- A sweep keeps what is alive. -/
theorem eq_some_of_alive (h : L.Sweep t m m') (he : m k = some e) (ha : L.alive e t = true) :
    m' k = some e := by
  rcases h k with hk | ⟨_, hd⟩
  · exact hk.trans he
  · rw [hd e he] at ha
    cases ha

/-- Readers do not notice a sweep. -/
theorem view_eq (h : L.Sweep t m m') (ht : t ≤ t') : L.view m' t' = L.view m t' := by
  funext k
  rcases h k with hk | ⟨hk, hd⟩
  · simp [view, hk]
  · have : L.view m t' k = none := view_eq_none.2 fun e he => dead_of_le ht (hd e he)
    rw [this, view, hk, Option.filter_none]

end Sweep

end Lifetime

end Xash3d.Lib
