import Mathlib

/-!
# The last value of a key

A loop that puts the value of a key into a field of its state keeps there the last value of the key
(`foldlM_last`), when no other key touches the field. It ends well when each of its pairs is valid
(`foldlM_isOk_iff`), if that depends on the pair only.

The order of pairs with distinct keys does not matter to such a loop, nor do keys that it does not
know: `Rearranged` lists have the same values for each key (`Rearranged.valuesOf_eq`).
-/

namespace Xash3d.Lib

variable {K V σ ε α : Type}

theorem not_ok_error (e : ε) : ¬ ∃ a : α, Except.error e = .ok a := by
  rintro ⟨a, h⟩
  cases h

/-- A loop whose steps fail on invalid pairs only. -/
theorem foldlM_isOk_iff {step : σ → K → V → Except ε σ} {valid : K → V → Prop}
    (hstep : ∀ s key value, (∃ s', step s key value = .ok s') ↔ valid key value)
    (kvs : List (K × V)) (s : σ) :
    (∃ s', kvs.foldlM (fun s kv => step s kv.1 kv.2) s = .ok s') ↔
      ∀ kv ∈ kvs, valid kv.1 kv.2 := by
  induction kvs generalizing s with
  | nil => exact iff_of_true ⟨s, rfl⟩ nofun
  | cons kv kvs ih =>
    rw [List.foldlM_cons, List.forall_mem_cons, ← hstep s]
    cases hkv : step s kv.1 kv.2 with
    | error e => exact iff_of_false (not_ok_error e) fun h => not_ok_error e h.1
    | ok s₁ =>
      have hfirst : ∃ s', Except.ok (ε := ε) s₁ = .ok s' := ⟨s₁, rfl⟩
      exact (ih s₁).trans (and_iff_right hfirst).symm

variable [DecidableEq K]

/-- The last value of a key in a list of pairs. -/
def lastValue (k : K) : List (K × V) → Option V
  | [] => none
  | kv :: kvs => (lastValue k kvs).or (if kv.1 = k then some kv.2 else none)

theorem lastValue_cons_other {k : K} {kv : K × V} (h : kv.1 ≠ k) (kvs : List (K × V)) :
    lastValue k (kv :: kvs) = lastValue k kvs := by
  rw [lastValue, if_neg h, Option.or_none]

/-- The field of the last value. -/
theorem foldlM_last {step : σ → K → V → Except ε σ} (get : σ → α) (k : K) (parse : V → α)
    (hother : ∀ s key value s', key ≠ k → step s key value = .ok s' → get s' = get s)
    (hkey : ∀ s value s', step s k value = .ok s' → get s' = parse value)
    {kvs : List (K × V)} {s s' : σ} (h : kvs.foldlM (fun s kv => step s kv.1 kv.2) s = .ok s') :
    get s' = ((lastValue k kvs).map parse).getD (get s) := by
  induction kvs generalizing s with
  | nil =>
    cases h
    rfl
  | cons kv kvs ih =>
    rw [List.foldlM_cons] at h
    cases hstep : step s kv.1 kv.2 with
    | error e =>
      rw [hstep] at h
      cases h
    | ok s₁ =>
      rw [hstep] at h
      rw [ih h]
      by_cases hk : kv.1 = k
      · have hget : get s₁ = parse kv.2 := hkey s kv.2 s₁ (hk ▸ hstep)
        rw [lastValue, if_pos hk, hget]
        cases lastValue k kvs <;> rfl
      · rw [lastValue_cons_other hk, hother s kv.1 kv.2 s₁ hk hstep]

/-! ## The values of a key -/

/-- The values of a key, in order. -/
def valuesOf (k : K) (kvs : List (K × V)) : List V :=
  kvs.filterMap fun kv => if kv.1 = k then some kv.2 else none

section ValuesOf

variable {k : K} {v : V} {kvs kvs' : List (K × V)}

theorem valuesOf_append (k : K) (kvs kvs' : List (K × V)) :
    valuesOf k (kvs ++ kvs') = valuesOf k kvs ++ valuesOf k kvs' := List.filterMap_append

theorem valuesOf_cons (k : K) (kv : K × V) (kvs : List (K × V)) :
    valuesOf k (kv :: kvs) = (if kv.1 = k then [kv.2] else []) ++ valuesOf k kvs := by
  unfold valuesOf
  rw [List.filterMap_cons]
  split_ifs <;> rfl

theorem mem_valuesOf : v ∈ valuesOf k kvs ↔ (k, v) ∈ kvs := by
  unfold valuesOf
  rw [List.mem_filterMap]
  constructor
  · rintro ⟨kv, hkv, h⟩
    split_ifs at h with hk
    cases h
    rwa [← hk]
  · exact fun h => ⟨(k, v), h, if_pos rfl⟩

theorem lastValue_eq_getLast? (k : K) (kvs : List (K × V)) :
    lastValue k kvs = (valuesOf k kvs).getLast? := by
  induction kvs with
  | nil => rfl
  | cons kv kvs ih =>
    rw [lastValue, ih, valuesOf_cons, List.getLast?_append]
    split_ifs <;> rfl

/-- Two pairs with distinct keys may change places. -/
theorem valuesOf_swap {kv kv' : K × V} (h : kv.1 ≠ kv'.1) (k : K) (kvs : List (K × V)) :
    valuesOf k (kv :: kv' :: kvs) = valuesOf k (kv' :: kv :: kvs) := by
  rw [valuesOf_cons, valuesOf_cons, valuesOf_cons, valuesOf_cons]
  by_cases hk : kv.1 = k
  · have hk' : kv'.1 ≠ k := fun h' => h (hk.trans h'.symm)
    rw [if_neg hk', List.nil_append, List.nil_append]
  · rw [if_neg hk, List.nil_append, List.nil_append]

theorem valuesOf_perm (h : kvs.Perm kvs') (hn : (kvs.map Prod.fst).Nodup) (k : K) :
    valuesOf k kvs' = valuesOf k kvs := by
  induction h with
  | nil => rfl
  | cons kv _ ih => rw [valuesOf_cons, valuesOf_cons, ih hn.of_cons]
  | swap kv kv' l =>
    refine (valuesOf_swap ?_ k l).symm
    intro heq
    exact (List.nodup_cons.1 hn).1 (heq ▸ List.mem_cons_self)
  | trans h₁ _ ih₁ ih₂ => rw [ih₂ ((h₁.map Prod.fst).nodup_iff.1 hn), ih₁ hn]

end ValuesOf

/-- Pairs with distinct keys are permuted, and pairs are inserted whose keys are not known. -/
inductive Rearranged (known : K → Prop) : List (K × V) → List (K × V) → Prop
  | perm {kvs kvs' : List (K × V)} (h : kvs.Perm kvs') (hn : (kvs.map Prod.fst).Nodup) :
    Rearranged known kvs kvs'
  | swap (l : List (K × V)) (kv kv' : K × V) (r : List (K × V)) (h : kv.1 ≠ kv'.1) :
    Rearranged known (l ++ kv :: kv' :: r) (l ++ kv' :: kv :: r)
  | insert (l : List (K × V)) (kv : K × V) (r : List (K × V)) (h : ¬ known kv.1) :
    Rearranged known (l ++ r) (l ++ kv :: r)
  | trans {kvs kvs' kvs'' : List (K × V)} (h : Rearranged known kvs kvs')
      (h' : Rearranged known kvs' kvs'') : Rearranged known kvs kvs''

theorem Rearranged.valuesOf_eq {known : K → Prop} {kvs kvs' : List (K × V)}
    (h : Rearranged known kvs kvs') {k : K} (hk : known k) : valuesOf k kvs' = valuesOf k kvs := by
  induction h with
  | perm h hn => exact valuesOf_perm h hn k
  | swap l kv kv' r hne => rw [valuesOf_append, valuesOf_append, valuesOf_swap hne]
  | insert l kv r hunknown =>
    have hne : kv.1 ≠ k := by
      rintro rfl
      exact hunknown hk
    rw [valuesOf_append, valuesOf_append, valuesOf_cons, if_neg hne, List.nil_append]
  | trans _ _ ih ih' => rw [ih', ih]

/-- What holds of every pair with a known key still does. -/
theorem Rearranged.forall_mem {known : K → Prop} {kvs kvs' : List (K × V)} {Q : K × V → Prop}
    (h : Rearranged known kvs kvs') (hQ : ∀ kv ∈ kvs, known kv.1 → Q kv) :
    ∀ kv ∈ kvs', known kv.1 → Q kv := by
  intro kv hkv hknown
  have hmem := mem_valuesOf.2 (show (kv.1, kv.2) ∈ kvs' from hkv)
  rw [h.valuesOf_eq hknown] at hmem
  exact hQ (kv.1, kv.2) (mem_valuesOf.1 hmem) hknown

end Xash3d.Lib
