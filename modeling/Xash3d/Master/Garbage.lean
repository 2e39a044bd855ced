import Xash3d.Master.ExpiringMap

/-!
# How much garbage the expiring map holds

Expired entries stay in a `TimedHashMap` until a cleanup. The counter of the periodic cleanup says
how many growth operations have passed since the last one, and so how long an expired entry can
still be there (`apply_dead`) and how much the map has grown (`apply_len`).
-/

namespace Xash3d

open Lib

namespace Periodic

/-- A counter with the default limit, which it has not reached. -/
def Counting (p : Periodic) : Prop :=
  p.limit = defaultLimit ∧ p.cur.toNat < defaultLimit.toNat

theorem counting_default : (default : Periodic).Counting := ⟨rfl, by decide⟩

theorem Counting.reset {p : Periodic} (h : p.Counting) : p.reset.Counting :=
  ⟨h.1, show (0 : UInt16).toNat < defaultLimit.toNat by decide⟩

/-- The counter goes up by one, or the action is due. -/
theorem next_cases {p : Periodic} (h : p.Counting) :
    (p.next.1 = false ∧ p.next.2.Counting ∧ p.next.2.cur.toNat = p.cur.toNat + 1) ∨
      (p.next.1 = true ∧ p.next.2 = p.reset) := by
  obtain ⟨hlimit, hcur⟩ := h
  have hlt : p.cur.toNat < 100 := hcur
  have hsucc : (p.cur + 1).toNat = p.cur.toNat + 1 := by
    rw [UInt16.toNat_add]
    exact Nat.mod_eq_of_lt (by simp; omega)
  unfold next
  dsimp only
  by_cases hnext : p.cur + 1 < p.limit
  · rw [if_pos hnext]
    refine Or.inl ⟨rfl, ⟨hlimit, ?_⟩, hsucc⟩
    rw [hlimit] at hnext
    exact UInt16.lt_iff_toNat_lt.1 hnext
  · rw [if_neg hnext]
    exact Or.inr ⟨rfl, rfl⟩

end Periodic

/-! ## Growth -/

section

variable {K V : Type}

/-- The use puts an entry in place whether the old one is there or not. -/
def EntryUse.puts : EntryUse V → Bool
  | look => false
  | orInsert _ _ _ => true
  | insert _ _ => true
  | update _ => false

/-- The operation may put an entry under a key. -/
def MapOp.Overwrites (k : K) : MapOp K V → Prop
  | insert k' _ _ _ => k' = k
  | entry k' _ use => k' = k ∧ use.puts = true
  | _ => False

variable [DecidableEq K]

/-- The operation is an insertion, or asks for the entry of a key that is absent. -/
def MapOp.grows (m : TimedHashMap K V) : MapOp K V → Bool
  | insert _ _ _ _ => true
  | entry k _ _ => (m.lookup k).isNone
  | _ => false

namespace TimedHashMap

/-- The map after an operation. -/
def step (m : TimedHashMap K V) (op : MapOp K V) : TimedHashMap K V := (m.apply op).2

/-- How many of the operations are growth operations. -/
def growths : TimedHashMap K V → List (MapOp K V) → ℕ
  | _, [] => 0
  | m, op :: ops => (if op.grows m then 1 else 0) + growths (m.step op) ops

/-- How many entries are unexpired at the full sweep of an operation, if it makes one. -/
def swept (m : TimedHashMap K V) : MapOp K V → Option ℕ
  | .insert k v tNew tClean =>
    if m.periodic.next.1 then some (({ m with map := m.map.insert k ⟨tNew, v⟩ }).iter tClean).length
    else none
  | .entry k now _ =>
    if (m.lookup k).isNone && m.periodic.next.1 then some (m.iter now).length else none
  | .retain now _ => if m.map.entries.isEmpty then none else some (m.iter now).length
  | _ => none

/-- How many entries were unexpired at the last full sweep, from `n` on. -/
def lastSwept : TimedHashMap K V → ℕ → List (MapOp K V) → ℕ
  | _, n, [] => n
  | m, n, op :: ops => lastSwept (m.step op) ((m.swept op).getD n) ops

end TimedHashMap

end

namespace TimedHashMap

variable {K V : Type} [DecidableEq K] {m : TimedHashMap K V} {k : K} {e : Timed V}
  {now T : RelativeTime} {op : MapOp K V}

/-! ## The cleanup and the counter -/

omit [DecidableEq K] in
theorem cleanup_cases (h : m.periodic.Counting) (now : RelativeTime) :
    (m.periodic.next.1 = false ∧ (m.cleanup now).map = m.map ∧
      (m.cleanup now).periodic.Counting ∧
      (m.cleanup now).periodic.cur.toNat = m.periodic.cur.toNat + 1) ∨
    (m.periodic.next.1 = true ∧ (m.cleanup now).map = (m.sweep now).map ∧
      (m.cleanup now).periodic = m.periodic.reset) := by
  unfold cleanup
  dsimp only
  rcases Periodic.next_cases h with ⟨hnext, hcounting, hcur⟩ | ⟨hnext, hreset⟩
  · rw [hnext, if_neg Bool.false_ne_true]
    exact Or.inl ⟨rfl, rfl, hcounting, hcur⟩
  · rw [hnext, if_pos rfl]
    exact Or.inr ⟨rfl, rfl, hreset⟩

omit [DecidableEq K] in
theorem counting_cleanup (h : m.periodic.Counting) (now : RelativeTime) :
    (m.cleanup now).periodic.Counting := by
  rcases cleanup_cases h now with ⟨-, -, hcounting, -⟩ | ⟨-, -, hreset⟩
  · exact hcounting
  · rw [hreset]
    exact h.reset

theorem entry_absent (hl : m.lookup k = none) : (m.entry k now).2 = m.cleanup now := by
  have hmap : m.map.lookup k = none := hl
  unfold entry
  rw [hmap]

/-- An entry that is there is removed if it is outdated; nothing is counted. -/
theorem entry_present (hl : m.lookup k = some e) (now : RelativeTime) :
    (m.entry k now).2.periodic = m.periodic ∧
      (m.entry k now).2.map = if e.isValid now m.timeout then m.map else m.map.erase k := by
  have hmap : m.map.lookup k = some e := hl
  unfold entry
  rw [hmap]
  dsimp only
  cases e.isValid now m.timeout with
  | true => exact ⟨rfl, rfl⟩
  | false => exact ⟨rfl, rfl⟩

theorem counting_entry (h : m.periodic.Counting) (k : K) (now : RelativeTime) :
    (m.entry k now).2.periodic.Counting := by
  cases hl : m.lookup k with
  | none =>
    rw [entry_absent hl]
    exact counting_cleanup h now
  | some v =>
    rw [(entry_present hl now).1]
    exact h

theorem periodic_useEntry (m : TimedHashMap K V) (k : K) (now : RelativeTime) (use : EntryUse V) :
    (m.useEntry k now use).2.periodic = (m.entry k now).2.periodic := by
  unfold useEntry
  rcases m.entry k now with ⟨e, m'⟩
  dsimp only
  cases use.result e with
  | none => rfl
  | some e' => rfl

theorem counting_step (h : m.periodic.Counting) (op : MapOp K V) :
    (m.step op).periodic.Counting := by
  cases op with
  | insert k v tNew tClean =>
    exact counting_cleanup (m := { m with map := m.map.insert k ⟨tNew, v⟩ }) h tClean
  | remove k now => exact h
  | entry k now use =>
    show (m.useEntry k now use).2.periodic.Counting
    rw [periodic_useEntry]
    exact counting_entry h k now
  | get k now => exact h
  | iter now => exact h
  | keys now => exact h
  | retain now f =>
    show (m.retain now f).periodic.Counting
    unfold retain
    split_ifs
    · exact h
    · exact h.reset
  | clear => exact h

theorem timeout_step (m : TimedHashMap K V) (op : MapOp K V) : (m.step op).timeout = m.timeout := by
  cases op with
  | insert k v tNew tClean => exact timeout_insert
  | remove k now => rfl
  | entry k now use =>
    have hentry : (m.entry k now).2.timeout = m.timeout := timeout_entry
    show (m.useEntry k now use).2.timeout = m.timeout
    unfold useEntry
    rcases hm : m.entry k now with ⟨e, m'⟩
    rw [hm] at hentry
    dsimp only
    cases use.result e with
    | none => exact hentry
    | some e' => exact hentry
  | get k now => rfl
  | iter now => rfl
  | keys now => rfl
  | retain now f => exact timeout_retain f
  | clear => rfl

/-! ## Expired entries -/

theorem lookup_sweep (m : TimedHashMap K V) (now : RelativeTime) (k : K) :
    (m.sweep now).lookup k = (m.lookup k).bind fun e =>
      if e.isValid now m.timeout then some e else none :=
  lookup_filterMapVal _ _ _

/-- A cleanup removes an expired entry, or the counter goes up. -/
theorem cleanup_dead (h : m.periodic.Counting) (hl : m.lookup k = some e)
    (hdead : e.isValid now m.timeout = false) :
    (m.cleanup now).lookup k = none ∨ ((m.cleanup now).lookup k = some e ∧
      (m.cleanup now).periodic.cur.toNat = m.periodic.cur.toNat + 1) := by
  rcases cleanup_cases h now with ⟨-, hmap, -, hcur⟩ | ⟨-, hmap, -⟩
  · refine Or.inr ⟨?_, hcur⟩
    rw [lookup, hmap]
    exact hl
  · refine Or.inl ?_
    have hsweep := lookup_sweep m now k
    rw [hl, Option.bind_some, hdead, if_neg Bool.false_ne_true] at hsweep
    rw [lookup, hmap]
    exact hsweep

theorem entry_dead {k' : K} (h : m.periodic.Counting) (hl : m.lookup k = some e)
    (hdead : e.isValid now m.timeout = false) (hk : k' ≠ k) :
    (m.entry k' now).2.lookup k = none ∨ ((m.entry k' now).2.lookup k = some e ∧
      (m.entry k' now).2.periodic.cur.toNat =
        m.periodic.cur.toNat + if (m.lookup k').isNone then 1 else 0) := by
  cases hl' : m.lookup k' with
  | none =>
    rw [entry_absent hl']
    exact cleanup_dead h hl hdead
  | some v =>
    obtain ⟨hperiodic, hmap⟩ := entry_present hl' now
    rw [hperiodic, lookup, hmap]
    refine Or.inr ⟨?_, rfl⟩
    split_ifs
    · exact hl
    · exact (AList.lookup_erase_ne hk.symm).trans hl

/-- What is put in place under another key is not seen. -/
theorem lookup_useEntry {k' : K} (use : EntryUse V) (hk : k' ≠ k) :
    (m.useEntry k' now use).2.lookup k = (m.entry k' now).2.lookup k := by
  unfold useEntry
  rcases m.entry k' now with ⟨e, m'⟩
  dsimp only
  cases use.result e with
  | none => rfl
  | some e' => rw [lookup_entryInsert, Function.update_of_ne hk.symm]

/-- A use of a vacant entry that puts nothing leaves it vacant. -/
theorem lookup_useEntry_self {use : EntryUse V} (huse : ¬ use.puts = true)
    (hview : m.view now k = none) : (m.useEntry k now use).2.lookup k = none := by
  have hresult : use.result (none : Option (Timed V)) = none := by
    cases use with
    | look => rfl
    | orInsert tNew v f => exact absurd rfl huse
    | insert tNew v => exact absurd rfl huse
    | update f => rfl
  have hfst := (entry_fst m k now).trans hview
  have hself := (lookup_entry_self m k now).trans hview
  unfold useEntry
  rcases hm : m.entry k now with ⟨o, m'⟩
  rw [hm] at hfst hself
  dsimp only at hfst hself ⊢
  rw [hfst, hresult]
  exact hself

/-- An entry that is there and expired is removed, or the growth of the map is counted. -/
theorem step_dead (h : m.periodic.Counting) (hl : m.lookup k = some e)
    (hdead : e.isValid T m.timeout = false) (hT : ∀ t ∈ op.readings, T ≤ t)
    (hop : ¬ op.Overwrites k) :
    (m.step op).lookup k = none ∨ ((m.step op).lookup k = some e ∧
      (m.step op).periodic.cur.toNat =
        m.periodic.cur.toNat + if op.grows m then 1 else 0) := by
  have hlater : ∀ t ∈ op.readings, e.isValid t m.timeout = false := fun t ht =>
    Lifetime.dead_of_le (L := timedLife V m.timeout) (hT t ht) hdead
  cases op with
  | insert k' v tNew tClean =>
    have hkept : ({ m with map := m.map.insert k' ⟨tNew, v⟩ } : TimedHashMap K V).lookup k =
        some e := (AList.lookup_insert_ne (Ne.symm hop)).trans hl
    exact cleanup_dead (m := { m with map := m.map.insert k' ⟨tNew, v⟩ }) h hkept
      (hlater tClean (by simp [MapOp.readings]))
  | remove k' now =>
    by_cases hk : k = k'
    · subst hk
      exact Or.inl (AList.lookup_erase _ _)
    · exact Or.inr ⟨(AList.lookup_erase_ne hk).trans hl, rfl⟩
  | entry k' now use =>
    have hnow := hlater now List.mem_cons_self
    by_cases hk : k' = k
    · subst hk
      have hview : m.view now k' = none :=
        Lifetime.view_eq_none.2 fun e' he' => Option.some.inj (hl.symm.trans he') ▸ hnow
      exact Or.inl (lookup_useEntry_self (fun hputs => hop ⟨rfl, hputs⟩) hview)
    · show (m.useEntry k' now use).2.lookup k = none ∨
        ((m.useEntry k' now use).2.lookup k = some e ∧
          (m.useEntry k' now use).2.periodic.cur.toNat = _)
      rw [lookup_useEntry use hk, periodic_useEntry]
      exact entry_dead h hl hnow hk
  | get k' now => exact Or.inr ⟨hl, rfl⟩
  | iter now => exact Or.inr ⟨hl, rfl⟩
  | keys now => exact Or.inr ⟨hl, rfl⟩
  | retain now f =>
    -- the counter starts again, and the entry is gone
    refine Or.inl ((lookup_retain f).trans ?_)
    rw [hl, Option.bind_some, hlater now List.mem_cons_self, if_neg Bool.false_ne_true]
  | clear => exact Or.inl rfl

theorem step_absent (hl : m.lookup k = none) (hop : ¬ op.Overwrites k) :
    (m.step op).lookup k = none := by
  cases op with
  | insert k' v tNew tClean =>
    have hsweep := sweep_insert m k' v tNew tClean k
    rw [Function.update_of_ne (Ne.symm hop), hl] at hsweep
    rcases hsweep with hnone | ⟨hnone, -⟩
    · exact hnone
    · exact hnone
  | remove k' now =>
    show (m.remove k' now).2.lookup k = none
    rw [lookup_remove, Function.update_apply, hl, ite_self]
  | entry k' now use =>
    have hentry : (m.entry k' now).2.lookup k = none := by
      rcases sweep_entry m k' now k with hsame | ⟨hnone, -⟩
      · exact hsame.trans hl
      · exact hnone
    by_cases hk : k' = k
    · subst hk
      have hview : m.view now k' = none := (lookup_entry_self m k' now).symm.trans hentry
      exact lookup_useEntry_self (fun hputs => hop ⟨rfl, hputs⟩) hview
    · exact (lookup_useEntry use hk).trans hentry
  | get k' now => exact hl
  | iter now => exact hl
  | keys now => exact hl
  | retain now f =>
    refine (lookup_retain f).trans ?_
    rw [hl]
    rfl
  | clear => rfl

/-- The map after operations. -/
def run (m : TimedHashMap K V) (ops : List (MapOp K V)) : TimedHashMap K V := exec step m ops

theorem counting_run (h : m.periodic.Counting) (ops : List (MapOp K V)) :
    (m.run ops).periodic.Counting := by
  refine exec_kept (Q := fun m : TimedHashMap K V => m.periodic.Counting) (G := fun _ _ => True)
    ?_ h ops fun _ _ _ _ => trivial
  exact fun m op _ hm => counting_step hm op

theorem timeout_run (m : TimedHashMap K V) (ops : List (MapOp K V)) :
    (m.run ops).timeout = m.timeout := by
  refine exec_kept (Q := fun m' : TimedHashMap K V => m'.timeout = m.timeout)
    (G := fun _ _ => True) ?_ rfl ops fun _ _ _ _ => trivial
  exact fun m' op _ hm => (timeout_step m' op).trans hm

theorem run_absent (hl : m.lookup k = none) {ops : List (MapOp K V)}
    (hops : ∀ op ∈ ops, ¬ op.Overwrites k) : (m.run ops).lookup k = none := by
  refine exec_kept (Q := fun m : TimedHashMap K V => m.lookup k = none)
    (G := fun _ op => ¬ op.Overwrites k) ?_ hl ops ?_
  · exact fun m op hop hm => step_absent hm hop
  · intro p op q hq
    exact hops op (by rw [hq]; exact List.mem_append_right p List.mem_cons_self)

/-- As long as an expired entry is there, the counter counts every growth operation. -/
theorem run_dead (ops : List (MapOp K V)) : ∀ {m : TimedHashMap K V}, m.periodic.Counting →
    m.lookup k = some e → e.isValid T m.timeout = false →
    (∀ t ∈ ops.flatMap MapOp.readings, T ≤ t) → (∀ op ∈ ops, ¬ op.Overwrites k) →
    (m.run ops).lookup k = none ∨
      (m.run ops).periodic.cur.toNat = m.periodic.cur.toNat + m.growths ops := by
  induction ops with
  | nil => exact fun _ _ _ _ _ => Or.inr rfl
  | cons op ops ih =>
    intro m h hl hdead hT hops
    rw [List.flatMap_cons, List.forall_mem_append] at hT
    rw [List.forall_mem_cons] at hops
    show ((m.step op).run ops).lookup k = none ∨ ((m.step op).run ops).periodic.cur.toNat = _
    rcases step_dead h hl hdead hT.1 hops.1 with hnone | ⟨hkept, hcur⟩
    · exact Or.inl (run_absent hnone hops.2)
    · have hdead' : e.isValid T (m.step op).timeout = false := by rwa [timeout_step]
      rcases ih (counting_step h op) hkept hdead' hT.2 hops.2 with hnone | hlast
      · exact Or.inl hnone
      · refine Or.inr ?_
        rw [hlast, hcur, growths]
        omega

/-! ## The length of the map -/

theorem length_filterMap_le {α β γ : Type} {f : α → Option β} {g : α → Option γ} (l : List α)
    (h : ∀ a, (f a).isSome = true → (g a).isSome = true) :
    (l.filterMap f).length ≤ (l.filterMap g).length := by
  rw [List.length_filterMap_eq_countP, List.length_filterMap_eq_countP]
  exact List.countP_mono_left fun a _ => h a

theorem isSome_ite {α β γ : Type} {p : Prop} [Decidable p] {o : Option α} {f : α → β} {c : γ}
    (h : ((if p then o else none).map f).isSome = true) :
    (if p then some c else none).isSome = true := by
  by_cases hp : p
  · rw [if_pos hp]
    rfl
  · rw [if_neg hp] at h
    cases h

omit [DecidableEq K] in
/-- A sweep leaves the entries that are unexpired. -/
theorem len_sweep_le (m : TimedHashMap K V) (now : RelativeTime) :
    (m.sweep now).len ≤ (m.iter now).length :=
  length_filterMap_le m.map.entries fun _ ha => isSome_ite ha

omit [DecidableEq K] in
theorem len_retain_le (now : RelativeTime) (f : K → V → Option V) :
    ({ m with
      map := filterMapVal (fun k e =>
        if e.isValid now m.timeout then (f k e.value).map (Timed.mk e.time) else none) m.map } :
      TimedHashMap K V).len ≤ (m.iter now).length :=
  length_filterMap_le m.map.entries fun _ ha => isSome_ite ha

theorem length_insert_le (k : K) (e : Timed V) (l : AList fun _ : K => Timed V) :
    (l.insert k e).entries.length ≤ l.entries.length + 1 := by
  rw [AList.entries_insert, List.length_cons]
  exact Nat.succ_le_succ (List.kerase_sublist k l.entries).length_le

/-- Where the key was there, no entry is added. -/
theorem length_insert_of_mem {k : K} {e' : Timed V} {l : AList fun _ : K => Timed V}
    (e : Timed V) (h : l.lookup k = some e') :
    (l.insert k e).entries.length = l.entries.length := by
  have hmem : k ∈ l.entries.keys := AList.lookup_isSome.1 (by rw [h]; rfl)
  obtain ⟨b, l₁, l₂, -, hl, herase⟩ := List.exists_of_kerase hmem
  rw [AList.entries_insert, List.length_cons, herase, hl, List.length_append, List.length_append,
    List.length_cons]
  rfl

theorem length_erase_of_mem {k : K} {e : Timed V} {l : AList fun _ : K => Timed V}
    (h : l.lookup k = some e) : (l.erase k).entries.length + 1 = l.entries.length := by
  have hmem : k ∈ l.entries.keys := AList.lookup_isSome.1 (by rw [h]; rfl)
  obtain ⟨b, l₁, l₂, -, hl, herase⟩ := List.exists_of_kerase hmem
  show (l.entries.kerase k).length + 1 = _
  rw [herase, hl, List.length_append, List.length_append, List.length_cons]
  omega

/-- The map has grown at most by what is counted, and one entry that is not counted yet. -/
def Bounded (n : ℕ) (m : TimedHashMap K V) : Prop :=
  m.periodic.Counting ∧ m.len ≤ n + m.periodic.cur.toNat + 1

theorem len_useEntry_le (m : TimedHashMap K V) (k : K) (now : RelativeTime) (use : EntryUse V) :
    (m.useEntry k now use).2.len ≤ (m.entry k now).2.len + 1 := by
  unfold useEntry
  rcases m.entry k now with ⟨e, m'⟩
  dsimp only
  cases use.result e with
  | none => exact Nat.le_succ _
  | some e' => exact length_insert_le k e' m'.map

/-- An entry that is there is replaced, or removed first. -/
theorem len_useEntry_present (hl : m.lookup k = some e) (now : RelativeTime) (use : EntryUse V) :
    (m.useEntry k now use).2.len ≤ m.len := by
  obtain ⟨-, hmap⟩ := entry_present hl now
  cases hvalid : e.isValid now m.timeout with
  | true =>
    rw [hvalid, if_pos rfl] at hmap
    unfold useEntry
    rcases hm : m.entry k now with ⟨o, m'⟩
    rw [hm] at hmap
    dsimp only at hmap ⊢
    cases use.result o with
    | none => exact (congrArg (fun l => l.entries.length) hmap).le
    | some e' =>
      show (m'.map.insert k e').entries.length ≤ m.map.entries.length
      rw [hmap, length_insert_of_mem e' hl]
  | false =>
    rw [hvalid, if_neg Bool.false_ne_true] at hmap
    have herase := length_erase_of_mem hl
    have huse := len_useEntry_le m k now use
    have hlen : (m.entry k now).2.len + 1 = m.len := by
      rw [len, hmap]
      exact herase
    omega

omit [DecidableEq K] in
theorem len_cleanup_le {n d : ℕ} (h : m.periodic.Counting)
    (hlen : m.len ≤ n + m.periodic.cur.toNat + 1 + d) (now : RelativeTime) :
    (m.cleanup now).len ≤ (if m.periodic.next.1 then (m.iter now).length else n) +
      (m.cleanup now).periodic.cur.toNat + d := by
  rcases cleanup_cases h now with ⟨hnext, hmap, -, hcur⟩ | ⟨hnext, hmap, -⟩
  · rw [hnext, if_neg Bool.false_ne_true, len, hmap, hcur]
    exact hlen
  · rw [hnext, if_pos rfl, len, hmap]
    have hsweep := len_sweep_le m now
    unfold len at hsweep
    omega

theorem getD_ite (b : Bool) (a n : ℕ) :
    ((if b = true then some a else none : Option ℕ).getD n) = if b = true then a else n := by
  split_ifs
  · rfl
  · rfl

theorem Bounded.useEntry {n : ℕ} (h : m.Bounded n) (k : K) (now : RelativeTime)
    (use : EntryUse V) :
    (m.useEntry k now use).2.Bounded ((m.swept (.entry k now use)).getD n) := by
  obtain ⟨hcounting, hlen⟩ := h
  have hperiodic := periodic_useEntry m k now use
  refine ⟨by rw [hperiodic]; exact counting_entry hcounting k now, ?_⟩
  unfold swept
  dsimp only
  rw [getD_ite, hperiodic]
  cases hl : m.lookup k with
  | none =>
    have hbounded := len_cleanup_le (d := 0) hcounting hlen now
    have huse := len_useEntry_le m k now use
    rw [entry_absent hl] at huse ⊢
    rw [Option.isNone_none, Bool.true_and]
    omega
  | some e =>
    rw [(entry_present hl now).1, Option.isNone_some, Bool.false_and, if_neg Bool.false_ne_true]
    exact (len_useEntry_present hl now use).trans hlen

theorem Bounded.retain {n : ℕ} (h : m.Bounded n) (now : RelativeTime) (f : K → V → Option V) :
    (m.retain now f).Bounded ((m.swept (.retain now f)).getD n) := by
  obtain ⟨hcounting, hlen⟩ := h
  unfold TimedHashMap.retain swept
  dsimp only
  split_ifs
  · exact ⟨hcounting, hlen⟩
  · refine ⟨hcounting.reset, ?_⟩
    have hretain := len_retain_le (m := m) now f
    unfold len at hretain ⊢
    exact hretain.trans (Nat.le_add_right _ _)

/-- One operation: the map grows by at most what is counted, or is swept. -/
theorem Bounded.step {n : ℕ} (h : m.Bounded n) (op : MapOp K V) :
    (m.step op).Bounded ((m.swept op).getD n) := by
  obtain ⟨hcounting, hlen⟩ := h
  cases op with
  | insert k v tNew tClean =>
    have hinsert := length_insert_le k ⟨tNew, v⟩ m.map
    have hlen' : ({ m with map := m.map.insert k ⟨tNew, v⟩ } : TimedHashMap K V).len ≤
        n + m.periodic.cur.toNat + 1 + 1 := by
      unfold len at hlen ⊢
      dsimp only
      omega
    have hbounded := len_cleanup_le (m := { m with map := m.map.insert k ⟨tNew, v⟩ })
      hcounting hlen' tClean
    refine ⟨counting_step hcounting (.insert k v tNew tClean), ?_⟩
    unfold swept
    dsimp only
    rw [getD_ite]
    exact hbounded
  | remove k now =>
    refine ⟨hcounting, le_trans ?_ hlen⟩
    exact (List.kerase_sublist k m.map.entries).length_le
  | entry k now use => exact Bounded.useEntry ⟨hcounting, hlen⟩ k now use
  | get k now => exact ⟨hcounting, hlen⟩
  | iter now => exact ⟨hcounting, hlen⟩
  | keys now => exact ⟨hcounting, hlen⟩
  | retain now f => exact Bounded.retain ⟨hcounting, hlen⟩ now f
  | clear => exact ⟨hcounting, Nat.zero_le _⟩

theorem Bounded.run (ops : List (MapOp K V)) : ∀ {m : TimedHashMap K V} {n : ℕ}, m.Bounded n →
    (m.run ops).Bounded (m.lastSwept n ops) := by
  induction ops with
  | nil => exact fun h => h
  | cons op ops ih => exact fun h => ih (h.step op)

end TimedHashMap

open TimedHashMap in
/-- Garbage is bounded. An entry that is expired at a time is gone after as many growth operations
as the counter's limit, unless something is put under its key; and the map never has more entries
than were unexpired at the last full sweep and that many more. -/
theorem garbage_bounded {K V : Type} [DecidableEq K] (timeout : UInt32) :
    (∀ (p q : List (MapOp K V)) (T : RelativeTime) (k : K) (e : Timed V),
      (p.flatMap MapOp.readings ++ T :: q.flatMap MapOp.readings).Pairwise (· ≤ ·) →
      ((new timeout).run p).lookup k = some e → e.isValid T timeout = false →
      (∀ op ∈ q, ¬ op.Overwrites k) →
      Periodic.defaultLimit.toNat ≤ ((new timeout).run p).growths q →
      ((new timeout).run (p ++ q)).lookup k = none) ∧
    ∀ ops : List (MapOp K V), ((new timeout).run ops).len ≤
      (new timeout).lastSwept 0 ops + Periodic.defaultLimit.toNat := by
  have hnew : (new timeout : TimedHashMap K V).periodic.Counting := Periodic.counting_default
  constructor
  · intro p q T k e hr hl hdead hops hgrowths
    have hcounting := counting_run hnew p
    have hT := (List.pairwise_cons.1 (List.pairwise_append.1 hr).2.1).1
    have hdead' : e.isValid T ((new timeout).run p).timeout = false := by
      rw [timeout_run]
      exact hdead
    have happend : (new timeout).run (p ++ q) = ((new timeout).run p).run q := exec_append p q
    rw [happend]
    rcases run_dead q hcounting hl hdead' hT hops with hnone | hcur
    · exact hnone
    · -- the counter would be at its limit
      have hlt := (counting_run hcounting q).2
      omega
  · intro ops
    have hbounded : ((new timeout : TimedHashMap K V).run ops).Bounded _ :=
      Bounded.run ops (n := 0) ⟨hnew, Nat.zero_le _⟩
    obtain ⟨⟨-, hcur⟩, hlen⟩ := hbounded
    omega

end Xash3d
