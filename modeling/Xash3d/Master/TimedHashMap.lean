import Xash3d.Lib.Bytes
import Xash3d.Lib.Expiry

/-!
# The relative clock and the expiring hash map

`TimedHashMap` is an association list whose entries carry their creation time. Every operation
takes the clock readings it makes. The lemmas `view_insert`, `view_remove`, `view_entry`, … say
what an operation does to what readers see (`view`): none of them mentions the periodic cleanup,
which readers do not notice. The lemmas `lookup_insert`, … say what it does to the entries that
are physically there.
-/

namespace Xash3d

open Lib

/-! ## Time -/

/-- A time relative to the startup of the program. -/
structure RelativeTime where
  units : UInt32
  deriving DecidableEq

namespace RelativeTime

def millisPerUnit : ℕ := 125

def unitsPerSec : ℕ := 1000 / millisPerUnit

def fromMillis (ms : ℕ) : RelativeTime := ⟨UInt32.ofNat (ms / unitsPerSec)⟩

def asMillis (t : RelativeTime) : ℕ := t.units.toNat * unitsPerSec

/-- The amount of time elapsed from another time to this one, in milliseconds, or zero if
`earlier` is later than this time. -/
def durationSince (t earlier : RelativeTime) : ℕ := t.asMillis - earlier.asMillis

/-- The whole seconds of a duration. -/
def asSecs (duration : ℕ) : ℕ := duration / 1000

theorem toNat_injective : Function.Injective fun t : RelativeTime => t.units.toNat := by
  rintro ⟨t⟩ ⟨t'⟩ h
  exact congrArg RelativeTime.mk (UInt32.toNat_inj.1 h)

instance : LinearOrder RelativeTime := LinearOrder.lift' _ toNat_injective

theorem le_def {t t' : RelativeTime} : t ≤ t' ↔ t.units.toNat ≤ t'.units.toNat := Iff.rfl

theorem durationSince_eq (t earlier : RelativeTime) :
    t.durationSince earlier = (t.units.toNat - earlier.units.toNat) * 8 :=
  (Nat.sub_mul _ _ 8).symm

theorem durationSince_mono {t t' e : RelativeTime} (h : t ≤ t') :
    t.durationSince e ≤ t'.durationSince e := by
  have := le_def.1 h
  rw [durationSince_eq, durationSince_eq]
  omega

end RelativeTime

/-! ## Entries -/

/-- An entry with its creation time. -/
structure Timed (V : Type) where
  time : RelativeTime
  value : V
  deriving DecidableEq

/-- The entry is younger than `secs` seconds. -/
def Timed.isValid {V : Type} (e : Timed V) (now : RelativeTime) (secs : UInt32) : Bool :=
  RelativeTime.asSecs (now.durationSince e.time) < secs.toNat

/-- An entry is valid while fewer than its timeout have passed since its creation. -/
theorem Timed.isValid_iff {V : Type} (e : Timed V) (now : RelativeTime) (secs : UInt32) :
    e.isValid now secs = true ↔ now.durationSince e.time < secs.toNat * 1000 := by
  unfold isValid RelativeTime.asSecs
  rw [decide_eq_true_eq, Nat.div_lt_iff_lt_mul (by decide)]

/-- The lifetime of entries with a timeout in seconds. -/
def timedLife (V : Type) (secs : UInt32) : Lifetime (Timed V) RelativeTime where
  alive e t := e.isValid t secs
  alive_of_le h he := by
    rw [Timed.isValid_iff] at he ⊢
    exact lt_of_le_of_lt (RelativeTime.durationSince_mono h) he

theorem Timed.isValid_of_le {V : Type} {e : Timed V} {t t' : RelativeTime} {secs : UInt32}
    (h : t ≤ t') (he : e.isValid t' secs = true) : e.isValid t secs = true :=
  (timedLife V secs).alive_of_le h he

/-- An entry is valid when it is created, unless the timeout is zero. -/
theorem Timed.isValid_self {V : Type} (t : RelativeTime) (v : V) {secs : UInt32}
    (h : 0 < secs.toNat) : (⟨t, v⟩ : Timed V).isValid t secs = true := by
  rw [isValid_iff, RelativeTime.durationSince, Nat.sub_self]
  omega

/-! ## Periodic actions -/

/-- Helper wrapper to periodically execute an action. -/
structure Periodic where
  limit : UInt16
  cur : UInt16
  deriving DecidableEq

namespace Periodic

def defaultLimit : UInt16 := 100

def withLimit (limit : UInt16) : Periodic := ⟨limit, 0⟩

instance : Inhabited Periodic := ⟨withLimit defaultLimit⟩

/-- Reset the counter. -/
def reset (p : Periodic) : Periodic := { p with cur := 0 }

/-- Increase the counter; the flag tells whether it has reached the limit. -/
def next (p : Periodic) : Bool × Periodic :=
  let p := { p with cur := p.cur + 1 }
  if p.cur < p.limit then (false, p) else (true, p.reset)

end Periodic

/-! ## The map -/

structure TimedHashMap (K V : Type) where
  timeout : UInt32
  periodic : Periodic
  map : AList fun _ : K => Timed V

namespace TimedHashMap

variable {K V : Type}

def new (timeout : UInt32) : TimedHashMap K V := ⟨timeout, default, ∅⟩

def setTimeout (m : TimedHashMap K V) (timeout : UInt32) : TimedHashMap K V := { m with timeout }

def len (m : TimedHashMap K V) : ℕ := m.map.entries.length

def clear (m : TimedHashMap K V) : TimedHashMap K V := { m with map := ∅ }

/-- Keep the valid entries only. -/
def sweep (m : TimedHashMap K V) (now : RelativeTime) : TimedHashMap K V :=
  { m with map := filterMapVal (fun _ e => if e.isValid now m.timeout then some e else none) m.map }

/-- Every `limit` calls, remove the outdated entries. -/
def cleanup (m : TimedHashMap K V) (now : RelativeTime) : TimedHashMap K V :=
  let next := m.periodic.next
  if next.1 then { m with periodic := next.2 }.sweep now else { m with periodic := next.2 }

/-- The valid entries. -/
def iter (m : TimedHashMap K V) (now : RelativeTime) : List (K × Timed V) :=
  m.map.entries.filterMap fun e => if e.2.isValid now m.timeout then some (e.1, e.2) else none

def keys (m : TimedHashMap K V) (now : RelativeTime) : List K := (m.iter now).map Prod.fst

/-- Keep the valid entries that `f` keeps, with the values it answers. -/
def retain (m : TimedHashMap K V) (now : RelativeTime) (f : K → V → Option V) :
    TimedHashMap K V :=
  if m.map.entries.isEmpty then m
  else
    { m with
      map := filterMapVal (fun k e =>
        if e.isValid now m.timeout then (f k e.value).map (Timed.mk e.time) else none) m.map
      -- outdated entries have been removed, the periodic cleanup can be delayed
      periodic := m.periodic.reset }

variable [DecidableEq K]

/-- Insert a value at the reading `tNew`; the cleanup reads the clock at `tClean`. -/
def insert (m : TimedHashMap K V) (k : K) (v : V) (tNew tClean : RelativeTime) :
    TimedHashMap K V :=
  { m with map := m.map.insert k ⟨tNew, v⟩ }.cleanup tClean

def remove (m : TimedHashMap K V) (k : K) (now : RelativeTime) :
    Option (Timed V) × TimedHashMap K V :=
  ((m.map.lookup k).filter fun e => e.isValid now m.timeout, { m with map := m.map.erase k })

/-- The entry of a key: what it is occupied by, and the map behind it. -/
def entry (m : TimedHashMap K V) (k : K) (now : RelativeTime) :
    Option (Timed V) × TimedHashMap K V :=
  let m := match m.map.lookup k with
    | some v =>
      -- try to remove the requested outdated entry
      if !v.isValid now m.timeout then { m with map := m.map.erase k } else m
    | none => m.cleanup now -- or try to remove other outdated entries
  (m.map.lookup k, m)

/-- Insert through an entry, without a cleanup. -/
def entryInsert (m : TimedHashMap K V) (k : K) (e : Timed V) : TimedHashMap K V :=
  { m with map := m.map.insert k e }

/-- What occupies the entry of a key, a default made at the reading `tNew` if nothing does. -/
def orInsert (m : TimedHashMap K V) (k : K) (now tNew : RelativeTime) (v : V) :
    Timed V × TimedHashMap K V :=
  match m.entry k now with
  | (some e, m) => (e, m)
  | (none, m) => (⟨tNew, v⟩, m.entryInsert k ⟨tNew, v⟩)

def get (m : TimedHashMap K V) (k : K) (now : RelativeTime) : Option (Timed V) :=
  (m.map.lookup k).filter fun e => e.isValid now m.timeout

/-! ## What readers see -/

/-- The entry of a key that is physically there, valid or not. -/
def lookup (m : TimedHashMap K V) (k : K) : Option (Timed V) := m.map.lookup k

/-- What readers see at a time. -/
def view (m : TimedHashMap K V) (t : RelativeTime) : K → Option (Timed V) :=
  (timedLife V m.timeout).view m.lookup t

variable {m m' : TimedHashMap K V} {k : K} {v : V} {e : Timed V} {t t' now tNew tClean : RelativeTime}

theorem get_eq_view (m : TimedHashMap K V) (k : K) (now : RelativeTime) :
    m.get k now = m.view now k := rfl

theorem view_eq_some :
    m.view t k = some e ↔ m.lookup k = some e ∧ e.isValid t m.timeout = true :=
  Lifetime.view_eq_some

theorem view_of_le (h : t ≤ t') (he : m.view t' k = some e) : m.view t k = some e :=
  Lifetime.view_of_le h he

theorem view_none_of_le (h : t ≤ t') (he : m.view t k = none) : m.view t' k = none :=
  Lifetime.view_none_of_le h he

omit [DecidableEq K] in
theorem timeout_cleanup (m : TimedHashMap K V) (now : RelativeTime) :
    (m.cleanup now).timeout = m.timeout := by
  unfold cleanup
  dsimp only
  split_ifs <;> rfl

@[simp] theorem timeout_insert : (m.insert k v tNew tClean).timeout = m.timeout :=
  timeout_cleanup _ _

@[simp] theorem timeout_remove : (m.remove k now).2.timeout = m.timeout := rfl

@[simp] theorem timeout_entry : (m.entry k now).2.timeout = m.timeout := by
  unfold entry
  dsimp only
  split
  · split_ifs <;> rfl
  · exact timeout_cleanup _ _

@[simp] theorem timeout_entryInsert : (m.entryInsert k e).timeout = m.timeout := rfl

@[simp] theorem timeout_orInsert : (m.orInsert k now tNew v).2.timeout = m.timeout := by
  have h : (m.entry k now).2.timeout = m.timeout := timeout_entry
  unfold orInsert
  rcases hm : m.entry k now with ⟨e | e, m'⟩
  · simpa [hm] using h
  · simpa [hm] using h

omit [DecidableEq K] in
@[simp] theorem timeout_retain (f : K → V → Option V) :
    (m.retain now f).timeout = m.timeout := by
  unfold retain
  split_ifs <;> rfl

/-- The cleanup drops entries that are expired at its reading, and nothing else. -/
theorem sweep_cleanup (m : TimedHashMap K V) (now : RelativeTime) :
    (timedLife V m.timeout).Sweep now m.lookup (m.cleanup now).lookup := by
  intro k
  unfold cleanup lookup
  dsimp only
  split_ifs with hrun
  · show (filterMapVal _ m.map).lookup k = _ ∨ (filterMapVal _ m.map).lookup k = none ∧ _
    rw [lookup_filterMapVal]
    cases h : m.map.lookup k with
    | none => exact Or.inl rfl
    | some e =>
      show (if e.isValid now m.timeout then some e else none) = some e ∨
        (if e.isValid now m.timeout then some e else none) = none ∧
          ∀ e', some e = some e' → e'.isValid now m.timeout = false
      cases hv : e.isValid now m.timeout with
      | true => exact Or.inl rfl
      | false => exact Or.inr ⟨rfl, fun e' he' => Option.some.inj he' ▸ hv⟩
  · exact Or.inl rfl

/-- Inserting puts the new entry in place and drops entries expired at the cleanup. -/
theorem sweep_insert (m : TimedHashMap K V) (k : K) (v : V) (tNew tClean : RelativeTime) :
    (timedLife V m.timeout).Sweep tClean (Function.update m.lookup k (some ⟨tNew, v⟩))
      (m.insert k v tNew tClean).lookup := by
  have h := sweep_cleanup { m with map := m.map.insert k ⟨tNew, v⟩ } tClean
  have hl : ({ m with map := m.map.insert k ⟨tNew, v⟩ } : TimedHashMap K V).lookup =
      Function.update m.lookup k (some ⟨tNew, v⟩) := by
    funext k'
    by_cases hk : k' = k
    · subst hk
      rw [Function.update_self]
      exact AList.lookup_insert _
    · rw [Function.update_of_ne hk]
      exact AList.lookup_insert_ne hk
  rw [hl] at h
  exact h

theorem lookup_remove (m : TimedHashMap K V) (k : K) (now : RelativeTime) :
    (m.remove k now).2.lookup = Function.update m.lookup k none := by
  funext k'
  by_cases hk : k' = k
  · subst hk
    rw [Function.update_self]
    exact AList.lookup_erase _ _
  · rw [Function.update_of_ne hk]
    exact AList.lookup_erase_ne hk

theorem lookup_entryInsert (m : TimedHashMap K V) (k : K) (e : Timed V) :
    (m.entryInsert k e).lookup = Function.update m.lookup k (some e) := by
  funext k'
  by_cases hk : k' = k
  · subst hk
    rw [Function.update_self]
    exact AList.lookup_insert _
  · rw [Function.update_of_ne hk]
    exact AList.lookup_insert_ne hk

/-- The map behind an entry is a sweep of the map, which has no outdated entry of the key. -/
theorem sweep_entry (m : TimedHashMap K V) (k : K) (now : RelativeTime) :
    (timedLife V m.timeout).Sweep now m.lookup (m.entry k now).2.lookup := by
  unfold entry
  dsimp only
  cases h : m.map.lookup k with
  | none => exact sweep_cleanup m now
  | some e =>
    dsimp only
    split_ifs with hv
    · intro k'
      by_cases hk : k' = k
      · subst hk
        refine Or.inr ⟨AList.lookup_erase _ _, fun e' he' => ?_⟩
        obtain rfl : e = e' := Option.some.inj (h.symm.trans he')
        show e.isValid now m.timeout = false
        simpa using hv
      · exact Or.inl (AList.lookup_erase_ne hk)
    · exact Lifetime.Sweep.refl _

/-- An entry is occupied exactly by what a reader sees. -/
theorem entry_fst (m : TimedHashMap K V) (k : K) (now : RelativeTime) :
    (m.entry k now).1 = m.view now k := by
  unfold entry view Lifetime.view lookup
  dsimp only
  cases h : m.map.lookup k with
  | none =>
    rcases sweep_cleanup m now k with hc | ⟨hc, _⟩
    · exact hc.trans h
    · exact hc
  | some e =>
    show (if !e.isValid now m.timeout then { m with map := m.map.erase k } else m).map.lookup k =
      if e.isValid now m.timeout then some e else none
    cases hv : e.isValid now m.timeout with
    | true => exact h
    | false => exact AList.lookup_erase _ _

theorem lookup_entry_self (m : TimedHashMap K V) (k : K) (now : RelativeTime) :
    (m.entry k now).2.lookup k = m.view now k := entry_fst m k now

/-- What occupies a key after a default was put in a vacant entry. -/
theorem orInsert_fst (m : TimedHashMap K V) (k : K) (now tNew : RelativeTime) (v : V) :
    (m.orInsert k now tNew v).1 = (m.view now k).getD ⟨tNew, v⟩ := by
  have h := entry_fst m k now
  unfold orInsert
  rcases hm : m.entry k now with ⟨e | e, m'⟩ <;> rw [hm] at h <;> rw [← h] <;> rfl

/-- The occupied entry is put in place, and entries expired at the first reading are dropped. -/
theorem sweep_orInsert (m : TimedHashMap K V) (k : K) (now tNew : RelativeTime) (v : V) :
    (timedLife V m.timeout).Sweep now
      (Function.update m.lookup k (some ((m.view now k).getD ⟨tNew, v⟩)))
      (m.orInsert k now tNew v).2.lookup := by
  have hs := sweep_entry m k now
  have hf := entry_fst m k now
  have hl := lookup_entry_self m k now
  unfold orInsert
  rcases hm : m.entry k now with ⟨e | e, m'⟩ <;> rw [hm] at hs hf hl
  · intro k'
    show (m'.entryInsert k _).lookup k' = _ ∨ (m'.entryInsert k _).lookup k' = none ∧ _
    rw [← hf, lookup_entryInsert]
    by_cases hk : k' = k
    · subst hk
      exact Or.inl (by simp)
    · rw [Function.update_of_ne hk, Function.update_of_ne hk]
      exact hs k'
  · intro k'
    rw [← hf]
    by_cases hk : k' = k
    · subst hk
      exact Or.inl (by simpa using hl.trans hf.symm)
    · rw [Function.update_of_ne hk]
      exact hs k'

theorem lookup_orInsert_self (m : TimedHashMap K V) (k : K) (now tNew : RelativeTime) (v : V) :
    (m.orInsert k now tNew v).2.lookup k = some ((m.view now k).getD ⟨tNew, v⟩) := by
  have hf := entry_fst m k now
  have hl := lookup_entry_self m k now
  unfold orInsert
  rcases hm : m.entry k now with ⟨e | e, m'⟩ <;> rw [hm] at hf hl
  · rw [← hf, lookup_entryInsert]
    simp
  · rw [hl, ← hf]
    rfl

theorem view_insert (ht : tClean ≤ t) :
    (m.insert k v tNew tClean).view t =
      Function.update (m.view t) k
        (if (⟨tNew, v⟩ : Timed V).isValid t m.timeout then some ⟨tNew, v⟩ else none) := by
  unfold view
  rw [timeout_insert, (sweep_insert m k v tNew tClean).view_eq ht, Lifetime.view_update]
  rfl

theorem view_remove : (m.remove k now).2.view t = Function.update (m.view t) k none := by
  unfold view
  rw [timeout_remove, lookup_remove, Lifetime.view_update]
  rfl

theorem remove_fst : (m.remove k now).1 = m.view now k := rfl

theorem view_entry (ht : now ≤ t) : (m.entry k now).2.view t = m.view t := by
  unfold view
  rw [timeout_entry, (sweep_entry m k now).view_eq ht]

theorem view_orInsert (ht : now ≤ t) :
    (m.orInsert k now tNew v).2.view t =
      Function.update (m.view t) k
        ((some ((m.view now k).getD ⟨tNew, v⟩)).filter (Timed.isValid · t m.timeout)) := by
  unfold view
  rw [timeout_orInsert, (sweep_orInsert m k now tNew v).view_eq ht, Lifetime.view_update]
  rfl

theorem view_entryInsert :
    (m.entryInsert k e).view t =
      Function.update (m.view t) k (if e.isValid t m.timeout then some e else none) := by
  unfold view
  rw [timeout_entryInsert, lookup_entryInsert, Lifetime.view_update]
  rfl

theorem lookup_retain (f : K → V → Option V) :
    (m.retain now f).lookup k = (m.lookup k).bind fun e =>
      if e.isValid now m.timeout then (f k e.value).map (Timed.mk e.time) else none := by
  unfold retain lookup
  split_ifs with hempty
  · have hnil : m.map.entries = [] := by simpa using hempty
    have hnone : m.map.lookup k = none := by
      unfold AList.lookup
      rw [hnil]
      rfl
    rw [hnone]
    rfl
  · exact lookup_filterMapVal _ _ _

/-! ## Iteration -/

theorem mem_iter : (k, e) ∈ m.iter t ↔ m.view t k = some e := by
  rw [view_eq_some]
  unfold iter lookup
  rw [List.mem_filterMap, ← Option.mem_def, AList.mem_lookup_iff]
  constructor
  · rintro ⟨⟨k', e'⟩, hmem, he⟩
    dsimp only at he
    split_ifs at he with hv
    cases he
    exact ⟨hmem, hv⟩
  · rintro ⟨hmem, hv⟩
    exact ⟨⟨k, e⟩, hmem, if_pos hv⟩

omit [DecidableEq K] in
theorem keys_eq (m : TimedHashMap K V) (t : RelativeTime) :
    m.keys t = (m.map.entries.filter fun e => e.2.isValid t m.timeout).map Sigma.fst := by
  unfold keys iter
  induction m.map.entries with
  | nil => rfl
  | cons e l ih =>
    rw [List.filterMap_cons, List.filter_cons]
    split_ifs <;> simp [ih]

omit [DecidableEq K] in
theorem nodup_keys (m : TimedHashMap K V) (t : RelativeTime) : (m.keys t).Nodup := by
  rw [keys_eq]
  exact List.Nodup.sublist (List.filter_sublist.map _) m.map.keys_nodup

theorem mem_keys : k ∈ m.keys t ↔ ∃ e, m.view t k = some e := by
  unfold keys
  rw [List.mem_map]
  constructor
  · rintro ⟨⟨k', e⟩, h, rfl⟩
    exact ⟨e, mem_iter.1 h⟩
  · rintro ⟨e, h⟩
    exact ⟨(k, e), mem_iter.2 h, rfl⟩

end TimedHashMap

end Xash3d
