import Xash3d.Master.TimedHashMap
import Xash3d.Lib.Run

/-!
# The expiring map that `TimedHashMap` implements

`Plain` is a map from keys to creation times and values that is never cleaned up: an entry is
visible while fewer than `timeout` seconds have passed since its creation. `TimedHashMap` answers
every sequence of operations as `Plain` does (`timedHashMap_refines`). The simulation relation says
that both show the same at all times to come, and leaves open which outdated entries are still
there.
-/

namespace Xash3d

open Lib

/-- What is done with the entry of a key. -/
inductive EntryUse (V : Type)
  /-- See whether it is occupied. -/
  | look
  /-- Put a default made at the reading `tNew` if it is vacant, and update the value in place. -/
  | orInsert (tNew : RelativeTime) (v : V) (f : V → V)
  /-- Put a new value made at the reading `tNew`. -/
  | insert (tNew : RelativeTime) (v : V)
  /-- Update the value in place if it is occupied. -/
  | update (f : V → V)

/-- An operation on an expiring map, with the clock readings it makes. -/
inductive MapOp (K V : Type)
  | insert (k : K) (v : V) (tNew tClean : RelativeTime)
  | remove (k : K) (now : RelativeTime)
  | entry (k : K) (now : RelativeTime) (use : EntryUse V)
  | get (k : K) (now : RelativeTime)
  | iter (now : RelativeTime)
  | keys (now : RelativeTime)
  | retain (now : RelativeTime) (f : K → V → Option V)
  | clear

/-- What an operation answers: an entry, a list of entries, a list of keys or nothing. -/
inductive MapAnswer (K V : Type)
  | found (e : Option (Timed V))
  | listed (l : List (K × Timed V))
  | keyed (l : List K)
  | done

section

variable {K V : Type}

def EntryUse.readings : EntryUse V → List RelativeTime
  | look => []
  | orInsert tNew _ _ => [tNew]
  | insert tNew _ => [tNew]
  | update _ => []

def MapOp.readings : MapOp K V → List RelativeTime
  | insert _ _ tNew tClean => [tNew, tClean]
  | remove _ now => [now]
  | entry _ now use => now :: use.readings
  | get _ now => [now]
  | iter now => [now]
  | keys now => [now]
  | retain now _ => [now]
  | clear => []

/-- Change the value of an entry in place. -/
def Timed.modify (e : Timed V) (f : V → V) : Timed V := ⟨e.time, f e.value⟩

/-- What a use leaves at the key of an entry, given what occupies it. -/
def EntryUse.result (use : EntryUse V) (e : Option (Timed V)) : Option (Timed V) :=
  match use with
  | look => none
  | orInsert tNew v f => some ((e.getD ⟨tNew, v⟩).modify f)
  | insert tNew v => some ⟨tNew, v⟩
  | update f => e.map fun e => e.modify f

end

variable {K V : Type} [DecidableEq K]

/-! ## Operations of the map -/

namespace TimedHashMap

/-- Use the entry of a key. -/
def useEntry (m : TimedHashMap K V) (k : K) (now : RelativeTime) (use : EntryUse V) :
    Option (Timed V) × TimedHashMap K V :=
  match m.entry k now with
  | (e, m) => (e, match use.result e with
    | some e' => m.entryInsert k e'
    | none => m)

def apply (m : TimedHashMap K V) : MapOp K V → MapAnswer K V × TimedHashMap K V
  | .insert k v tNew tClean => (.done, m.insert k v tNew tClean)
  | .remove k now => (.found (m.remove k now).1, (m.remove k now).2)
  | .entry k now use => (.found (m.useEntry k now use).1, (m.useEntry k now use).2)
  | .get k now => (.found (m.get k now), m)
  | .iter now => (.listed (m.iter now), m)
  | .keys now => (.keyed (m.keys now), m)
  | .retain now f => (.done, m.retain now f)
  | .clear => (.done, m.clear)

end TimedHashMap

/-! ## Operations of the plain map -/

/-- A map of entries with their creation times, which are visible for a while. -/
structure Plain (K V : Type) where
  timeout : UInt32
  map : K → Option (Timed V)

/-- What an operation of the plain map answers: an entry, the visible entries or nothing. -/
inductive PlainAnswer (K V : Type)
  | found (e : Option (Timed V))
  | visible (g : K → Option (Timed V))
  | done

namespace Plain

/-- The empty map. -/
def empty (timeout : UInt32) : Plain K V := ⟨timeout, fun _ => none⟩

/-- The entry of a key, if fewer than `timeout` whole seconds have passed since its creation. -/
def visible (p : Plain K V) (t : RelativeTime) (k : K) : Option (Timed V) :=
  (p.map k).filter fun e => RelativeTime.asSecs (t.durationSince e.time) < p.timeout.toNat

/-- Put an entry in place, or remove it. -/
def put (p : Plain K V) (k : K) (e : Option (Timed V)) : Plain K V :=
  { p with map := Function.update p.map k e }

def apply (p : Plain K V) : MapOp K V → PlainAnswer K V × Plain K V
  | .insert k v tNew _ => (.done, p.put k (some ⟨tNew, v⟩))
  | .remove k now => (.found (p.visible now k), p.put k none)
  | .entry k now use =>
    (.found (p.visible now k), match use.result (p.visible now k) with
      | some e => p.put k (some e)
      | none => p)
  | .get k now => (.found (p.visible now k), p)
  | .iter now => (.visible (p.visible now), p)
  | .keys now => (.visible (p.visible now), p)
  | .retain now f =>
    (.done, { p with map := fun k => match p.visible now k with
      | some e => (f k e.value).map (Timed.mk e.time)
      | none => p.map k })
  | .clear => (.done, empty p.timeout)

end Plain

/-- An answer of the map is the answer of the plain map: the lists hold exactly the visible entries,
each once. -/
def Answers : MapAnswer K V → PlainAnswer K V → Prop
  | .found e, .found e' => e = e'
  | .listed l, .visible g => (l.map Prod.fst).Nodup ∧ ∀ k e, (k, e) ∈ l ↔ g k = some e
  | .keyed l, .visible g => l.Nodup ∧ ∀ k, k ∈ l ↔ (g k).isSome = true
  | .done, .done => True
  | _, _ => False

/-! ## The simulation -/

/-- Both maps show the same from the time `t` on. -/
def SameFrom (t : RelativeTime) (m : TimedHashMap K V) (p : Plain K V) : Prop :=
  m.timeout = p.timeout ∧ ∀ t', t ≤ t' → m.view t' = p.visible t'

namespace SameFrom

variable {t now tNew tClean : RelativeTime} {m : TimedHashMap K V} {p : Plain K V} {k : K} {v : V}

theorem later (h : SameFrom t m p) (ht : t ≤ now) : SameFrom now m p :=
  ⟨h.1, fun t' ht' => h.2 t' (ht.trans ht')⟩

theorem visible_put (p : Plain K V) (k : K) (e : Option (Timed V)) (t : RelativeTime) :
    (p.put k e).visible t =
      Function.update (p.visible t) k (e.filter fun e => e.isValid t p.timeout) := by
  funext k'
  unfold Plain.put Plain.visible
  by_cases hk : k' = k
  · subst hk
    simp [Timed.isValid]
  · simp [hk]

theorem insert (h : SameFrom t m p) (ht : t ≤ tClean) :
    SameFrom tClean (m.insert k v tNew tClean) (p.put k (some ⟨tNew, v⟩)) := by
  refine ⟨TimedHashMap.timeout_insert.trans h.1, fun t' ht' => ?_⟩
  rw [TimedHashMap.view_insert ht', visible_put, h.2 t' (ht.trans ht'), h.1]
  rfl

theorem remove (h : SameFrom t m p) (k : K) (now : RelativeTime) :
    SameFrom t (m.remove k now).2 (p.put k none) := by
  refine ⟨h.1, fun t' ht' => ?_⟩
  rw [TimedHashMap.view_remove, visible_put, h.2 t' ht']
  rfl

theorem entryInsert {e : Timed V} (h : SameFrom t m p) :
    SameFrom t (m.entryInsert k e) (p.put k (some e)) := by
  refine ⟨h.1, fun t' ht' => ?_⟩
  rw [TimedHashMap.view_entryInsert, visible_put, h.2 t' ht', h.1]
  rfl

theorem entry (h : SameFrom t m p) (ht : t ≤ now) : SameFrom now (m.entry k now).2 p := by
  refine ⟨TimedHashMap.timeout_entry.trans h.1, fun t' ht' => ?_⟩
  rw [TimedHashMap.view_entry ht', h.2 t' (ht.trans ht')]

theorem retain (h : SameFrom t m p) (ht : t ≤ now) (f : K → V → Option V) :
    SameFrom now (m.retain now f) (p.apply (.retain now f)).2 := by
  refine ⟨(TimedHashMap.timeout_retain f).trans h.1, fun t' ht' => ?_⟩
  funext k
  have hnow : m.view now k = p.visible now k := congrFun (h.2 now ht) k
  have hlater : m.view t' k = p.visible t' k := congrFun (h.2 t' (ht.trans ht')) k
  have hlookup : (m.retain now f).lookup k = _ := TimedHashMap.lookup_retain f
  show ((m.retain now f).lookup k).filter (fun e => e.isValid t' (m.retain now f).timeout) =
    (match p.visible now k with
      | some e => (f k e.value).map (Timed.mk e.time)
      | none => p.map k).filter fun e => e.isValid t' p.timeout
  rw [hlookup, TimedHashMap.timeout_retain, h.1, ← hnow]
  cases hv : m.view now k with
  | some e =>
    obtain ⟨hl, hvalid⟩ := TimedHashMap.view_eq_some.1 hv
    rw [h.1] at hvalid
    rw [hl, Option.bind_some, if_pos hvalid]
  | none =>
    -- an outdated entry is removed from one map and stays in the other, where nobody sees it
    have hnone : m.view t' k = none := TimedHashMap.view_none_of_le ht' hv
    have hp : (p.map k).filter (fun e => e.isValid t' p.timeout) = none := hlater.symm.trans hnone
    rw [hp]
    cases hl : m.lookup k with
    | none => rfl
    | some e =>
      have hinvalid : ¬ e.isValid now p.timeout = true := by
        intro hvalid
        rw [← h.1] at hvalid
        rw [TimedHashMap.view_eq_some.2 ⟨hl, hvalid⟩] at hv
        cases hv
      rw [Option.bind_some, if_neg hinvalid]
      rfl

theorem clear (h : SameFrom t m p) : SameFrom t m.clear (Plain.empty p.timeout) :=
  ⟨h.1, fun _ _ => rfl⟩

/-- A use of an entry is seen in both maps alike. -/
theorem useEntry (h : SameFrom t m p) (ht : t ≤ now) (use : EntryUse V) :
    (m.useEntry k now use).1 = p.visible now k ∧
      SameFrom now (m.useEntry k now use).2 (p.apply (.entry k now use)).2 := by
  have hfst : (m.entry k now).1 = p.visible now k :=
    (TimedHashMap.entry_fst m k now).trans (congrFun (h.2 now ht) k)
  have hentry := h.entry (k := k) ht
  unfold TimedHashMap.useEntry Plain.apply
  rcases hm : m.entry k now with ⟨e, m'⟩
  rw [hm] at hfst hentry
  dsimp only at hfst hentry ⊢
  refine ⟨hfst, ?_⟩
  rw [hfst]
  cases use.result (p.visible now k) with
  | none => exact hentry
  | some e' => exact hentry.entryInsert

end SameFrom

/-! ## The refinement -/

/-- Both maps show the same from some time on, which no reading of the operations precedes. -/
def Related (ops : List (MapOp K V)) (m : TimedHashMap K V) (p : Plain K V) : Prop :=
  ∃ t, SameFrom t m p ∧ (t :: ops.flatMap MapOp.readings).Pairwise (· ≤ ·)

variable {m : TimedHashMap K V} {p : Plain K V} {ops : List (MapOp K V)}

/-- Operations go on from a later time that no reading to come precedes. -/
theorem SameFrom.related {t : RelativeTime} (h : SameFrom t m p)
    (hr : (t :: ops.flatMap MapOp.readings).Pairwise (· ≤ ·)) : Related ops m p := ⟨t, h, hr⟩

/-- Readings from a time on, the first of which is a reading `now`. -/
theorem pairwise_now {t now : RelativeTime} {l : List RelativeTime}
    (h : (t :: now :: l).Pairwise (· ≤ ·)) : t ≤ now ∧ (now :: l).Pairwise (· ≤ ·) :=
  ⟨(List.pairwise_cons.1 h).1 now (List.mem_cons_self), h.tail⟩

/-- One operation is answered alike and keeps the relation. -/
theorem apply_related (op : MapOp K V) (ops : List (MapOp K V)) (m : TimedHashMap K V)
    (p : Plain K V) (h : Related (op :: ops) m p) :
    Answers (m.apply op).1 (p.apply op).1 ∧ Related ops (m.apply op).2 (p.apply op).2 := by
  obtain ⟨t, hs, hr⟩ := h
  rw [List.flatMap_cons] at hr
  cases op with
  | insert k v tNew tClean =>
    obtain ⟨ht, hr⟩ := pairwise_now hr
    obtain ⟨hn, hr⟩ := pairwise_now hr
    exact ⟨trivial, (hs.insert (ht.trans hn)).related hr⟩
  | remove k now =>
    obtain ⟨ht, hr⟩ := pairwise_now hr
    exact ⟨congrFun (hs.2 now ht) k, ((hs.later ht).remove k now).related hr⟩
  | entry k now use =>
    obtain ⟨ht, hr⟩ := pairwise_now hr
    obtain ⟨hanswer, hs⟩ := hs.useEntry (k := k) ht use
    refine ⟨hanswer, hs.related (hr.sublist ?_)⟩
    exact (List.sublist_append_right _ _).cons_cons now
  | get k now =>
    obtain ⟨ht, hr⟩ := pairwise_now hr
    exact ⟨congrFun (hs.2 now ht) k, (hs.later ht).related hr⟩
  | iter now =>
    obtain ⟨ht, hr⟩ := pairwise_now hr
    refine ⟨⟨m.nodup_keys now, fun k e => ?_⟩, (hs.later ht).related hr⟩
    rw [TimedHashMap.mem_iter, hs.2 now ht]
  | keys now =>
    obtain ⟨ht, hr⟩ := pairwise_now hr
    refine ⟨⟨m.nodup_keys now, fun k => ?_⟩, (hs.later ht).related hr⟩
    rw [TimedHashMap.mem_keys, hs.2 now ht, Option.isSome_iff_exists]
  | retain now f =>
    obtain ⟨ht, hr⟩ := pairwise_now hr
    exact ⟨trivial, (hs.retain ht f).related hr⟩
  | clear => exact ⟨trivial, hs.clear.related hr⟩

/-- Whenever the periodic cleanup fires, an empty map with a timeout answers operations at
readings that do not decrease as the plain map with that timeout, which is never cleaned up. -/
theorem timedHashMap_refines (timeout : UInt32) (periodic : Periodic) (ops : List (MapOp K V))
    (hr : (ops.flatMap MapOp.readings).Pairwise (· ≤ ·)) :
    List.Forall₂ Answers
      (outputs TimedHashMap.apply { TimedHashMap.new timeout with periodic } ops)
      (outputs Plain.apply (Plain.empty timeout) ops) := by
  refine outputs_simulation (R := Related) apply_related ops _ _ ?_
  -- no time precedes the start of the program
  refine ⟨⟨0⟩, ⟨rfl, fun _ _ => rfl⟩, List.pairwise_cons.2 ⟨fun t _ => ?_, hr⟩⟩
  exact Nat.zero_le _

/-- A key is read, expires after ten seconds, and is taken anew. -/
theorem timedHashMap_refines_expired :
    List.Forall₂ Answers
      (outputs TimedHashMap.apply { TimedHashMap.new 10 with periodic := .withLimit 1 }
        [.insert 1 () ⟨0⟩ ⟨0⟩, .get 1 ⟨125⟩, .entry 1 ⟨1250⟩ (.insert ⟨1250⟩ ()), .keys ⟨1251⟩])
      (outputs Plain.apply (Plain.empty 10)
        [.insert 1 () ⟨0⟩ ⟨0⟩, .get 1 ⟨125⟩, .entry 1 ⟨1250⟩ (.insert ⟨1250⟩ ()), .keys ⟨1251⟩]) :=
  timedHashMap_refines 10 (.withLimit 1) _ (by decide)

end Xash3d
