import Xash3d.Observer.Keys

/-!
# Pending queries

An entry is pending from the insertion of a master or a server to the next turn of the loop of
`waitEvent`, which empties the vector. As long as no socket fails, the vector holds no entry twice,
and each names what the observer has (`tidy_run`). `AtTurn` says where the turns of a wait start.
-/

namespace Xash3d

open Lib

theorem Prog.getState_bind {S α : Type} (f : S → Prog S α) (w : World S) :
    (getState >>= f) w = f w.state w := rfl

namespace Observer

/-! ## What is pending between waits -/

/-- A pending entry names a master or a connection of the observer. -/
def Core.Refers (s : Core) : Pending → Prop
  | .master a => ∃ m ∈ s.masters, m.addr = a
  | .server a => ∃ c, s.connections a = some c

/-- No entry is pending twice, and each names what the observer has. -/
structure Tidy (s : Core) : Prop where
  nodup : s.pending.Nodup
  refers : ∀ p ∈ s.pending, s.Refers p

theorem Tidy.of_nil {s : Core} (h : s.pending = []) : Tidy s := by
  refine ⟨h ▸ List.nodup_nil, fun p hp => ?_⟩
  rw [h] at hp
  cases hp

/-- The same entries, masters and connections are as tidy as before. -/
theorem Tidy.congr {s s' : Core} (h : Tidy s) (hpending : s'.pending = s.pending)
    (hmasters : s'.masters = s.masters) (hconnections : s'.connections = s.connections) :
    Tidy s' := by
  refine ⟨hpending ▸ h.nodup, fun p hp => ?_⟩
  have hrefers := h.refers p (hpending ▸ hp)
  cases p with
  | master a =>
    unfold Core.Refers
    rw [hmasters]
    exact hrefers
  | server a =>
    unfold Core.Refers
    rw [hconnections]
    exact hrefers

/-- An entry that names nothing sends nothing. -/
theorem queryPending_of_not_refers (sys : System) {p : Pending} {w : World Observer}
    (h : ¬ (core w).Refers p) : queryPending sys p w = .ok () w := by
  cases p with
  | master a =>
    have hnone : w.state.masters.findIdx? (·.addr == a) = none := by
      rw [List.findIdx?_eq_none_iff]
      intro m hm
      rw [beq_eq_false_iff_ne]
      exact fun ha => h ⟨m, hm, ha⟩
    rw [queryPending, Prog.getState_bind, hnone]
    rfl
  | server a =>
    have hnone : w.state.connections.lookup a = none := by
      rw [Option.eq_none_iff_forall_ne_some]
      exact fun c hc => h ⟨c, hc⟩
    rw [queryPending, Prog.getState_bind, hnone]
    rfl

/-! ## Calls -/

/-- The entry that a call takes away. -/
def Call.removed : Call → Option Pending
  | .removeMaster a => some (.master a)
  | .removeServer a => some (.server a)
  | _ => none

/-- An entry is removed from where it is first, which is everywhere if there are no others. -/
theorem removePending_nodup {o : Observer} (h : o.pending.Nodup) (p : Pending) :
    (o.removePending p).pending.Nodup ∧ p ∉ (o.removePending p).pending := by
  unfold removePending
  cases hi : o.pending.findIdx? (· == p) with
  | none =>
    refine ⟨h, fun hp => ?_⟩
    simpa using List.findIdx?_eq_none_iff.1 hi p hp
  | some i =>
    obtain ⟨hlt, hp, -⟩ := List.findIdx?_eq_some_iff_getElem.1 hi
    have hnodup := (swapRemove_perm hlt).nodup_iff.1 h
    rw [eq_of_beq hp] at hnodup
    exact ⟨(List.nodup_cons.1 hnodup).2, (List.nodup_cons.1 hnodup).1⟩

theorem call_removed {sys : System} {c : Call} {p : Pending} {w w' : World Observer}
    (hrun : c.run sys w = .ok () w') (hc : c.removed = some p) (h : w.state.pending.Nodup) :
    w'.state.pending.Nodup ∧ p ∉ w'.state.pending := by
  have hremoved : w'.state.pending = (w.state.removePending p).pending := by
    cases c with
    | removeMaster a =>
      cases hc
      simp only [Call.run, removeMaster, Prog.modifyState] at hrun
      rw [removePending_eq] at hrun
      cases hi : w.state.masters.findIdx? (·.addr == a) with
      | none =>
        rw [hi] at hrun
        cases hrun
        rfl
      | some i =>
        rw [hi] at hrun
        cases hrun
        rfl
    | removeServer a =>
      cases hc
      cases hrun
      rfl
    | _ => cases hc
  rw [hremoved]
  exact removePending_nodup h p

theorem Tidy.insert {s s' : Core} (h : Tidy s) {p : Pending} (hp : p ∉ s.pending)
    (hpending : s'.pending = s.pending ++ [p]) (hnew : s'.Refers p)
    (hold : ∀ q, s.Refers q → s'.Refers q) : Tidy s' := by
  refine ⟨?_, fun q hq => ?_⟩
  · rw [hpending, ← List.concat_eq_append]
    exact h.nodup.concat hp
  · rw [hpending] at hq
    rcases List.mem_append.1 hq with hq | hq
    · exact hold q (h.refers q hq)
    · rw [List.mem_singleton.1 hq]
      exact hnew

/-- An entry is taken away with what it names. -/
theorem Tidy.remove {s s' : Core} (h : Tidy s) {p : Pending}
    (hpending : Without p s.pending s'.pending)
    (hnodup : s'.pending.Nodup ∧ p ∉ s'.pending)
    (hold : ∀ q, q ≠ p → s.Refers q → s'.Refers q) : Tidy s' := by
  refine ⟨hnodup.1, fun q hq => hold q ?_ (h.refers q (hpending.1 hq))⟩
  rintro rfl
  exact hnodup.2 hq

theorem Tidy.called {sys : System} {c : Call} {s s' : Core} (h : Tidy s)
    (hcalled : Called sys s c s')
    (hremoved : ∀ p, c.removed = some p → s'.pending.Nodup ∧ p ∉ s'.pending) : Tidy s' := by
  cases hcalled with
  | setFilterRaw => exact h
  | insertMaster m hm =>
    refine h.insert (p := .master m.addr) (fun hp => ?_) rfl ?_ ?_
    · obtain ⟨m', hm', ha⟩ := h.refers _ hp
      exact hm m' hm' ha
    · exact ⟨m, List.mem_append_right _ (List.mem_singleton_self m), rfl⟩
    · rintro (a | a) hq
      · obtain ⟨m', hm', ha⟩ := hq
        exact ⟨m', List.mem_append_left _ hm', ha⟩
      · exact hq
  | knownMaster => exact h
  | removeMaster m ms ps hms hp =>
    refine h.remove (p := .master m.addr) hp (hremoved _ rfl) ?_
    rintro (a | a) hne hq
    · obtain ⟨m', hm', ha⟩ := hq
      refine ⟨m', (List.mem_cons.1 (hms.mem_iff.1 hm')).resolve_left ?_, ha⟩
      rintro rfl
      exact hne (congrArg Pending.master ha.symm)
    · exact hq
  | unknownMaster a ps _ hp => exact h.remove (p := .master a) hp (hremoved _ rfl) fun q _ hq => hq
  | insertServer server hc =>
    refine h.insert (p := .server server.addr) (fun hp => ?_) rfl ?_ ?_
    · obtain ⟨c, hc'⟩ := h.refers _ hp
      rw [hc] at hc'
      cases hc'
    · exact ⟨_, Function.update_self ..⟩
    · rintro (a | a) hq
      · exact hq
      · obtain ⟨c, hc'⟩ := hq
        by_cases ha : a = server.addr
        · subst ha
          exact ⟨_, Function.update_self ..⟩
        · exact ⟨c, (Function.update_of_ne ha _ _).trans hc'⟩
  | knownServer => exact h
  | removeServer a ps hp =>
    refine h.remove (p := .server a) hp (hremoved _ rfl) ?_
    rintro (b | b) hne hq
    · exact hq
    · obtain ⟨c, hc⟩ := hq
      have hb : b ≠ a := fun hb => hne (congrArg Pending.server hb)
      exact ⟨c, (Function.update_of_ne hb _ _).trans hc⟩

theorem Tidy.call {sys : System} {c : Call} {w w' : World Observer} (h : Tidy (core w))
    (hrun : c.run sys w = .ok () w') : Tidy (core w') :=
  h.called (called_of_run hrun) fun _ hc => call_removed hrun hc h.nodup

/-! ## Turns -/

/-- A turn of the loop of a wait for an event starts, with a deadline. -/
inductive AtTurn (sys : System) (turns : ℕ) (w : World Observer) :
    Option ℕ → World Observer → Prop
  | noTimeout (h : w.state.delayedEvents = []) : AtTurn sys turns w none w
  | timeout (t : ℕ) (h : w.state.delayedEvents = []) :
    AtTurn sys turns w (some (sys.clock w.trace.length + t))
      { w with trace := w.trace ++ [.now] }
  | next {deadline : Option ℕ} {w₁ w₂ : World Observer} (h : AtTurn sys turns w deadline w₁)
    (hturn : waitTurn sys deadline turns w₁ = .ok none w₂) : AtTurn sys turns w deadline w₂

section Turns

variable {sys : System} {turns : ℕ} {deadline : Option ℕ} {w w₁ w₂ : World Observer}

/-- The first turn finds the observer as it was, and the others find nothing pending. -/
theorem AtTurn.reached (h : AtTurn sys turns w deadline w₁) :
    Reached sys (core w) w₁ ∧ w₁.state.delayedEvents = [] ∧
      (w₁.state.pending = [] ∨ w₁.state = w.state) := by
  induction h with
  | noTimeout h => exact ⟨Relation.ReflTransGen.refl, h, Or.inr rfl⟩
  | timeout t h =>
    have hstart : Reached sys (core w) w := Relation.ReflTransGen.refl
    exact ⟨hstart.plain rfl, h, Or.inr rfl⟩
  | next _ hturn ih =>
    obtain ⟨hmoves, hidle⟩ := (triple_waitTurn ih.1 ih.2.1 _ turns).ok rfl hturn
    exact ⟨hmoves, hidle.events, Or.inl hidle.pending⟩

theorem Tidy.of_state {w w' : World Observer} (h : Tidy (core w))
    (h' : w'.state.pending = [] ∨ w'.state = w.state) : Tidy (core w') := by
  rcases h' with hnil | heq
  · exact Tidy.of_nil hnil
  · exact h.congr (congrArg Observer.pending heq) (congrArg Observer.masters heq)
      (congrArg (fun o => o.connections.lookup) heq)

theorem AtTurn.tidy (h : AtTurn sys turns w deadline w₁) (hw : Tidy (core w)) :
    Tidy (core w₁) := hw.of_state h.reached.2.2

/-- What a wait returns, a turn of its loop returns, unless it was queued before. -/
theorem triple_turns (n : ℕ) : Triple (AtTurn sys turns w deadline)
    (waitLoop sys deadline turns n) (fun e w' => ∃ w₁, AtTurn sys turns w deadline w₁ ∧
      waitTurn sys deadline turns w₁ = .ok (some e) w') fun _ _ => True := by
  induction n with
  | zero => exact Triple.throw fun _ _ => trivial
  | succ n ih =>
    rw [waitLoop_succ]
    refine Triple.of_state fun w₁ hw₁ => ?_
    refine Triple.bind (Q := fun out w' => waitTurn sys deadline turns w₁ = .ok out w') ?_
      fun out => ?_
    · exact (Triple.self w₁).conseq (fun _ h => h) (fun _ _ h => h) fun _ _ _ => trivial
    · cases out with
      | some e => exact Triple.pure fun w' hw' => ⟨w₁, hw₁, hw'⟩
      | none => exact ih.pre fun w' hw' => hw₁.next hw'

/-- A wait that returns an event leaves nothing pending, or what was. -/
theorem triple_tidy (timeout : Option ℕ) : Triple (fun w => Tidy (core w))
    (waitEvent sys turns timeout) (fun _ w => Tidy (core w)) fun _ _ => True := by
  refine Triple.of_state fun w hw => ?_
  have hloop (deadline : Option ℕ) (n : ℕ) : Triple (AtTurn sys turns w deadline)
      (waitLoop sys deadline turns n) (fun _ w' => Tidy (core w')) fun _ _ => True := by
    refine (triple_turns n).post ?_
    rintro e w' ⟨w₁, hw₁, hturn⟩
    obtain ⟨hreached, hevents, -⟩ := hw₁.reached
    obtain ⟨-, hstate⟩ := (triple_waitTurn hreached hevents deadline turns).ok rfl hturn
    exact (hw₁.tidy hw).of_state hstate
  unfold waitEvent
  refine Triple.bind (Q := fun r w' => r.elim (w' = w ∧ w'.state.delayedEvents = [])
    fun _ => Tidy (core w')) ?_ fun r => ?_
  · intro w' hw'
    rw [hw', popDelayed]
    cases hp : popLast w.state.delayedEvents with
    | none => exact ⟨rfl, popLast_eq_none hp⟩
    | some r => exact hw.congr rfl rfl rfl
  cases r with
  | some e => exact Triple.pure fun w' hw' => hw'
  | none =>
    cases timeout with
    | none =>
      refine (hloop none turns).pre ?_
      rintro _ ⟨rfl, hevents⟩
      exact AtTurn.noTimeout hevents
    | some t =>
      refine Triple.bind (Q := fun deadline w' => AtTurn sys turns w (some deadline) w')
        (Prog.triple_after ?_ fun _ _ _ => trivial) fun deadline => hloop _ turns
      rintro _ ⟨rfl, hevents⟩ -
      exact AtTurn.timeout t hevents

end Turns

/-- As long as no socket fails, the pending entries of an observer are tidy. -/
theorem tidy_run {sys : System} {rs : List Record} {w : World Observer} (hrun : Run sys rs w)
    (hok : .failed ∉ rs) : Tidy (core w) := by
  induction hrun with
  | bind => exact Tidy.of_nil rfl
  | call c _ hcall ih => exact (ih fun hmem => hok (List.mem_append_left _ hmem)).call hcall
  | event turns timeout e _ hwait ih =>
    exact (triple_tidy timeout).ok (ih fun hmem => hok (List.mem_append_left _ hmem)) hwait
  | failed => exact absurd (List.mem_append_right _ (List.mem_singleton_self _)) hok

end Observer

end Xash3d
