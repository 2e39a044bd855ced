import Xash3d.Observer.Moves

/-!
# A property of all connections

A property that the programs of a connection keep (`Guarded`) is kept by `waitEvent` for all
connections. `triple_waitEvent_watched` also says where the returned event comes from: the
property holds of the connection that gave it.
-/

namespace Xash3d

open Lib

namespace Observer

/-- The programs of a connection keep a property, and give certain events only. -/
structure Guarded (sys : System) (I : SocketAddr → Connection → Prop)
    (T : SocketAddr → Event → Prop) : Prop where
  query : ∀ a cap, Triple (fun v => I a v.state) (Connection.query sys cap)
    (fun _ v => I a v.state) (fun _ v => I a v.state)
  handlePacket : ∀ a data, Triple (fun v => I a v.state) (Connection.handlePacket sys data)
    (fun out v => I a v.state ∧ ∀ e, out = some e → T a e) (fun _ v => I a v.state)

/-- Every connection has a property, and there may be masters. -/
structure Watched (I : SocketAddr → Connection → Prop) (withMasters : Bool)
    (w : World Observer) : Prop where
  connections : ∀ a c, w.state.connections.lookup a = some c → I a c
  masters : withMasters = false → w.state.masters = []

/-- Where an event comes from. -/
inductive Source (I : SocketAddr → Connection → Prop) (T : SocketAddr → Event → Prop)
    (withMasters : Bool) (w : World Observer) : Event → Prop
  | timeout : Source I T withMasters w .timeout
  | delayed (d : DelayedEvent) : Source I T withMasters w d.toEvent
  | master (a : SocketAddr) (data : Bytes) (key : UInt32) (e : Event)
      (h : handleMasterPacket a data key = some e) (hm : withMasters = true) :
    Source I T withMasters w e
  /-- A connection with another protocol is removed. -/
  | connection (a : SocketAddr) (c : Connection) (e : Event) (hc : I a c) (he : T a e)
      (hgone : ∀ b, e = .serverInvalidProtocol b → w.state.connections.lookup a = none) :
    Source I T withMasters w e

section Watched

variable {sys : System} {I : SocketAddr → Connection → Prop} {T : SocketAddr → Event → Prop}
  {b : Bool} {w : World Observer}

/-- A connection with the property may be put in the place of another. -/
theorem Watched.insert (h : Watched I b w) {a : SocketAddr} {c : Connection} (hc : I a c)
    (tr : List Action) :
    Watched I b ⟨{ w.state with connections := w.state.connections.insert a c }, tr⟩ := by
  refine ⟨fun a' c' ha' => ?_, h.masters⟩
  by_cases heq : a' = a
  · subst heq
    cases (AList.lookup_insert _).symm.trans ha'
    exact hc
  · exact h.connections a' c' ((AList.lookup_insert_ne heq).symm.trans ha')

/-- Nothing is lost with a connection that goes. -/
theorem Watched.erase (h : Watched I b w) (a : SocketAddr) (tr : List Action) :
    Watched I b ⟨{ w.state with connections := w.state.connections.erase a }, tr⟩ := by
  refine ⟨fun a' c' ha' => ?_, h.masters⟩
  by_cases heq : a' = a
  · subst heq
    cases (AList.lookup_erase _ _).symm.trans ha'
  · exact h.connections a' c' ((AList.lookup_erase_ne heq).symm.trans ha')

theorem Watched.setMaster (h : Watched I b w) (i : ℕ) (m : Master) (tr : List Action) :
    Watched I b ⟨{ w.state with masters := w.state.masters.set i m }, tr⟩ := by
  refine ⟨h.connections, fun hb => ?_⟩
  show w.state.masters.set i m = []
  rw [h.masters hb, List.set_nil]

theorem Watched.mono (h : Watched I b w) {J : SocketAddr → Connection → Prop}
    (hJ : ∀ a c, I a c → J a c) : Watched J b w :=
  ⟨fun a c ha => hJ a c (h.connections a c ha), h.masters⟩

/-! ## Servers -/

open Prog

theorem watched_insertServer {a : SocketAddr} {players : Bool}
    (hnew : ∀ now, I a (.new a players now)) : Triple (Watched I b)
      (insertServer sys ⟨a, players⟩) (fun _ => Watched I b) fun _ _ => False := by
  unfold insertServer
  refine Triple.bind (Q := fun _ => Watched I b) (triple_getState fun w hw => hw) fun o => ?_
  refine triple_when (fun _ => ?_) fun _ _ hw => hw
  refine Triple.bind (Q := fun _ => Watched I b) (triple_modifyState ?_) fun _ => ?_
  · exact fun w hw => ⟨hw.connections, hw.masters⟩
  refine Triple.bind (Q := fun _ => Watched I b) (triple_now ?_) fun now => ?_
  · exact fun w hw => ⟨hw.connections, hw.masters⟩
  refine Triple.bind (Q := fun _ => Watched I b) (triple_modifyState ?_) fun _ => triple_note ?_
  · exact fun w hw => hw.insert (hnew now) w.trace
  · exact fun w hw => ⟨hw.connections, hw.masters⟩

/-! ## Queries -/

theorem watched_getState :
    Triple (Watched I b) getState (fun o w => Watched I b w ∧ o = w.state) fun _ => Watched I b :=
  triple_getState fun _ h => ⟨h, rfl⟩

theorem watched_sendTo {packet : Bytes} {dest : SocketAddr} :
    Triple (Watched I b) (Prog.sendTo sys packet dest) (fun _ => Watched I b) fun _ => Watched I b :=
  triple_sendTo (fun _ h => ⟨h.connections, h.masters⟩) fun _ h => ⟨h.connections, h.masters⟩

theorem watched_now : Triple (Watched I b) (now sys) (fun _ => Watched I b) fun _ => Watched I b :=
  triple_now fun _ h => ⟨h.connections, h.masters⟩

/-- A query of a master is no matter of the connections. -/
theorem watched_onMaster {α : Type} {i : ℕ} {m : Master} {p : Prog Master α} {o : Observer}
    (hm : o.masters[i]? = some m) :
    Triple (fun w => Watched I b w ∧ o = w.state) (onMaster i m p) (fun _ => Watched I b)
      fun _ => Watched I b := by
  refine triple_onMaster ?_ ?_
  · rintro w ⟨-, rfl⟩
    exact hm
  · rintro w ⟨h, -⟩
    exact Triple.of_forall (fun _ v => h.setMaster i v.state v.trace)
      fun _ v => h.setMaster i v.state v.trace

/-- A query of a server is made by the program of its connection. -/
theorem watched_queryServersFromMaster (i : ℕ) : Triple (Watched I b)
    (queryServersFromMaster sys i) (fun _ => Watched I b) fun _ => Watched I b := by
  unfold queryServersFromMaster
  refine Triple.bind watched_getState fun o => ?_
  cases hm : o.masters[i]? with
  | none => exact Triple.pure fun w hw => hw.1
  | some m =>
    refine Triple.bind (watched_onMaster hm) fun packet => ?_
    exact triple_when (fun _ => watched_sendTo) fun _ _ hw => hw

theorem watched_queryServersFromMasters : Triple (Watched I b) (queryServersFromMasters sys)
    (fun _ => Watched I b) fun _ => Watched I b := by
  unfold queryServersFromMasters
  refine Triple.bind (Q := fun _ => Watched I b) (triple_getState fun w hw => hw) fun o => ?_
  exact Triple.forM (I := fun _ => Watched I b) (fun i _ => watched_queryServersFromMaster i) _

theorem watched_query (hg : Guarded sys I T) {a : SocketAddr} {c : Connection} {o : Observer}
    (hc : o.connections.lookup a = some c) :
    Triple (fun w => Watched I b w ∧ o = w.state) (onConnection a c (Connection.query sys bufferLen))
      (fun _ => Watched I b) fun _ => Watched I b := by
  refine triple_onConnection ?_ ?_
  · rintro w ⟨-, rfl⟩
    exact hc
  · rintro w ⟨h, rfl⟩
    refine (hg.query a bufferLen).conseq ?_ ?_ ?_
    · rintro _ rfl
      exact h.connections a c hc
    · exact fun _ v hv => h.insert hv v.trace
    · exact fun _ v hv => h.insert hv v.trace

/-- Asking one server: nothing happens to the connections but the query, if it is made. -/
theorem watched_queryInfoFromServer (hg : Guarded sys I T) (t : ℕ) (a : SocketAddr) :
    Triple (Watched I b) (queryInfoFromServer sys t a) (fun _ => Watched I b)
      fun _ => Watched I b := by
  unfold queryInfoFromServer
  refine Triple.bind watched_getState fun o => ?_
  cases hc : o.connections.lookup a with
  | none => exact Triple.pure fun w hw => hw.1
  | some c =>
    dsimp only
    split_ifs with hvalid hp
    · exact Triple.pure fun w hw => hw.1
    · exact Triple.pure fun w hw => hw.1
    -- a report changes no connection
    refine Triple.of_state ?_
    rintro w ⟨hw, rfl⟩
    refine Triple.bind (Q := fun _ w' => Watched I b w' ∧
      w'.state.connections = w.state.connections) (triple_when (fun _ => ?_) ?_) fun _ => ?_
    · refine triple_modifyState ?_
      rintro _ rfl
      exact ⟨⟨hw.connections, hw.masters⟩, rfl⟩
    · rintro - _ rfl
      exact ⟨hw, rfl⟩
    · refine Triple.of_state ?_
      rintro w' ⟨hw', hcon⟩
      refine (watched_query (o := w'.state) hg ?_).pre ?_
      · rw [hcon]
        exact hc
      · rintro _ rfl
        exact ⟨hw', rfl⟩

theorem watched_addresses : Triple (Watched I b) (addresses sys) (fun _ => Watched I b)
    fun _ => Watched I b :=
  triple_addresses fun _ _ h _ => h

theorem watched_note {x : Action} : Triple (Watched I b) (note x) (fun _ => Watched I b)
    fun _ => Watched I b :=
  triple_note fun _ h => ⟨h.connections, h.masters⟩

theorem watched_queryInfoFromServers (hg : Guarded sys I T) : Triple (Watched I b)
    (queryInfoFromServers sys) (fun _ => Watched I b) fun _ => Watched I b := by
  unfold queryInfoFromServers
  refine Triple.bind watched_now fun t => ?_
  refine Triple.bind (Q := fun _ => Watched I b) (triple_getState fun w hw => hw) fun o => ?_
  refine Triple.bind watched_note fun _ => ?_
  refine Triple.bind watched_addresses fun l => ?_
  exact Triple.forM (I := fun _ => Watched I b) (fun a _ => watched_queryInfoFromServer hg t a) l

/-! ## Pending queries -/

/-- A query that was put off is one of a master or one of a server. -/
theorem watched_queryPending (hg : Guarded sys I T) (p : Pending) : Triple (Watched I b)
    (queryPending sys p) (fun _ => Watched I b) fun _ => Watched I b := by
  cases p with
  | master a =>
    unfold queryPending
    refine Triple.bind watched_getState fun o => ?_
    cases hi : (o.masters.findIdx? (·.addr == a)).bind fun i => o.masters[i]?.map (i, ·) with
    | none => exact Triple.pure fun w hw => hw.1
    | some r =>
      obtain ⟨i, -, hr⟩ := Option.bind_eq_some_iff.1 hi
      obtain ⟨m, hm, rfl⟩ := Option.map_eq_some_iff.1 hr
      exact Triple.bind (watched_onMaster hm) fun packet => watched_sendTo
  | server a =>
    unfold queryPending
    refine Triple.bind watched_getState fun o => ?_
    cases hc : o.connections.lookup a with
    | none => exact Triple.pure fun w hw => hw.1
    | some c => exact watched_query hg hc

theorem watched_popPending : Triple (Watched I b) popPending (fun _ => Watched I b)
    fun _ => Watched I b := by
  intro w hw
  unfold popPending
  cases popLast w.state.pending with
  | none => exact hw
  | some r => exact ⟨hw.connections, hw.masters⟩

theorem watched_processPendingLoop (hg : Guarded sys I T) (n : ℕ) : Triple (Watched I b)
    (processPendingLoop sys n) (fun _ => Watched I b) fun _ => Watched I b := by
  induction n with
  | zero => exact Triple.pure fun w hw => hw
  | succ n ih =>
    rw [processPendingLoop]
    refine Triple.bind watched_popPending fun r => ?_
    cases r with
    | none => exact Triple.pure fun w hw => hw
    | some p => exact Triple.bind (watched_queryPending hg p) fun _ => ih

theorem watched_processPending (hg : Guarded sys I T) : Triple (Watched I b)
    (processPending sys) (fun _ => Watched I b) fun _ => Watched I b := by
  unfold processPending
  refine Triple.bind (Q := fun _ => Watched I b) (triple_getState fun w hw => hw) fun o => ?_
  exact watched_processPendingLoop hg _

/-! ## Tasks -/

/-- A server that is given up goes with its connection. -/
theorem watched_cleanupServer (t : ℕ) (a : SocketAddr) : Triple (Watched I b)
    (cleanupServer t a) (fun _ => Watched I b) fun _ => Watched I b := by
  unfold cleanupServer
  refine Triple.bind (Q := fun _ => Watched I b) (triple_getState fun w hw => hw) fun o => ?_
  cases o.connections.lookup a with
  | none => exact Triple.pure fun w hw => hw
  | some c =>
    refine triple_when (fun _ => ?_) fun _ _ hw => hw
    refine Triple.bind (Q := fun _ => Watched I b) (triple_modifyState ?_) fun _ => ?_
    · exact fun w hw => ⟨hw.connections, hw.masters⟩
    · exact Triple.bind (triple_modifyState fun w hw => hw.erase a w.trace) fun _ => watched_note

theorem watched_cleanupServers (t : ℕ) : Triple (Watched I b)
    (cleanupServers sys t) (fun _ => Watched I b) fun _ => Watched I b := by
  unfold cleanupServers
  refine Triple.bind watched_addresses fun l => ?_
  exact Triple.forM (I := fun _ => Watched I b) (fun a _ => watched_cleanupServer t a) l

/-- The tasks that are due keep the property of all connections. -/
theorem watched_processTasks (hg : Guarded sys I T) (t : ℕ) : Triple (Watched I b)
    (processTasks sys t) (fun _ => Watched I b) fun _ => Watched I b := by
  unfold processTasks
  refine Triple.bind (Q := fun _ => Watched I b) (fun w hw => ⟨hw.connections, hw.masters⟩)
    fun _ => ?_
  refine Triple.bind (triple_when (fun _ => watched_queryServersFromMasters) fun _ _ hw => hw)
    fun _ => ?_
  refine Triple.bind (Q := fun _ => Watched I b) (fun w hw => ⟨hw.connections, hw.masters⟩)
    fun _ => ?_
  refine Triple.bind (triple_when (fun _ => watched_queryInfoFromServers hg) fun _ _ hw => hw)
    fun _ => ?_
  refine Triple.bind (Q := fun _ => Watched I b) (fun w hw => ⟨hw.connections, hw.masters⟩)
    fun _ => ?_
  exact triple_when (fun _ => watched_cleanupServers t) fun _ _ hw => hw

/-! ## Datagrams -/

/-- What is known after a datagram. -/
def Reports (I : SocketAddr → Connection → Prop) (T : SocketAddr → Event → Prop) (b : Bool)
    (out : Option Event) (w : World Observer) : Prop :=
  Watched I b w ∧ ∀ e, out = some e → Source I T b w e

theorem reports_none (h : Watched I b w) : Reports I T b none w := ⟨h, nofun⟩

/-- An event of a server is one that the program of its connection gives. With an invalid protocol
the connection is gone. -/
theorem watched_handleServerPacket (hg : Guarded sys I T) (a : SocketAddr) (data : Bytes) :
    Triple (Watched I b) (handleServerPacket sys a data) (Reports I T b) fun _ => Watched I b := by
  unfold handleServerPacket
  refine Triple.bind watched_getState fun o => ?_
  cases hc : o.connections.lookup a with
  | none => exact Triple.pure fun w hw => reports_none hw.1
  | some c =>
    dsimp only
    refine Triple.of_state ?_
    rintro w ⟨hw, rfl⟩
    have hI : I a c := hw.connections a c hc
    refine Triple.bind (Q := fun _ w' => Watched I b w' ∧ w.state = w'.state)
      (triple_note ?_) fun _ => ?_
    · rintro _ rfl
      exact ⟨⟨hw.connections, hw.masters⟩, rfl⟩
    refine Triple.bind (Q := fun out w' => Watched I b w' ∧ ∀ e, out = some e → T a e)
      (triple_onConnection ?_ ?_) fun out => ?_
    · rintro w' ⟨-, heq⟩
      rw [← heq]
      exact hc
    · rintro w' ⟨hw', -⟩
      refine (hg.handlePacket a data).conseq ?_ ?_ ?_
      · rintro _ rfl
        exact hI
      · exact fun _ v hv => ⟨hw'.insert hv.1 v.trace, hv.2⟩
      · exact fun _ v hv => hw'.insert hv v.trace
    · have hother : ∀ e, (∀ b', e ≠ .serverInvalidProtocol b') →
          ∀ w', (Watched I b w' ∧ ∀ e', some e = some e' → T a e') → Reports I T b (some e) w' := by
        rintro e hne w' ⟨hw', hT⟩
        refine ⟨hw', ?_⟩
        rintro _ ⟨⟩
        exact .connection a c e hI (hT e rfl) fun b' h => absurd h (hne b')
      cases out with
      | none => exact Triple.pure fun w' hw' => reports_none hw'.1
      | some e =>
        cases e with
        | serverInvalidProtocol b' =>
          refine Triple.bind (Q := fun _ => Reports I T b (some (.serverInvalidProtocol b')))
            (triple_modifyState ?_) fun _ => Triple.pure fun w' hw' => hw'
          rintro w' ⟨hw', hT⟩
          refine ⟨hw'.erase a w'.trace, ?_⟩
          rintro _ ⟨⟩
          exact .connection a c _ hI (hT _ rfl) fun _ _ => AList.lookup_erase _ _
        | _ => exact Triple.pure (hother _ nofun)

/-- A datagram is one of a master or one of a server. -/
theorem watched_handlePacket (hg : Guarded sys I T) (a : SocketAddr) (data : Bytes) :
    Triple (Watched I b) (handlePacket sys a data) (Reports I T b) fun _ => Watched I b := by
  unfold handlePacket
  refine Triple.bind watched_getState fun o => ?_
  cases hm : o.getMaster a with
  | none => exact (watched_handleServerPacket hg a data).pre fun w hw => hw.1
  | some m =>
    refine Triple.pure ?_
    rintro w ⟨hw, rfl⟩
    refine ⟨hw, fun e he => ?_⟩
    cases hb : b with
    | true => exact .master a data m.key e he rfl
    | false =>
      have hnil := hw.masters hb
      unfold getMaster at hm
      rw [hnil] at hm
      cases hm

/-- Reading on keeps the property until a datagram gives an event, and the event has a source. -/
theorem watched_receiveLoop (hg : Guarded sys I T) (deadline n : ℕ) : ∀ t : ℕ,
    Triple (Watched I b) (receiveLoop sys deadline n t) (Reports I T b) fun _ => Watched I b := by
  induction n with
  | zero => exact fun t => Triple.throw fun w hw => hw
  | succ n ih =>
    intro t
    rw [receiveLoop]
    split_ifs with hlt
    swap
    · exact Triple.pure fun w hw => reports_none hw
    refine Triple.bind (Q := fun _ => Watched I b) (triple_setReadTimeout ?_ ?_) fun _ => ?_
    · exact fun w hw => ⟨hw.connections, hw.masters⟩
    · exact fun w hw => ⟨hw.connections, hw.masters⟩
    refine Triple.bind (Q := fun _ => Watched I b) (triple_recvFrom ?_ ?_) fun r => ?_
    · exact fun w _ _ hw => ⟨hw.connections, hw.masters⟩
    · exact fun w _ hw => ⟨hw.connections, hw.masters⟩
    cases r with
    | ok r =>
      refine Triple.bind (watched_handlePacket hg r.1 r.2) fun out => ?_
      cases out with
      | some e => exact Triple.pure fun w hw => hw
      | none => exact Triple.bind (watched_now.pre fun w hw => hw.1) ih
    | error kind =>
      cases kind with
      | addrInUse => exact Triple.pure fun w hw => reports_none hw
      | wouldBlock => exact Triple.pure fun w hw => reports_none hw
      | other => exact Triple.throw fun w hw => hw

theorem watched_receive (hg : Guarded sys I T) (turns : ℕ) (deadline : Option ℕ) :
    Triple (Watched I b) (receive sys turns deadline) (Reports I T b) fun _ => Watched I b := by
  unfold receive
  refine Triple.bind (Q := fun _ => Watched I b) (triple_getState fun w hw => hw) fun o => ?_
  exact Triple.bind watched_now fun t => watched_receiveLoop hg _ turns t

/-! ## Waiting -/

theorem watched_popDelayed : Triple (Watched I b) popDelayed (fun _ => Watched I b)
    fun _ => Watched I b := by
  intro w hw
  unfold popDelayed
  cases popLast w.state.delayedEvents with
  | none => exact hw
  | some r => exact ⟨hw.connections, hw.masters⟩

/-- The loop of a wait, by induction on the turns it may take. -/
theorem watched_waitLoop (hg : Guarded sys I T) (deadline : Option ℕ) (turns n : ℕ) :
    Triple (Watched I b) (waitLoop sys deadline turns n)
      (fun e w => Watched I b w ∧ Source I T b w e) fun _ => Watched I b := by
  induction n with
  | zero => exact Triple.throw fun w hw => hw
  | succ n ih =>
    rw [waitLoop]
    refine Triple.bind watched_now fun t => ?_
    split_ifs with hover
    · exact Triple.pure fun w hw => ⟨hw, .timeout⟩
    refine Triple.bind (watched_processTasks hg t) fun _ => ?_
    refine Triple.bind (watched_processPending hg) fun _ => ?_
    refine Triple.bind watched_popDelayed fun r => ?_
    cases r with
    | some d => exact Triple.pure fun w hw => ⟨hw, .delayed d⟩
    | none =>
      refine Triple.bind (watched_receive hg turns deadline) fun out => ?_
      cases out with
      | some e => exact Triple.pure fun w hw => ⟨hw.1, hw.2 e rfl⟩
      | none => exact ih.pre fun w hw => hw.1

/-- A wait keeps the property of all connections, and the event that it returns has a source. -/
theorem triple_waitEvent_watched (hg : Guarded sys I T) (turns : ℕ) (timeout : Option ℕ) :
    Triple (Watched I b) (waitEvent sys turns timeout)
      (fun e w => Watched I b w ∧ Source I T b w e) fun _ => Watched I b := by
  unfold waitEvent
  refine Triple.bind watched_popDelayed fun r => ?_
  cases r with
  | some d => exact Triple.pure fun w hw => ⟨hw, .delayed d⟩
  | none =>
    cases timeout with
    | none => exact watched_waitLoop hg none turns turns
    | some t =>
      refine Triple.bind (Q := fun _ => Watched I b) (triple_after ?_ ?_)
        fun deadline => watched_waitLoop hg _ turns turns
      · exact fun w hw _ => ⟨hw.connections, hw.masters⟩
      · exact fun w hw _ => ⟨hw.connections, hw.masters⟩

end Watched

end Observer

end Xash3d
