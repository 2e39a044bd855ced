import Xash3d.Observer.Run
import Xash3d.Observer.Watched
import Xash3d.Query.QueryServersInfo

/-!
# The early exit of a query

A query for the servers of the command line stops early when its set of servers without an answer
is empty. `run_early_exit` says that every requested server then has an answer, and that a query
never misses the server that an answer with players belongs to.

`Inv` links the set, the results with their slots, and the connections of the observer.
-/

namespace Xash3d.Query

open Lib Observer

/-! ## Connections of a query -/

/-- A connection of a query, which expects players only if the query asked for them. -/
structure Asked (p : Bool) (K : SocketAddr → Prop) (a : SocketAddr) (c : Connection) : Prop where
  known : K a
  address : c.address = a
  players : c.players = p
  wait : c.waitPlayers = true → p = true

/-- The events of a connection of a query. -/
inductive Tells (p : Bool) (a : SocketAddr) : Event → Prop
  | serverInfo (i : Event.ServerInfo) (h : i.server = a) : Tells p a (.serverInfo i)
  | serverPlayers (r : GetPlayersResponse) (h : p = true) : Tells p a (.serverPlayers a r)
  | serverInvalidProtocol : Tells p a (.serverInvalidProtocol a)
  | serverInvalidPacket (data : Bytes) : Tells p a (.serverInvalidPacket a data)

section Asked

variable {sys : System} {p : Bool} {K : SocketAddr → Prop} {a : SocketAddr}

/-- What else a connection has does not matter. -/
theorem Asked.same {c c' : Connection} (h : Asked p K a c) (haddr : c'.address = c.address)
    (hplayers : c'.players = c.players) (hwait : c'.waitPlayers = true → c.waitPlayers = true) :
    Asked p K a c' :=
  ⟨h.known, haddr.trans h.address, hplayers.trans h.players, fun hw => h.wait (hwait hw)⟩

/-- A program of a connection of a query keeps it one. -/
abbrev Keeps {α : Type} (p : Bool) (K : SocketAddr → Prop) (a : SocketAddr)
    (m : Prog Connection α) (Q : α → World Connection → Prop) : Prop :=
  Triple (fun v => Asked p K a v.state) m Q fun _ v => Asked p K a v.state

open Prog

theorem asked_getState :
    Keeps p K a getState fun c v => Asked p K a v.state ∧ c = v.state :=
  triple_getState fun _ h => ⟨h, rfl⟩

theorem asked_sendTo {packet : Bytes} {dest : SocketAddr} :
    Keeps p K a (Prog.sendTo sys packet dest) fun _ v => Asked p K a v.state :=
  triple_sendTo (fun _ h => h) fun _ h => h

theorem asked_unwrap {r : Except ProtocolError Bytes} :
    Triple (fun v : World Connection => Asked p K a v.state) (unwrap r)
      (fun _ v => Asked p K a v.state) fun _ v => Asked p K a v.state := by
  intro v hv
  cases r with
  | ok data => exact hv
  | error e => exact hv

theorem asked_queryInfo (cap : ℕ) :
    Keeps p K a (Connection.queryInfo sys cap) fun _ v => Asked p K a v.state := by
  unfold Connection.queryInfo
  refine Triple.bind (Q := fun _ v => Asked p K a v.state) (triple_now fun _ h => h) fun t => ?_
  refine Triple.bind (Q := fun _ v => Asked p K a v.state) (triple_modifyState ?_) fun _ => ?_
  · exact fun v hv => hv.same rfl rfl id
  refine Triple.bind (Q := fun _ v => Asked p K a v.state) (triple_getState fun _ h => h)
    fun c => ?_
  refine Triple.bind asked_unwrap fun data => Triple.bind asked_sendTo fun _ => ?_
  refine Triple.bind (Q := fun _ v => Asked p K a v.state) (triple_traceEnabled fun _ _ h => h)
    fun _ => triple_when (fun _ => ?_) fun _ _ h => h
  exact Triple.bind asked_unwrap fun data => asked_sendTo

/-- Players are expected from now on. -/
theorem asked_queryPlayers (cap : ℕ) (hp : p = true) :
    Keeps p K a (Connection.queryPlayers sys cap) fun _ v => Asked p K a v.state := by
  unfold Connection.queryPlayers
  refine Triple.bind (Q := fun _ v => Asked p K a v.state) (triple_modifyState ?_) fun _ => ?_
  · exact fun v hv => ⟨hv.known, hv.address, hv.players, fun _ => hp⟩
  refine Triple.bind (Q := fun _ v => Asked p K a v.state) (triple_getState fun _ h => h)
    fun c => ?_
  exact Triple.bind asked_unwrap fun data => asked_sendTo

theorem asked_query (cap : ℕ) :
    Keeps p K a (Connection.query sys cap) fun _ v => Asked p K a v.state := by
  unfold Connection.query
  refine Triple.bind (asked_queryInfo cap) fun _ => ?_
  refine Triple.bind asked_getState fun c => Triple.of_state ?_
  rintro v ⟨hv, rfl⟩
  refine triple_when (fun hplayers => ?_) ?_
  · refine (asked_queryPlayers cap (hv.players.symm.trans hplayers)).pre ?_
    rintro _ rfl
    exact hv
  · rintro - _ rfl
    exact hv

theorem asked_handleInfo (data : Bytes) : Keeps p K a (Connection.handleInfo sys data)
    fun out v => Asked p K a v.state ∧ ∀ e, out = some e → Tells p a e := by
  unfold Connection.handleInfo
  cases GetServerInfoResponse.decode data with
  | ok response =>
    refine Triple.bind (Q := fun _ v => Asked p K a v.state) (triple_now fun _ h => h) fun t => ?_
    refine Triple.bind (Q := fun _ v => Asked p K a v.state) (triple_modifyState ?_) fun _ => ?_
    · exact fun v hv => hv.same rfl rfl id
    refine Triple.bind asked_getState fun c => ?_
    have hraw : (c.updateRawInfo data).2.address = c.address ∧
        (c.updateRawInfo data).2.players = c.players ∧
        (c.updateRawInfo data).2.waitPlayers = c.waitPlayers := by
      unfold Connection.updateRawInfo
      split_ifs <;> exact ⟨rfl, rfl, rfl⟩
    refine Triple.bind (Q := fun _ v => Asked p K a v.state ∧ c.address = a)
      (triple_modifyState ?_) fun _ => Triple.pure ?_
    · rintro v ⟨hv, rfl⟩
      exact ⟨hv.same hraw.1 hraw.2.1 fun hw => hraw.2.2.symm.trans hw, hv.address⟩
    · rintro v ⟨hv, haddr⟩
      refine ⟨hv, ?_⟩
      rintro _ ⟨⟩
      exact .serverInfo _ haddr
  | error err =>
    have hpacket : Keeps p K a (do
        let c ← getState
        return some (.serverInvalidPacket c.address data))
        fun out v => Asked p K a v.state ∧ ∀ e, out = some e → Tells p a e := by
      refine Triple.bind asked_getState fun c => Triple.pure ?_
      rintro v ⟨hv, rfl⟩
      refine ⟨hv, ?_⟩
      rintro _ ⟨⟩
      rw [hv.address]
      exact .serverInvalidPacket data
    cases err with
    | invalidProtocolVersion =>
      refine Triple.bind asked_getState fun c => ?_
      split_ifs with hlegacy
      · refine Triple.bind (Q := fun _ v => Asked p K a v.state) (triple_modifyState ?_)
          fun _ => ?_
        · exact fun v hv => hv.1.same rfl rfl id
        · exact Triple.bind (asked_query 512) fun _ => Triple.pure fun v hv => ⟨hv, nofun⟩
      · refine Triple.pure ?_
        rintro v ⟨hv, rfl⟩
        refine ⟨hv, ?_⟩
        rintro _ ⟨⟩
        rw [hv.address]
        exact .serverInvalidProtocol
    | _ => exact hpacket

theorem asked_handlePacket (data : Bytes) : Keeps p K a (Connection.handlePacket sys data)
    fun out v => Asked p K a v.state ∧ ∀ e, out = some e → Tells p a e := by
  unfold Connection.handlePacket
  cases GetChallengeResponse.decode data with
  | ok response =>
    refine Triple.bind (Q := fun _ v => Asked p K a v.state) (triple_modifyState ?_) fun _ => ?_
    · exact fun v hv => hv.same rfl rfl id
    refine Triple.bind asked_getState fun c => Triple.of_state ?_
    rintro v ⟨hv, rfl⟩
    refine Triple.bind (Q := fun _ v => Asked p K a v.state) (triple_when (fun hw => ?_) ?_)
      fun _ => Triple.pure fun v hv => ⟨hv, nofun⟩
    · refine (asked_queryPlayers 32 (hv.wait hw)).pre ?_
      rintro _ rfl
      exact hv
    · rintro - _ rfl
      exact hv
  | error e =>
    dsimp only
    split_ifs with h2 hold
    · exact Triple.pure fun v hv => ⟨hv, nofun⟩
    · exact Triple.pure fun v hv => ⟨hv, nofun⟩
    cases GetPlayersResponse.decode data with
    | error e => exact asked_handleInfo data
    | ok response =>
      refine Triple.bind asked_getState fun c => ?_
      split_ifs with hw
      · exact Triple.pure fun v hv => ⟨hv.1, nofun⟩
      · refine Triple.bind (Q := fun _ v => Asked p K a v.state ∧ c.address = a ∧ p = true)
          (triple_modifyState ?_) fun _ => Triple.pure ?_
        · rintro v ⟨hv, rfl⟩
          exact ⟨hv.same rfl rfl nofun, hv.address, hv.wait (by simpa using hw)⟩
        · rintro v ⟨hv, haddr, hp⟩
          refine ⟨hv, ?_⟩
          rintro _ ⟨⟩
          rw [haddr]
          exact .serverPlayers response hp

theorem asked_guarded (sys : System) (p : Bool) (K : SocketAddr → Prop) :
    Guarded sys (Asked p K) (Tells p) where
  query _ cap := asked_query cap
  handlePacket _ data := asked_handlePacket data

end Asked

/-! ## Results -/

/-- The answer that was asked for. -/
def Complete (p : Bool) (kind : ServerResultKind) : Prop :=
  if p then ∃ info players, kind = .okWithPlayers info players else ∃ info, kind = .ok info

/-- A server has answered, or its packets were not understood. -/
def Answered (p : Bool) (told : List Event) (a : SocketAddr) (r : ServerResult) : Prop :=
  Complete p r.kind ∨ r.kind = .invalidProtocol ∨ ∃ data, Event.serverInvalidPacket a data ∈ told

/-- What a result is like while the answer is waited for, and when it is not. -/
structure Progress (p : Bool) (told : List Event) (waiting : Prop) (a : SocketAddr)
    (r : ServerResult) : Prop where
  bare : p = false → r.players = none ∧ ∀ info players, r.kind ≠ .okWithPlayers info players
  done : ¬ waiting → r.kind ≠ .timeout ∧ Answered p told a r

section Progress

variable {p : Bool} {told : List Event} {waiting : Prop} {a : SocketAddr} {r : ServerResult}

theorem Progress.mono (h : Progress p told waiting a r) {told' : List Event} (ht : told ⊆ told')
    {waiting' : Prop} (hw : waiting → waiting') : Progress p told' waiting' a r := by
  refine ⟨h.bare, fun hnot => ?_⟩
  obtain ⟨hkind, hanswer⟩ := h.done fun hwait => hnot (hw hwait)
  refine ⟨hkind, ?_⟩
  rcases hanswer with hc | hi | ⟨data, hd⟩
  · exact Or.inl hc
  · exact Or.inr (Or.inl hi)
  · exact Or.inr (Or.inr ⟨data, ht hd⟩)

theorem Progress.new (p : Bool) (told : List Event) (hw : waiting) (a : SocketAddr) :
    Progress p told waiting a (.newTimeout a) :=
  ⟨fun _ => ⟨rfl, nofun⟩, fun h => absurd hw h⟩

/-- Information completes the answer if no players were asked for, or if they are known. -/
theorem Progress.setOk (h : Progress p told waiting a r) (hkind : r.kind ≠ .invalidProtocol)
    (ping : ℕ) (info : ServerInfo) : Progress p told
      (waiting ∧ (!p || r.hasPlayers) = false) a (r.setOk ping info) := by
  by_cases hcomplete : ∃ i k, r.kind = .okWithPlayers i k
  · obtain ⟨i, k, hk⟩ := hcomplete
    have hp : p = true := by
      by_contra hp
      exact (h.bare (Bool.not_eq_true _ ▸ hp)).2 i k hk
    subst hp
    rw [ServerResult.setOk_of_complete hk]
    exact ⟨nofun, fun _ => ⟨nofun, Or.inl ⟨_, _, rfl⟩⟩⟩
  push Not at hcomplete
  cases hslot : r.players with
  | some k =>
    have hp : p = true := by
      by_contra hp
      rw [(h.bare (Bool.not_eq_true _ ▸ hp)).1] at hslot
      cases hslot
    subst hp
    rw [ServerResult.setOk_of_slot hcomplete hslot]
    exact ⟨nofun, fun _ => ⟨nofun, Or.inl ⟨_, _, rfl⟩⟩⟩
  | none =>
    rw [ServerResult.setOk_of_none hcomplete hslot]
    refine ⟨fun _ => ⟨rfl, nofun⟩, fun hnot => ⟨nofun, ?_⟩⟩
    cases p with
    | false => exact Or.inl ⟨info, rfl⟩
    | true =>
      -- players are missing, so the server was not waited for any more
      have hwait : ¬ waiting := by
        intro hw
        refine hnot ⟨hw, ?_⟩
        unfold ServerResult.hasPlayers
        rw [hslot]
        rfl
      rcases (h.done hwait).2 with ⟨i, k, hk⟩ | hk | hpacket
      · exact absurd hk (hcomplete i k)
      · exact absurd hk hkind
      · exact Or.inr (Or.inr hpacket)

/-- Players complete the answer if the information is known. -/
theorem Progress.setPlayers (h : Progress true told waiting a r) (players : Players) :
    Progress true told (waiting ∧ (!true || r.isOk) = false) a (r.setPlayers players) := by
  refine ⟨nofun, fun hnot => ?_⟩
  by_cases hok : ∃ i, r.kind = .ok i
  · obtain ⟨i, hi⟩ := hok
    rw [ServerResult.setPlayers_of_ok hi]
    exact ⟨nofun, Or.inl ⟨_, _, rfl⟩⟩
  push Not at hok
  have hisOk : r.isOk = false := by
    unfold ServerResult.isOk
    cases hk : r.kind with
    | ok i => exact absurd hk (hok i)
    | _ => rfl
  have hwait : ¬ waiting := fun hw => hnot ⟨hw, hisOk⟩
  rw [ServerResult.setPlayers_of_not_ok hok]
  exact h.done hwait

theorem Progress.invalidProtocol (p : Bool) (told : List Event) (waiting : Prop) (a : SocketAddr) :
    Progress p told waiting a (.newInvalidProtocol a) :=
  ⟨fun _ => ⟨rfl, nofun⟩, fun _ => ⟨nofun, Or.inr (Or.inl rfl)⟩⟩

theorem Progress.invalidPacket (p : Bool) (waiting : Prop) {data : Bytes}
    (h : Event.serverInvalidPacket a data ∈ told) :
    Progress p told waiting a (.newInvalidPacket a data) :=
  ⟨fun _ => ⟨rfl, nofun⟩, fun _ => ⟨nofun, Or.inr (Or.inr ⟨data, h⟩)⟩⟩

end Progress

/-! ## The invariant -/

/-- A server has a result; a requested one that failed has no connection any more. -/
def Known (c : Bool) (servers : AList fun _ : SocketAddr => ServerResult) (a : SocketAddr) : Prop :=
  ∃ r, servers.lookup a = some r ∧ (c = true → r.kind ≠ .invalidProtocol)

/-- A query with the requested servers `R` that was told some events. -/
structure Inv (p c : Bool) (R : SocketAddr → Prop) (told : List Event)
    (q : QueryServersInfo) : Prop where
  players : q.players = p
  custom : q.custom = c
  connections : ∀ a con, q.observer.connections.lookup a = some con →
    Asked p (Known c q.servers) a con
  masters : c = true → q.observer.masters = []
  results : c = true → ∀ a r, q.servers.lookup a = some r →
    Progress p told (a ∈ q.serversCustom) a r
  requested : ∀ a, R a → a ∈ q.servers

section Inv

variable {sys : System} {p c : Bool} {R : SocketAddr → Prop} {told : List Event}
  {q : QueryServersInfo} {a : SocketAddr}

theorem Inv.mono (h : Inv p c R told q) {told' : List Event} (ht : told ⊆ told') :
    Inv p c R told' q :=
  { h with results := fun hc a r hr => (h.results hc a r hr).mono ht id }

theorem Inv.watched (h : Inv p c R told q) (tr : List Action) :
    Watched (Asked p (Known c q.servers)) (!c) ⟨q.observer, tr⟩ := by
  refine ⟨h.connections, fun hc => h.masters ?_⟩
  rw [Bool.not_eq_false'] at hc
  exact hc

/-- An observer with such connections can take the place of the observer. -/
theorem Inv.observe (h : Inv p c R told q) {v : World Observer}
    (hv : Watched (Asked p (Known c q.servers)) (!c) v) :
    Inv p c R told { q with observer := v.state } := by
  refine { h with connections := hv.connections, masters := fun hc => hv.masters ?_ }
  rw [hc]
  rfl

/-- The connections belong to servers with a result. -/
theorem Inv.known (h : Inv p c R told q) (ha : a ∈ q.observer.connections) : a ∈ q.servers := by
  obtain ⟨con, hcon⟩ := Option.isSome_iff_exists.1 (AList.lookup_isSome.2 ha)
  obtain ⟨r, hr, -⟩ := (h.connections a con hcon).known
  exact AList.lookup_isSome.1 (hr ▸ rfl)

theorem mem_removeCustom {done : Bool} (hc : q.custom = true) {b : SocketAddr} :
    b ∈ (q.removeCustom a done).serversCustom ↔
      b ∈ q.serversCustom ∧ ¬ (b = a ∧ done = true) := by
  unfold QueryServersInfo.removeCustom
  rw [hc, Bool.true_and]
  cases done with
  | true =>
    rw [if_pos rfl]
    show b ∈ q.serversCustom.erase a ↔ _
    rw [Finset.mem_erase]
    tauto
  | false => simp

theorem removeCustom_eq (q : QueryServersInfo) (a : SocketAddr) (done : Bool) :
    q.removeCustom a done =
      { q with serversCustom := (q.removeCustom a done).serversCustom } := by
  unfold QueryServersInfo.removeCustom
  split_ifs <;> rfl

/-- A new result for a server, which may have answered with it. -/
theorem Inv.put (h : Inv p c R told q) {told' : List Event} (ht : told ⊆ told') {done : Bool}
    {r : ServerResult}
    (hkind : c = true → r.kind = .invalidProtocol → q.observer.connections.lookup a = none)
    (hr : c = true → Progress p told' (a ∈ q.serversCustom ∧ done = false) a r) :
    Inv p c R told' ((q.removeCustom a done).put a r) := by
  have hlookup : ∀ b, b ≠ a → (q.servers.insert a r).lookup b = q.servers.lookup b :=
    fun b hb => AList.lookup_insert_ne hb
  rw [removeCustom_eq]
  constructor
  · exact h.players
  · exact h.custom
  · intro b con hb
    have hcon := h.connections b con hb
    refine ⟨?_, hcon.address, hcon.players, hcon.wait⟩
    by_cases hba : b = a
    · subst hba
      refine ⟨r, AList.lookup_insert _, fun hc hkind' => ?_⟩
      cases (hkind hc hkind').symm.trans hb
    · obtain ⟨r', hr', hkind'⟩ := hcon.known
      exact ⟨r', (hlookup b hba).trans hr', hkind'⟩
  · exact h.masters
  · intro hc b r' hb
    have hmem := @mem_removeCustom q a done (h.custom.trans hc) b
    by_cases hba : b = a
    · subst hba
      cases (AList.lookup_insert _).symm.trans hb
      refine (hr hc).mono (List.Subset.refl _) ?_
      rintro ⟨hmem', hdone⟩
      refine hmem.2 ⟨hmem', ?_⟩
      rintro ⟨-, hdone'⟩
      rw [hdone] at hdone'
      cases hdone'
    · refine (h.results hc b r' ((hlookup b hba).symm.trans hb)).mono ht ?_
      intro hmem'
      exact hmem.2 ⟨hmem', fun hb => hba hb.1⟩
  · intro b hb
    exact (AList.mem_insert _).2 (Or.inr (h.requested b hb))

/-- A connection is made for a server before its result is. -/
theorem Inv.addServer (h : Inv p c R told q) {v : World Observer}
    (hv : Watched (Asked p fun b => Known c q.servers b ∨ b = a) (!c) v)
    (hwait : c = true → a ∈ q.serversCustom)
    (hold : c = true → ∀ r, q.servers.lookup a = some r → r.kind ≠ .invalidProtocol) :
    Inv p c (fun b => R b ∨ b = a) told ({ q with observer := v.state }.addServer a) := by
  have hmasters : c = true → v.state.masters = [] := by
    intro hc
    apply hv.masters
    rw [hc]
    rfl
  unfold QueryServersInfo.addServer
  by_cases ha : a ∈ q.servers
  · rw [if_pos ha]
    refine ⟨h.players, h.custom, ?_, hmasters, h.results, ?_⟩
    · intro b con hb
      have hcon := hv.connections b con hb
      refine ⟨?_, hcon.address, hcon.players, hcon.wait⟩
      rcases hcon.known with hknown | rfl
      · exact hknown
      · obtain ⟨r, hr⟩ := Option.isSome_iff_exists.1 (AList.lookup_isSome.2 ha)
        exact ⟨r, hr, fun hc => hold hc r hr⟩
    · rintro b (hb | rfl)
      · exact h.requested b hb
      · exact ha
  · rw [if_neg ha]
    have hlookup : ∀ b, b ≠ a → (q.servers.insert a (.newTimeout a)).lookup b =
        q.servers.lookup b := fun b hb => AList.lookup_insert_ne hb
    refine ⟨h.players, h.custom, ?_, hmasters, ?_, ?_⟩
    · intro b con hb
      have hcon := hv.connections b con hb
      refine ⟨?_, hcon.address, hcon.players, hcon.wait⟩
      by_cases hba : b = a
      · subst hba
        exact ⟨_, AList.lookup_insert _, fun _ => nofun⟩
      · obtain ⟨r, hr, hkind⟩ := hcon.known.resolve_right hba
        exact ⟨r, (hlookup b hba).trans hr, hkind⟩
    · intro hc b r hb
      by_cases hba : b = a
      · subst hba
        cases (AList.lookup_insert _).symm.trans hb
        exact Progress.new p told (hwait hc) b
      · exact h.results hc b r ((hlookup b hba).symm.trans hb)
    · rintro b (hb | rfl)
      · exact (AList.mem_insert _).2 (Or.inr (h.requested b hb))
      · exact (AList.mem_insert _).2 (Or.inl rfl)

end Inv

/-! ## Programs of a query -/

section Programs

variable {sys : System} {cli : Cli} {p c : Bool} {R : SocketAddr → Prop} {told : List Event}
  {P : World QueryServersInfo → Prop} {E : QueryStop → World QueryServersInfo → Prop}

theorem triple_getQuery {Q : QueryServersInfo → World QueryServersInfo → Prop}
    (h : ∀ w, P w → Q w.state w) : Triple P getQuery Q E := h

theorem triple_modifyQuery {f : QueryServersInfo → QueryServersInfo}
    {Q : Unit → World QueryServersInfo → Prop}
    (h : ∀ w, P w → Q () { w with state := f w.state }) : Triple P (modifyQuery f) Q E := h

theorem triple_onObserver {α : Type} {m : Prog Observer α}
    {Q : α → World QueryServersInfo → Prop}
    (h : ∀ w, P w → Triple (· = ⟨w.state.observer, w.trace⟩) m
      (fun x v => Q x ⟨{ w.state with observer := v.state }, v.trace⟩)
      (fun e v => E (.observer e) ⟨{ w.state with observer := v.state }, v.trace⟩)) :
    Triple P (onObserver m) Q E := by
  intro w hw
  have hm := h w hw _ rfl
  unfold onObserver
  cases hr : m ⟨w.state.observer, w.trace⟩ with
  | ok x v =>
    rw [hr] at hm
    exact hm
  | error e v =>
    rw [hr] at hm
    exact hm

/-- A query that stops has not missed a server. -/
def Stopped (p c : Bool) (R : SocketAddr → Prop) (e : QueryStop)
    (w : World QueryServersInfo) : Prop :=
  e ≠ .expectServer ∧ ∃ told, Inv p c R told w.state

theorem triple_insertServer {w : World QueryServersInfo} (h : Inv p c R told w.state)
    (a : SocketAddr) :
    Triple (· = w) (QueryServersInfo.insertServer sys a) (fun _ w' => ∃ v : World Observer,
      Watched (Asked p fun b => Known c w.state.servers b ∨ b = a) (!c) v ∧
      w' = ⟨{ w.state with observer := v.state }.addServer a, v.trace⟩) E := by
  unfold QueryServersInfo.insertServer
  refine Triple.bind (Q := fun q w' => w' = w ∧ q = w.state) (triple_getQuery ?_) fun q =>
    Triple.of_state ?_
  · rintro _ rfl
    exact ⟨rfl, rfl⟩
  rintro w ⟨rfl, rfl⟩
  refine Triple.bind (Q := fun _ w' => ∃ v : World Observer,
    Watched (Asked p fun b => Known c w.state.servers b ∨ b = a) (!c) v ∧
    w' = ⟨{ w.state with observer := v.state }, v.trace⟩) (triple_onObserver ?_)
    fun _ => triple_modifyQuery ?_
  · rintro _ rfl
    refine (watched_insertServer ?_).conseq ?_ (fun _ v hv => ⟨v, hv, rfl⟩) fun _ _ he => he.elim
    · exact fun now => ⟨Or.inr rfl, rfl, h.players, nofun⟩
    · rintro _ rfl
      refine (h.watched _).mono fun b con hcon => ?_
      exact ⟨Or.inl hcon.known, hcon.address, hcon.players, hcon.wait⟩
  · rintro _ ⟨v, hv, rfl⟩
    exact ⟨v, hv, rfl⟩

/-- A list of a master brings new servers. -/
theorem triple_insertServers (addrs : List SocketAddr) :
    Triple (fun w => Inv p false R told w.state) (addrs.forM (QueryServersInfo.insertServer sys))
      (fun _ w => Inv p false R told w.state) E := by
  refine Triple.forM (I := fun _ (w : World QueryServersInfo) => Inv p false R told w.state)
    (fun a l => ?_) addrs
  refine Triple.of_state fun w h => (triple_insertServer h a).post ?_
  rintro _ w' ⟨v, hv, rfl⟩
  have hadd := h.addServer hv nofun nofun
  exact { hadd with requested := fun b hb => hadd.requested b (Or.inl hb) }

theorem Inv.setServerResultOk {q : QueryServersInfo} (h : Inv p c R told q) {a : SocketAddr}
    {r : ServerResult} (hr : q.servers.lookup a = some r)
    (hkind : c = true → r.kind ≠ .invalidProtocol) {told' : List Event} (ht : told ⊆ told')
    (ping : ℕ) (info : ServerInfo) : Inv p c R told' (q.setServerResultOk a ping info) := by
  unfold QueryServersInfo.setServerResultOk
  rw [hr, h.players]
  refine h.put ht (fun _ hinvalid => ?_) fun hc => ?_
  · exact absurd hinvalid (ServerResult.setOk_ne_invalidProtocol r ping info)
  · exact ((h.results hc a r hr).mono ht id).setOk (hkind hc) ping info

theorem Inv.setServerPlayers {q : QueryServersInfo} (h : Inv true c R told q) {a : SocketAddr}
    {r : ServerResult} (hr : q.servers.lookup a = some r)
    (hkind : c = true → r.kind ≠ .invalidProtocol) {told' : List Event} (ht : told ⊆ told')
    (players : Players) :
    ∃ q', q.setServerPlayers a players = some q' ∧ Inv true c R told' q' := by
  unfold QueryServersInfo.setServerPlayers
  rw [hr, h.players]
  refine ⟨_, rfl, h.put ht (fun hc hinvalid => ?_) fun hc => ?_⟩
  · exact absurd hinvalid (ServerResult.setPlayers_ne_invalidProtocol (hkind hc) players)
  · exact ((h.results hc a r hr).mono ht id).setPlayers players

theorem Inv.gotList {q : QueryServersInfo} (h : Inv p c R told q) (cli : Cli) :
    Inv p c R told (q.gotList cli) := by
  unfold QueryServersInfo.gotList
  split_ifs
  · exact ⟨h.players, h.custom, h.connections, h.masters, h.results, h.requested⟩
  · exact h

theorem triple_handleEvent (e : Event) :
    Triple (fun w => Inv p c R told w.state ∧ Source (Asked p (Known c w.state.servers)) (Tells p)
        (!c) ⟨w.state.observer, w.trace⟩ e)
      (QueryServersInfo.handleEvent sys cli e) (fun _ w => Inv p c R (told ++ [e]) w.state)
      (Stopped p c R) := by
  have ht : told ⊆ told ++ [e] := List.subset_append_left _ _
  refine Triple.of_state ?_
  rintro w ⟨h, hsource⟩
  have hignored : Triple (· = w) (pure () : QueryProg Unit)
      (fun _ w => Inv p c R (told ++ [e]) w.state) (Stopped p c R) := by
    refine Triple.pure ?_
    rintro _ rfl
    exact h.mono ht
  cases hsource with
  | timeout => exact hignored
  | delayed d => cases d <;> exact hignored
  | master a data key e hmaster hm =>
    obtain rfl : c = false := by simpa using hm
    rcases handleMasterPacket_cases hmaster with ⟨r, rfl⟩ | ⟨i, rfl⟩ | rfl
    · unfold QueryServersInfo.handleEvent
      refine Triple.bind (Q := fun _ w => Inv p false R (told ++ [.serverList a r]) w.state)
        (triple_modifyQuery ?_) fun _ => triple_insertServers _
      rintro _ rfl
      exact (h.mono ht).gotList cli
    · unfold QueryServersInfo.handleEvent
      refine triple_modifyQuery ?_
      rintro _ rfl
      exact h.put ht nofun nofun
    · exact hignored
  | connection a con e hcon he hgone =>
    unfold QueryServersInfo.handleEvent
    obtain ⟨r, hr, hkind⟩ := hcon.known
    cases he with
    | serverInfo i hi =>
      obtain rfl := hi
      refine triple_modifyQuery ?_
      rintro _ rfl
      exact h.setServerResultOk hr hkind ht _ _
    | serverPlayers response hp =>
      subst hp
      refine Triple.bind (Q := fun q w' => w' = w ∧ q = w.state) (triple_getQuery ?_) fun q =>
        Triple.of_state ?_
      · rintro _ rfl
        exact ⟨rfl, rfl⟩
      rintro w ⟨rfl, rfl⟩
      -- the server of the connection has a result
      obtain ⟨q, hq, hinv⟩ := h.setServerPlayers hr hkind ht (.ofEvent response)
      rw [hq]
      refine triple_modifyQuery ?_
      rintro _ rfl
      exact hinv
    | serverInvalidProtocol =>
      refine triple_modifyQuery ?_
      rintro _ rfl
      exact h.put ht (fun _ _ => hgone a rfl) fun _ => Progress.invalidProtocol p _ _ a
    | serverInvalidPacket data =>
      refine triple_modifyQuery ?_
      rintro _ rfl
      show Inv p c R _ (QueryServersInfo.setInvalidPacket _ a data)
      unfold QueryServersInfo.setInvalidPacket
      split_ifs
      · exact h.put ht (fun _ => nofun) fun _ => Progress.invalidPacket p _ (by simp)
      · exact h.mono ht

theorem triple_waitEvent (turns : ℕ) (timeout : Option ℕ) :
    Triple (fun w => Inv p c R told w.state) (onObserver (waitEvent sys turns timeout))
      (fun e w => Inv p c R told w.state ∧ Source (Asked p (Known c w.state.servers)) (Tells p) (!c)
        ⟨w.state.observer, w.trace⟩ e) (Stopped p c R) := by
  refine triple_onObserver fun w h => ?_
  have hwait : Triple (Watched (Asked p (Known c w.state.servers)) (!c))
      (waitEvent sys turns timeout) _ _ := triple_waitEvent_watched (asked_guarded sys p _) _ _
  refine hwait.conseq ?_ ?_ ?_
  · rintro _ rfl
    exact h.watched _
  · exact fun e v hv => ⟨h.observe hv.1, hv.2⟩
  · exact fun e v hv => ⟨nofun, told, h.observe hv⟩

theorem triple_now : Triple (fun w => Inv p c R told w.state) (onObserver (Prog.now sys))
    (fun _ w => Inv p c R told w.state) (Stopped p c R) := by
  refine triple_onObserver fun w h => Prog.triple_now ?_
  rintro _ rfl
  exact h

/-- The loop ends early only when no requested server is waited for. -/
theorem triple_runLoop (turns startTime n : ℕ) : ∀ (remaining : Option ℕ) (told : List Event),
    Triple (fun w => Inv p c R told w.state)
      (QueryServersInfo.runLoop sys cli turns startTime n remaining told)
      (fun r w => Inv p c R r.2 w.state ∧
        (r.1 = .early → c = true ∧ w.state.serversCustom = ∅)) (Stopped p c R) := by
  induction n with
  | zero => exact fun _ told => Triple.throw fun w h => ⟨nofun, told, h⟩
  | succ n ih =>
    intro remaining told
    cases remaining with
    | none =>
      rw [QueryServersInfo.runLoop]
      exact Triple.pure fun w h => ⟨h, nofun⟩
    | some t =>
      rw [QueryServersInfo.runLoop]
      refine Triple.bind (Q := fun q w => Inv p c R told w.state ∧ q = w.state)
        (triple_getQuery fun w h => ⟨h, rfl⟩) fun q => ?_
      split_ifs with hdone
      · refine Triple.pure ?_
        rintro w ⟨h, rfl⟩
        exact ⟨h, fun _ => ⟨h.custom.symm.trans hdone.1, hdone.2⟩⟩
      refine Triple.bind ((triple_waitEvent turns (some t)).pre fun w h => h.1) fun e => ?_
      split_ifs with htimeout
      · exact Triple.pure fun w h => ⟨h.1, nofun⟩
      refine Triple.bind (triple_handleEvent e) fun _ => ?_
      refine Triple.bind triple_now fun now => ?_
      exact Triple.bind (Q := fun _ w => Inv p c R (told ++ [e]) w.state)
        (triple_getQuery fun w h => h) fun q => ih _ _

theorem triple_run (turns n : ℕ) :
    Triple (fun w => Inv p c R [] w.state) (QueryServersInfo.run sys cli turns n)
      (fun r w => Inv p c R r.2 w.state ∧
        (r.1 = .early → c = true ∧ w.state.serversCustom = ∅)) (Stopped p c R) := by
  unfold QueryServersInfo.run
  refine Triple.bind (Q := fun _ w => Inv p c R [] w.state) (triple_getQuery fun w h => h)
    fun q => ?_
  exact Triple.bind triple_now fun t => triple_runLoop turns t n _ []

end Programs

/-! ## Commands -/

section Commands

variable {sys : System} {cli : Cli}

/-- Nothing is known before a query has servers. -/
theorem inv_start (sys : System) (cli : Cli) (c : Bool) :
    Inv cli.players c (fun _ => False) [] (start sys cli c).state where
  players := rfl
  custom := rfl
  connections _ _ h := by cases h
  masters _ := rfl
  results _ _ _ h := by cases h
  requested _ h := h.elim

/-- The servers of the command line are inserted one after another, and waited for. -/
structure Starting (cli : Cli) (servers l : List SocketAddr) (w : World QueryServersInfo) :
    Prop where
  inserted : ∃ done, done ++ l = servers ∧ Inv cli.players true (· ∈ done) [] w.state
  timeouts : ∀ a r, w.state.servers.lookup a = some r → r = .newTimeout a

theorem triple_insertCustomServer (servers : List SocketAddr) (a : SocketAddr)
    (l : List SocketAddr) {E : QueryStop → World QueryServersInfo → Prop} :
    Triple (Starting cli servers (a :: l)) (QueryServersInfo.insertCustomServer sys a)
      (fun _ => Starting cli servers l) E := by
  unfold QueryServersInfo.insertCustomServer
  refine Triple.of_state fun w h => ?_
  obtain ⟨⟨done, hdone, hinv⟩, htimeouts⟩ := h
  have hinv' : Inv cli.players true (· ∈ done) []
      { w.state with serversCustom := insert a w.state.serversCustom } :=
    { hinv with results := fun hc b r hb =>
        (hinv.results hc b r hb).mono (List.Subset.refl _) (Finset.mem_insert_of_mem) }
  refine Triple.bind (Q := fun _ w' => w' = { w with state :=
    { w.state with serversCustom := insert a w.state.serversCustom } }) (triple_modifyQuery ?_)
    fun _ => ?_
  · rintro _ rfl
    rfl
  refine (triple_insertServer (w := { w with state :=
    { w.state with serversCustom := insert a w.state.serversCustom } }) hinv' a).post ?_
  rintro _ _ ⟨v, hv, rfl⟩
  have hadd := hinv'.addServer hv (fun _ => Finset.mem_insert_self _ _) ?_
  · refine ⟨⟨done ++ [a], by rw [List.append_assoc]; exact hdone, ?_⟩, ?_⟩
    · refine { hadd with requested := fun b hb => hadd.requested b ?_ }
      simpa using hb
    · intro b r hb
      unfold QueryServersInfo.addServer at hb
      split_ifs at hb with ha
      · exact htimeouts b r hb
      · by_cases hba : b = a
        · subst hba
          exact (Option.some.inj ((AList.lookup_insert _).symm.trans hb)).symm
        · exact htimeouts b r ((AList.lookup_insert_ne hba).symm.trans hb)
  · rintro - r hr
    rw [htimeouts a r hr]
    exact nofun

theorem triple_runCustomServers (servers : List SocketAddr) (turns n : ℕ) :
    Triple (· = start sys cli true) (runCustomServers sys cli servers turns n)
      (fun r w => ∃ told, Inv cli.players true (· ∈ servers) told w.state ∧
        ∀ told', r = some (.early, told') → told' = told ∧ w.state.serversCustom = ∅)
      (Stopped cli.players true (· ∈ servers)) := by
  unfold runCustomServers
  split_ifs with hnil
  · refine Triple.pure ?_
    rintro _ rfl
    refine ⟨[], { inv_start sys cli true with requested := fun a ha => ?_ }, nofun⟩
    rw [hnil] at ha
    cases ha
  · refine Triple.bind (Q := fun _ => Starting cli servers []) ((Triple.forM
      (I := Starting cli servers) (fun a l => triple_insertCustomServer servers a l) servers).pre ?_)
      fun _ => ?_
    · rintro _ rfl
      refine ⟨⟨[], rfl, { inv_start sys cli true with requested := nofun }⟩, ?_⟩
      intro a r hr
      cases hr
    refine Triple.bind ((triple_run turns n).pre ?_) fun r => Triple.pure ?_
    · rintro w ⟨⟨done, hdone, hinv⟩, -⟩
      rw [List.append_nil] at hdone
      exact hdone ▸ hinv
    · rintro w ⟨hinv, hearly⟩
      refine ⟨r.2, hinv, ?_⟩
      rintro told' hr
      cases hr
      exact ⟨rfl, (hearly rfl).2⟩

theorem triple_insertMasterNamed (resolve : Bytes → Option (List SocketAddr)) (name : Bytes)
    {I : SocketAddr → Connection → Prop} :
    Triple (Watched I true) (insertMasterNamed resolve name) (fun _ => Watched I true)
      fun _ => Watched I true := by
  unfold insertMasterNamed
  cases resolve name with
  | none => exact Triple.throw fun w hw => hw
  | some addrs =>
    dsimp only
    cases addrs.find? SocketAddr.isIpv4 with
    | none => exact Triple.pure fun w hw => hw
    | some a =>
      show Triple _ (Observer.insertMaster (.new a)) _ _
      unfold Observer.insertMaster
      refine Triple.bind (Q := fun _ => Watched I true) (Prog.triple_getState fun w hw => hw)
        fun o => Prog.triple_when (fun _ => ?_) fun _ _ hw => hw
      refine Triple.bind (Q := fun _ => Watched I true) (Prog.triple_modifyState ?_)
        fun _ => watched_note
      exact fun w hw => ⟨hw.connections, nofun⟩

theorem triple_runMasters (resolve : Bytes → Option (List SocketAddr)) (turns n : ℕ) :
    Triple (· = start sys cli false) (run sys resolve cli turns n)
      (fun r w => Inv cli.players false (fun _ => False) r.2 w.state)
      (Stopped cli.players false fun _ => False) := by
  have hstart := inv_start sys cli false
  unfold run
  refine Triple.bind (Q := fun _ w => Inv cli.players false (fun _ => False) [] w.state)
    (triple_onObserver ?_) fun _ => (triple_run turns n).post fun r w h => h.1
  rintro _ rfl
  refine (Triple.forM (I := fun _ => Watched (Asked cli.players
    (Known false (start sys cli false).state.servers)) true)
    (fun name _ => triple_insertMasterNamed resolve name) cli.masters).conseq ?_ ?_ ?_
  · rintro _ rfl
    exact hstart.watched _
  · exact fun _ v hv => hstart.observe hv
  · exact fun e v hv => ⟨nofun, [], hstart.observe hv⟩

/-- The connections of the observer belong to servers with a result. -/
def Covered (q : QueryServersInfo) : Prop := ∀ a ∈ q.observer.connections, a ∈ q.servers

/-- No server was missing where one is expected, or would be. -/
def Expects {α : Type} : EStateM.Result QueryStop (World QueryServersInfo) α → Prop
  | .ok _ w => Covered w.state
  | .error e w => e ≠ .expectServer ∧ Covered w.state

/-- When a query for servers stops early, each of them has an answer, or has sent packets that were
not understood. A query never misses the server of an answer, for the servers of a command line or
of masters. -/
theorem run_early_exit (sys : System) (resolve : Bytes → Option (List SocketAddr)) (cli : Cli)
    (servers : List SocketAddr) (turns n : ℕ) :
    (∀ told w, runCustomServers sys cli servers turns n (start sys cli true) =
        .ok (some (.early, told)) w →
      ∀ a ∈ servers, ∃ r, w.state.servers.lookup a = some r ∧ r.kind ≠ .timeout ∧
        Answered cli.players told a r) ∧
    Expects (runCustomServers sys cli servers turns n (start sys cli true)) ∧
    Expects (run sys resolve cli turns n (start sys cli false)) := by
  have hcustom := @triple_runCustomServers sys cli servers turns n
  have hmasters := @triple_runMasters sys cli resolve turns n
  refine ⟨?_, ?_, ?_⟩
  · intro told w hrun a ha
    obtain ⟨told', hinv, hearly⟩ := hcustom.ok rfl hrun
    obtain ⟨rfl, hempty⟩ := hearly told rfl
    obtain ⟨r, hr⟩ := Option.isSome_iff_exists.1 (AList.lookup_isSome.2 (hinv.requested a ha))
    have hnot : a ∉ w.state.serversCustom := by
      rw [hempty]
      exact Finset.notMem_empty a
    exact ⟨r, hr, (hinv.results rfl a r hr).done hnot⟩
  · cases hr : runCustomServers sys cli servers turns n (start sys cli true) with
    | ok r w =>
      obtain ⟨told, hinv, -⟩ := hcustom.ok rfl hr
      exact fun a ha => hinv.known ha
    | error e w =>
      obtain ⟨he, told, hinv⟩ := hcustom.error rfl hr
      exact ⟨he, fun a ha => hinv.known ha⟩
  · cases hr : run sys resolve cli turns n (start sys cli false) with
    | ok r w => exact fun a ha => (hmasters.ok rfl hr).known ha
    | error e w =>
      obtain ⟨he, told, hinv⟩ := hmasters.error rfl hr
      exact ⟨he, fun a ha => hinv.known ha⟩

/-- The address of a test. -/
def testServer : SocketAddr := .v4 ⟨⟨⟨[192, 0, 2, 1], rfl⟩⟩, 27015⟩

/-- A system whose socket has the information of one server. -/
def answeringSystem : System where
  clock _ := 0
  clock_mono := monotone_const
  rng _ := 0
  send _ := true
  setReadTimeout _ := true
  recv _ := .ok (testServer, GetServerInfoResponse.header ++ ascii "\\p\\49\\host\\A")
  traceEnabled _ := false
  order _ l := l
  order_perm _ _ := .refl _

/-- A query for that server stops early, with the information. -/
theorem run_early_exit_one : ∃ told w,
    runCustomServers answeringSystem ⟨[], 0, secs 2, false, []⟩ [testServer] 3 3
      (start answeringSystem ⟨[], 0, secs 2, false, []⟩ true) = .ok (some (.early, told)) w ∧
    ∃ r, w.state.servers.lookup testServer = some r ∧ Answered false told testServer r := by
  obtain ⟨result, w, hrun, hearly⟩ := exists_of_returned (f := fun r => r.1.map Prod.fst)
    (x := some .early) (r := runCustomServers answeringSystem ⟨[], 0, secs 2, false, []⟩
      [testServer] 3 3 (start answeringSystem ⟨[], 0, secs 2, false, []⟩ true)) (by decide +kernel)
  obtain ⟨⟨ending, told⟩, rfl, rfl⟩ := Option.map_eq_some_iff.1 hearly
  obtain ⟨r, hr, -, hanswered⟩ := (run_early_exit answeringSystem (fun _ => none)
    ⟨[], 0, secs 2, false, []⟩ [testServer] 3 3).1 told w hrun testServer List.mem_cons_self
  exact ⟨told, w, hrun, r, hr, hanswered⟩

end Commands

end Xash3d.Query
