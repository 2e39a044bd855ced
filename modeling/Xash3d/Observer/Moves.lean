import Xash3d.Observer.Observer

/-!
# What an observer can do

`Core` is an observer and its trace without the schedule of its tasks and with the connections as a
function. `Move` lists every single thing `waitEvent` can do to it, with the guards it passed, and
the event that is returned if there is one. `triple_waitEvent` says that `waitEvent` does nothing
else: the invariants of runs are case distinctions on `Move`.
-/

namespace Xash3d

open Lib

/-! ## Rules of the primitives -/

namespace Prog

variable {S α : Type} {sys : System} {P : World S → Prop} {E : Stop → World S → Prop}

theorem triple_getState {Q : S → World S → Prop} (h : ∀ w, P w → Q w.state w) :
    Triple P getState Q E := h

theorem triple_modifyState {f : S → S} {Q : Unit → World S → Prop}
    (h : ∀ w, P w → Q () { w with state := f w.state }) : Triple P (modifyState f) Q E := h

theorem triple_note {a : Action} {Q : Unit → World S → Prop}
    (h : ∀ w, P w → Q () { w with trace := w.trace ++ [a] }) : Triple P (note a) Q E := h

theorem triple_now {Q : ℕ → World S → Prop}
    (h : ∀ w, P w → Q (sys.clock w.trace.length) { w with trace := w.trace ++ [.now] }) :
    Triple P (now sys) Q E := h

theorem triple_after {t : ℕ} {Q : ℕ → World S → Prop}
    (h : ∀ w, P w → sys.representable (sys.clock w.trace.length + t) →
      Q (sys.clock w.trace.length + t) { w with trace := w.trace ++ [.now] })
    (hoverflow : ∀ w, P w → sys.representable (sys.clock w.trace.length + t) = false →
      E .overflow { w with trace := w.trace ++ [.now] }) :
    Triple P (after sys t) Q E := by
  refine Triple.of_state fun w hw => ?_
  refine Triple.bind (Q := fun now w' => now = sys.clock w.trace.length ∧
    w' = { w with trace := w.trace ++ [.now] }) (triple_now ?_) fun now => ?_
  · rintro _ rfl
    exact ⟨rfl, rfl⟩
  split_ifs with ht
  · refine Triple.pure ?_
    rintro _ ⟨rfl, rfl⟩
    exact h w hw ht
  · refine Triple.throw ?_
    rintro _ ⟨rfl, rfl⟩
    exact hoverflow w hw (Bool.not_eq_true _ ▸ ht)

theorem triple_random {m : SocketAddr} {Q : UInt32 → World S → Prop}
    (h : ∀ w key, P w → Q key { w with trace := w.trace ++ [.draw m key] }) :
    Triple P (random sys m) Q E := fun w hw => h w (sys.rng w.trace.length) hw

theorem triple_traceEnabled {Q : Bool → World S → Prop} (h : ∀ w b, P w → Q b w) :
    Triple P (traceEnabled sys) Q E := fun w hw => h w _ hw

theorem triple_when {b : Bool} {m : Prog S Unit} {Q : Unit → World S → Prop}
    (htrue : b = true → Triple P m Q E) (hfalse : b = false → ∀ w, P w → Q () w) :
    Triple P (when b m) Q E := by
  unfold when
  cases b with
  | true => exact htrue rfl
  | false => exact hfalse rfl

theorem triple_unwrap {r : Except ProtocolError α} {Q : α → World S → Prop}
    (h : ∀ w a, r = .ok a → P w → Q a w) (hpanic : ∀ w, P w → E .panic w) :
    Triple P (unwrap r) Q E := by
  intro w hw
  cases r with
  | ok a => exact h w a rfl hw
  | error e => exact hpanic w hw

theorem triple_sendTo {packet : Bytes} {dest : SocketAddr} {Q : Unit → World S → Prop}
    (hok : ∀ w, P w → Q () { w with trace := w.trace ++ [.send dest packet true] })
    (herror : ∀ w, P w → E .io { w with trace := w.trace ++ [.send dest packet false] }) :
    Triple P (sendTo sys packet dest) Q E := by
  intro w hw
  unfold sendTo
  cases sys.send w.trace.length with
  | true => exact hok w hw
  | false => exact herror w hw

theorem triple_setReadTimeout {Q : Unit → World S → Prop}
    (hok : ∀ w, P w → Q () { w with trace := w.trace ++ [.setReadTimeout true] })
    (herror : ∀ w, P w → E .io { w with trace := w.trace ++ [.setReadTimeout false] }) :
    Triple P (setReadTimeout sys) Q E := by
  intro w hw
  unfold setReadTimeout
  cases sys.setReadTimeout w.trace.length with
  | true => exact hok w hw
  | false => exact herror w hw

theorem triple_recvFrom {Q : Except ErrorKind (SocketAddr × Bytes) → World S → Prop}
    (hok : ∀ w sender data, P w →
      Q (.ok (sender, data)) { w with trace := w.trace ++ [.recv sender data] })
    (herror : ∀ w kind, P w → Q (.error kind) { w with trace := w.trace ++ [.recvError kind] }) :
    Triple P (recvFrom sys) Q E := by
  intro w hw
  unfold recvFrom
  cases sys.recv w.trace.length with
  | ok r => exact hok w r.1 r.2 hw
  | error kind => exact herror w kind hw

end Prog

/-! ## Headers of requests -/

theorem GetServerInfo.header_of_encode {r : GetServerInfo} {cap : ℕ} {out : Bytes}
    (h : r.encode cap = .ok out) : header.isPrefixOf out = true := by
  rw [(Writes.run_ok ((Writes.putBytes header).seq (Writes.putAsStr _)) h).1]
  exact List.isPrefixOf_iff_prefix.2 (List.prefix_append _ _)

/-- The other requests do not look like one for information. -/
theorem not_info_of_header (header : Bytes) {out : Bytes}
    (hd : ¬ header <+: GetServerInfo.header ∧ ¬ GetServerInfo.header <+: header)
    (h : ∃ t, out = header ++ t) : GetServerInfo.header.isPrefixOf out = false := by
  obtain ⟨t, rfl⟩ := h
  exact Bool.not_eq_true _ ▸ not_isPrefixOf hd (List.isPrefixOf_iff_prefix.2 (List.prefix_append _ t))

theorem GetServerInfo2.not_info_of_encode {r : GetServerInfo2} {cap : ℕ} {out : Bytes}
    (h : r.encode cap = .ok out) : GetServerInfo.header.isPrefixOf out = false := by
  refine not_info_of_header header (by decide +kernel) ?_
  unfold encode at h
  cases hc : r.challenge with
  | none =>
    rw [hc] at h
    exact ⟨[], (Writes.run_ok ((Writes.putBytes header).seq fun c => (Writes.putBytes_nil c).symm) h).1⟩
  | some challenge =>
    rw [hc] at h
    exact ⟨_, (Writes.run_ok ((Writes.putBytes header).seq (Writes.putU32Le challenge)) h).1⟩

theorem GetPlayers.not_info_of_encode {r : GetPlayers} {cap : ℕ} {out : Bytes}
    (h : r.encode cap = .ok out) : GetServerInfo.header.isPrefixOf out = false :=
  not_info_of_header header (by decide +kernel)
    ⟨_, (Writes.run_ok ((Writes.putBytes header).seq (Writes.putU32Le r.challenge)) h).1⟩

theorem GetChallenge.not_info_of_encode {r : GetChallenge} {cap : ℕ} {out : Bytes}
    (h : r.encode cap = .ok out) : GetServerInfo.header.isPrefixOf out = false :=
  not_info_of_header header (by decide +kernel)
    ⟨[], by simpa using (Writes.run_ok (Writes.putBytes header) h).1⟩

theorem QueryServers.header_of_encode {T : Type} {display : T → List Bytes}
    {q : QueryServers T} {cap : ℕ} {out : Bytes} (h : q.encodeWith display cap = .ok out) :
    header.isPrefixOf out = true := by
  rw [(Writes.run_ok ((Writes.putBytes header).seq ((Writes.putU8 _).seq ((Writes.putAsStr _).seq
    ((Writes.putU8 0).seq ((Writes.putAsStr _).seq (Writes.putU8 0)))))) h).1]
  exact List.isPrefixOf_iff_prefix.2 (List.prefix_append _ _)

theorem QueryServers.not_info {out : Bytes} (h : header.isPrefixOf out = true) :
    GetServerInfo.header.isPrefixOf out = false := by
  obtain ⟨t, ht⟩ := List.isPrefixOf_iff_prefix.1 h
  exact not_info_of_header header (by decide +kernel) ⟨t, ht.symm⟩

/-- An action that changes nothing and sends no request for information. -/
def Action.isPlain : Action → Bool
  | now | setReadTimeout _ | recvError _ => true
  | send _ packet _ => !GetServerInfo.header.isPrefixOf packet
  | _ => false

def Action.isRecv : Action → Bool
  | recv _ _ => true
  | _ => false

def Action.isTick : Action → Bool
  | infoTick _ _ _ => true
  | _ => false

/-! ## Moves -/

/-- The connections differ in the challenge and the expected players at most. -/
def Connection.SameInfo (c c' : Connection) : Prop :=
  c' = { c with challenge := c'.challenge, waitPlayers := c'.waitPlayers }

namespace Connection.SameInfo

variable {c c' : Connection}

theorem address (h : c.SameInfo c') : c'.address = c.address := by rw [h]

theorem state (h : c.SameInfo c') : c'.state = c.state := by rw [h]

theorem protocol (h : c.SameInfo c') : c'.protocol = c.protocol := by rw [h]

end Connection.SameInfo

namespace Observer

/-- An observer without its schedule, and what it did. -/
structure Core where
  masters : List Master
  connections : SocketAddr → Option Connection
  delayedEvents : List DelayedEvent
  pending : List Pending
  trace : List Action

def core (w : World Observer) : Core where
  masters := w.state.masters
  connections := w.state.connections.lookup
  delayedEvents := w.state.delayedEvents
  pending := w.state.pending
  trace := w.trace

namespace Core

def record (s : Core) (as : List Action) : Core := { s with trace := s.trace ++ as }

def set (s : Core) (a : SocketAddr) (c : Option Connection) : Core :=
  { s with connections := Function.update s.connections a c }

def push (s : Core) (e : DelayedEvent) : Core :=
  { s with delayedEvents := s.delayedEvents ++ [e] }

/-- The datagrams of the socket are taken in such states only. -/
structure Listens (s : Core) : Prop where
  pending : s.pending = []
  delayedEvents : s.delayedEvents = []

/-- The datagrams of an address go to its connection. -/
structure Hands (s : Core) (a : SocketAddr) (c : Connection) : Prop extends s.Listens where
  noMaster : ∀ m ∈ s.masters, m.addr ≠ a
  connection : s.connections a = some c

/-- The last tick found a connection that was not idle, and nothing was received since. -/
def Overdue (sys : System) (s : Core) (a : SocketAddr) (c : Connection) : Prop :=
  ∃ u t connections pending v, s.trace = u ++ .infoTick t connections pending :: v ∧
    (a, c) ∈ connections ∧ c.isValid t = true ∧ Pending.server a ∉ pending ∧
    (∃ n < s.trace.length, t = sys.clock n) ∧ ∀ x ∈ v, x.isRecv = false ∧ x.isTick = false

end Core

/-- Everything `waitEvent` can do, with the event it returns. -/
inductive Move (sys : System) : Core → Option Event → Core → Prop
  | plain (s : Core) (x : Action) (h : x.isPlain = true) : Move sys s none (s.record [x])
  /-- A master gets a new key. -/
  | draw (s : Core) (i : ℕ) (m : Master) (h : s.masters[i]? = some m) (key : UInt32) :
    Move sys s none
      { s.record [.draw m.addr key] with masters := s.masters.set i { m with key } }
  /-- A pending query to a master: the master gets a new key. -/
  | takeMaster (s : Core) (ps : List Pending) (i : ℕ) (m : Master) (h : s.masters[i]? = some m)
      (hp : s.pending = ps ++ [.master m.addr]) (key : UInt32) :
    Move sys s none { s.record [.draw m.addr key] with
      pending := ps, masters := s.masters.set i { m with key } }
  /-- A pending query to a master that is gone. -/
  | dropMaster (s : Core) (ps : List Pending) (a : SocketAddr)
      (hp : s.pending = ps ++ [.master a]) (h : ∀ m ∈ s.masters, m.addr ≠ a) :
    Move sys s none { s with pending := ps }
  /-- A pending query to a server that is gone. -/
  | dropServer (s : Core) (ps : List Pending) (a : SocketAddr)
      (hp : s.pending = ps ++ [.server a]) (h : s.connections a = none) :
    Move sys s none { s with pending := ps }
  /-- A server is asked for its information, as a pending query or otherwise. -/
  | ask (s : Core) (ps : List Pending) (a : SocketAddr) (c : Connection) (packet : Bytes)
      (ok : Bool) (h : s.connections a = some c)
      (hp : s.pending = ps ∨ s.pending = ps ++ [.server a])
      (hpacket : GetServerInfo.header.isPrefixOf packet = true) :
    Move sys s none { (s.record [.now, .send c.address packet ok]).set a
      (some (c.asked (sys.clock s.trace.length))) with pending := ps }
  | touch (s : Core) (a : SocketAddr) (c c' : Connection) (h : s.connections a = some c)
      (hc : c.SameInfo c') : Move sys s none (s.set a (some c'))
  | tick (s : Core) (connections : List (SocketAddr × Connection))
      (h : ∀ a c, (a, c) ∈ connections ↔ s.connections a = some c)
      (hevents : s.delayedEvents = []) : Move sys s none
        (s.record [.now, .infoTick (sys.clock s.trace.length) connections s.pending])
  | report (s : Core) (a : SocketAddr) (c : Connection) (h : s.connections a = some c)
      (hstate : c.state ≠ .idle) (htick : s.Overdue sys a c) :
    Move sys s none (s.push (.serverTimeout a))
  | cleanup (s : Core) (a : SocketAddr) (c : Connection) (h : s.connections a = some c)
      (ht : ∃ t, c.isValid t = false) (hevents : .serverTimeout a ∉ s.delayedEvents) :
    Move sys s none (((s.record [.cleanup a]).set a none).push (.serverRemove a))
  | pop (s : Core) (e : DelayedEvent) (es : List DelayedEvent) (h : s.delayedEvents = es ++ [e]) :
    Move sys s e.toEvent { s with delayedEvents := es }
  | timeout (s : Core) : Move sys s (some .timeout) s
  | masterPacket (s : Core) (m : Master) (data : Bytes) (hs : s.Listens)
      (h : s.masters.find? (·.addr == m.addr) = some m) :
    Move sys s (handleMasterPacket m.addr data m.key) (s.record [.recv m.addr data])
  | stranger (s : Core) (a : SocketAddr) (data : Bytes) (hs : s.Listens)
      (hm : ∀ m ∈ s.masters, m.addr ≠ a) (h : s.connections a = none) :
    Move sys s none (s.record [.recv a data])
  /-- A reply with the information of a server. -/
  | info (s : Core) (a : SocketAddr) (c c' : Connection) (data : Bytes)
      (i : Event.ServerInfo) (hs : s.Hands a c)
      (hdata : GetServerInfoResponse.decode data = .ok i.response)
      (hc : c'.address = c.address) (hstate : c'.state = .idle) :
    Move sys s (some (.serverInfo i))
      ((s.record [.recv a data, .handed a data, .now]).set a (some c'))
  /-- A first reply about a wrong version: the legacy protocol is tried. -/
  | legacy (s : Core) (a : SocketAddr) (c : Connection) (data : Bytes) (hs : s.Hands a c)
      (hdata : GetServerInfoResponse.decode data = .error .invalidProtocolVersion)
      (hstate : c.state = .protocolDetection) (hprotocol : c.protocol = protocolVersion) :
    Move sys s none
      ((s.record [.recv a data, .handed a data]).set a (some c.setLegacyProtocol))
  /-- Another reply about a wrong version: the connection is removed. -/
  | invalidProtocol (s : Core) (a : SocketAddr) (c : Connection) (data : Bytes) (hs : s.Hands a c)
      (hdata : GetServerInfoResponse.decode data = .error .invalidProtocolVersion)
      (h : ¬ (c.state = .protocolDetection ∧ c.protocol = protocolVersion)) :
    Move sys s (some (.serverInvalidProtocol c.address))
      ((s.record [.recv a data, .handed a data]).set a none)
  /-- Any other datagram for a connection. -/
  | packet (s : Core) (a : SocketAddr) (c c' : Connection) (data : Bytes) (out : Option Event)
      (hs : s.Hands a c) (hok : ∀ r, GetServerInfoResponse.decode data ≠ .ok r)
      (herror : GetServerInfoResponse.decode data ≠ .error .invalidProtocolVersion)
      (hc : c.SameInfo c')
      (hout : out = none ∨ (∃ r, out = some (.serverPlayers c.address r)) ∨
        out = some (.serverInvalidPacket c.address data)) :
    Move sys s out ((s.record [.recv a data, .handed a data]).set a (some c'))

/-- Any number of moves without an event. -/
def Moves (sys : System) : Core → Core → Prop :=
  Relation.ReflTransGen fun s s' => Move sys s none s'

/-- Pending queries are taken from the end, and none is added. -/
theorem Move.pending_prefix {sys : System} {s s' : Core} {out : Option Event}
    (h : Move sys s out s') : s'.pending <+: s.pending := by
  cases h with
  | takeMaster ps i m _ hp => exact ⟨_, hp.symm⟩
  | dropMaster ps a hp => exact ⟨_, hp.symm⟩
  | dropServer ps a hp => exact ⟨_, hp.symm⟩
  | ask ps a c packet ok _ hp =>
    rcases hp with hp | hp
    · rw [hp]
    · exact ⟨_, hp.symm⟩
  | _ => exact List.prefix_rfl

theorem Moves.pending_prefix {sys : System} {s s' : Core} (h : Moves sys s s') :
    s'.pending <+: s.pending := by
  induction h with
  | refl => exact List.prefix_rfl
  | tail _ hmove ih => exact hmove.pending_prefix.trans ih

/-- A program that fails with an I/O error has kept a property. -/
def OnIo {S : Type} (X : World S → Prop) (e : Stop) (w : World S) : Prop := e = .io → X w

/-! ## Programs of a connection -/

section Kept

variable {sys : System} {I : World Connection → Prop}

open Prog

/-- A property that is kept by readings of the clock, by what a query changes, and by sending to the
server, is kept by a query. -/
theorem triple_query_kept (hnow : ∀ v, I v → I { v with trace := v.trace ++ [.now] })
    (hasked : ∀ v t, I v → I { v with state := v.state.asked t })
    (hplayers : ∀ v, I v → I { v with state := { v.state with waitPlayers := true } })
    (hsend : ∀ v packet ok, I v →
      I { v with trace := v.trace ++ [.send v.state.address packet ok] }) (cap : ℕ) :
    Triple I (Connection.query sys cap) (fun _ => I) fun _ => I := by
  have hstate : Triple I getState (fun c w => I w ∧ w.state = c) fun _ => I :=
    triple_getState fun w hw => ⟨hw, rfl⟩
  have hunwrap (c : Connection) (r : Except ProtocolError Bytes) :
      Triple (fun w => I w ∧ w.state = c) (unwrap r) (fun _ w => I w ∧ w.state = c) fun _ => I :=
    triple_unwrap (fun _ _ _ hw => hw) fun _ hw => hw.1
  have hsendTo (c : Connection) (packet : Bytes) : Triple (fun w => I w ∧ w.state = c)
      (Prog.sendTo sys packet c.address) (fun _ w => I w ∧ w.state = c) fun _ => I := by
    refine triple_sendTo ?_ ?_
    · rintro w ⟨hw, rfl⟩
      exact ⟨hsend w packet true hw, rfl⟩
    · rintro w ⟨hw, rfl⟩
      exact hsend w packet false hw
  unfold Connection.query
  refine Triple.bind (Q := fun _ => I) ?_ fun _ => ?_
  · unfold Connection.queryInfo
    refine Triple.bind (Q := fun _ => I) (triple_now hnow) fun t => ?_
    refine Triple.bind (Q := fun _ => I) (triple_modifyState fun v => hasked v t) fun _ => ?_
    refine Triple.bind hstate fun c => ?_
    refine Triple.bind (hunwrap c _) fun data => ?_
    refine Triple.bind (hsendTo c data) fun _ => ?_
    refine Triple.bind (Q := fun _ w => I w ∧ w.state = c)
      (triple_traceEnabled fun w b hw => hw) fun b => ?_
    refine triple_when (fun _ => ?_) fun _ w hw => hw.1
    exact (Triple.bind (hunwrap c _) fun data => hsendTo c data).post fun _ w hw => hw.1
  · refine Triple.bind hstate fun c => ?_
    refine triple_when (fun _ => ?_) fun _ w hw => hw.1
    unfold Connection.queryPlayers
    refine Triple.bind (Q := fun _ => I) (triple_modifyState fun v hv => hplayers v hv.1) fun _ => ?_
    refine Triple.bind hstate fun c => ?_
    refine Triple.bind (hunwrap c _) fun data => ?_
    exact (hsendTo c data).post fun _ w hw => hw.1

end Kept

section Held

variable {sys : System} {s₀ : Core} {o : Observer} {P ps : List Pending} {a : SocketAddr}

/-- An observer while a connection of it is worked on. -/
def held (o : Observer) (P : List Pending) (a : SocketAddr) (v : World Connection) : Core where
  masters := o.masters
  connections := Function.update o.connections.lookup a (some v.state)
  delayedEvents := o.delayedEvents
  pending := P
  trace := v.trace

/-- The connection is worked on after some moves. -/
def Held (sys : System) (s₀ : Core) (o : Observer) (P : List Pending) (a : SocketAddr)
    (v : World Connection) : Prop := Moves sys s₀ (held o P a v)

theorem held_set (o : Observer) (P : List Pending) (a : SocketAddr) (v : World Connection)
    (c : Connection) : (held o P a v).set a (some c) = held o P a { v with state := c } := by
  unfold Core.set held
  rw [Function.update_idem]

theorem held_connections (o : Observer) (P : List Pending) (a : SocketAddr) (v : World Connection) :
    (held o P a v).connections a = some v.state := by
  show Function.update o.connections.lookup a (some v.state) a = _
  rw [Function.update_self]

theorem Held.plain {v : World Connection} (h : Held sys s₀ o P a v) {x : Action}
    (hx : x.isPlain = true) : Held sys s₀ o P a { v with trace := v.trace ++ [x] } :=
  h.tail (Move.plain _ x hx)

theorem Held.touch {v : World Connection} (h : Held sys s₀ o P a v) {c : Connection}
    (hc : v.state.SameInfo c) : Held sys s₀ o P a { v with state := c } := by
  refine h.tail ?_
  have hmove := @Move.touch sys _ a _ c (held_connections o P a v) hc
  rwa [held_set] at hmove

/-- A pending query, or another one, asks for the information. -/
theorem Held.ask {v : World Connection} (h : Held sys s₀ o P a v)
    (hP : P = ps ∨ P = ps ++ [.server a]) {packet : Bytes} (ok : Bool)
    (hpacket : GetServerInfo.header.isPrefixOf packet = true) :
    Held sys s₀ o ps a ⟨v.state.asked (sys.clock v.trace.length),
      v.trace ++ [.now] ++ [.send v.state.address packet ok]⟩ := by
  have hmove := @Move.ask sys _ ps a _ packet ok (held_connections o P a v) hP hpacket
  have hask : held o ps a ⟨v.state.asked (sys.clock v.trace.length),
      v.trace ++ [.now] ++ [.send v.state.address packet ok]⟩ =
      { ((held o P a v).record [.now, .send v.state.address packet ok]).set a
        (some (v.state.asked (sys.clock v.trace.length))) with pending := ps } := by
    unfold Core.set Core.record held
    rw [Function.update_idem, List.append_assoc]
    rfl
  unfold Held
  rw [hask]
  exact h.tail hmove

open Prog in
/-- Anything but a request for information may be sent. -/
theorem triple_sendPlain {data : Bytes} {dest : SocketAddr} :
    Triple (fun w : World Connection => Held sys s₀ o P a w ∧
        GetServerInfo.header.isPrefixOf data = false)
      (Prog.sendTo sys data dest) (fun _ => Held sys s₀ o P a) (OnIo (Held sys s₀ o P a)) := by
  refine triple_sendTo ?_ ?_
  · rintro w ⟨hw, hdata⟩
    exact hw.plain (by simp [Action.isPlain, hdata])
  · rintro w ⟨hw, hdata⟩ -
    exact hw.plain (by simp [Action.isPlain, hdata])

open Prog in
theorem triple_queryInfo (hP : P = ps ∨ P = ps ++ [.server a]) (cap : ℕ) :
    Triple (Held sys s₀ o P a) (Connection.queryInfo sys cap) (fun _ => Held sys s₀ o ps a)
      (OnIo (Held sys s₀ o ps a)) := by
  -- the state before the query is kept in mind until the request is sent
  let Asked (w : World Connection) : Prop := ∃ v : World Connection, Held sys s₀ o P a v ∧
    w = ⟨v.state.asked (sys.clock v.trace.length), v.trace ++ [.now]⟩
  unfold Connection.queryInfo
  refine Triple.bind (Q := fun t w => ∃ v : World Connection, Held sys s₀ o P a v ∧
    t = sys.clock v.trace.length ∧ w = ⟨v.state, v.trace ++ [.now]⟩)
    (triple_now fun v hv => ⟨v, hv, rfl, rfl⟩) fun t => ?_
  refine Triple.bind (Q := fun _ => Asked) (triple_modifyState ?_) fun _ => ?_
  · rintro _ ⟨v, hv, rfl, rfl⟩
    exact ⟨v, hv, rfl⟩
  refine Triple.bind (Q := fun c w => Asked w ∧ c = w.state)
    (triple_getState fun w hw => ⟨hw, rfl⟩) fun c => ?_
  refine Triple.bind (Q := fun data w => (Asked w ∧ c = w.state) ∧
    GetServerInfo.header.isPrefixOf data = true) (triple_unwrap ?_ ?_) fun data => ?_
  · exact fun w data hdata hw => ⟨hw, GetServerInfo.header_of_encode hdata⟩
  · rintro w - ⟨⟩
  refine Triple.bind (Q := fun _ => Held sys s₀ o ps a) (triple_sendTo ?_ ?_) fun _ => ?_
  · rintro _ ⟨⟨⟨v, hv, rfl⟩, rfl⟩, hdata⟩
    exact hv.ask hP true hdata
  · rintro _ ⟨⟨⟨v, hv, rfl⟩, rfl⟩, hdata⟩ -
    exact hv.ask hP false hdata
  refine Triple.bind (Q := fun _ => Held sys s₀ o ps a) (triple_traceEnabled fun w b hw => hw)
    fun b => triple_when ?_ fun _ _ hw => hw
  intro _
  refine Triple.bind (Q := fun data w => Held sys s₀ o ps a w ∧
    GetServerInfo.header.isPrefixOf data = false) (triple_unwrap ?_ ?_) fun data => ?_
  · exact fun w data hdata hw => ⟨hw, GetServerInfo2.not_info_of_encode hdata⟩
  · rintro w - ⟨⟩
  exact triple_sendPlain

open Prog in
theorem triple_queryPlayers (cap : ℕ) :
    Triple (Held sys s₀ o P a) (Connection.queryPlayers sys cap) (fun _ => Held sys s₀ o P a)
      (OnIo (Held sys s₀ o P a)) := by
  unfold Connection.queryPlayers
  refine Triple.bind (Q := fun _ => Held sys s₀ o P a)
    (triple_modifyState fun v hv => hv.touch rfl) fun _ => ?_
  refine Triple.bind (Q := fun _ => Held sys s₀ o P a) (triple_getState fun w hw => hw) fun c => ?_
  refine Triple.bind (Q := fun data w => Held sys s₀ o P a w ∧
    GetServerInfo.header.isPrefixOf data = false) (triple_unwrap ?_ ?_) fun data => ?_
  · intro w data hdata hw
    refine ⟨hw, ?_⟩
    cases hc : c.challenge.bind GetPlayers.new with
    | none =>
      rw [hc] at hdata
      exact GetChallenge.not_info_of_encode hdata
    | some req =>
      rw [hc] at hdata
      exact GetPlayers.not_info_of_encode hdata
  · rintro w - ⟨⟩
  exact triple_sendPlain

open Prog in
theorem triple_query (hP : P = ps ∨ P = ps ++ [.server a]) (cap : ℕ) :
    Triple (Held sys s₀ o P a) (Connection.query sys cap) (fun _ => Held sys s₀ o ps a)
      (OnIo (Held sys s₀ o ps a)) := by
  unfold Connection.query
  refine Triple.bind (triple_queryInfo hP cap) fun _ => ?_
  refine Triple.bind (Q := fun _ => Held sys s₀ o ps a) (triple_getState fun w hw => hw) fun c => ?_
  exact triple_when (fun _ => triple_queryPlayers cap) fun _ _ hw => hw

end Held

/-! ## Datagrams of a connection -/

/-- The observer returns an event after some moves. -/
def Returned (sys : System) (s₀ : Core) (e : Event) (s : Core) : Prop :=
  ∃ s₁, Moves sys s₀ s₁ ∧ Move sys s₁ (some e) s

theorem Returned.trans {sys : System} {s₀ s₁ s : Core} {e : Event} (h : Returned sys s₁ e s)
    (hmoves : Moves sys s₀ s₁) : Returned sys s₀ e s := by
  obtain ⟨s₂, hs₂, hmove⟩ := h
  exact ⟨s₂, hmoves.trans hs₂, hmove⟩

theorem Returned.pending_prefix {sys : System} {s₀ s : Core} {e : Event}
    (h : Returned sys s₀ e s) : s.pending <+: s₀.pending := by
  obtain ⟨s₁, hs₁, hmove⟩ := h
  exact hmove.pending_prefix.trans hs₁.pending_prefix

/-- What is left of a connection that gave an event. -/
def handled (o : Observer) (a : SocketAddr) (v : World Connection) : Event → Core
  | .serverInvalidProtocol _ => (held o [] a v).set a none
  | _ => held o [] a v

/-- The connection has handled a datagram. -/
def Handled (sys : System) (s₀ : Core) (o : Observer) (a : SocketAddr) (out : Option Event)
    (v : World Connection) : Prop :=
  match out with
  | none => Held sys s₀ o [] a v
  | some e => Returned sys s₀ e (handled o a v e)

/-- A packet with another header is no reply with information. -/
theorem not_info_reply {header data : Bytes} (hp : header.isPrefixOf data = true)
    (hd : ¬ header <+: GetServerInfoResponse.header ∧ ¬ GetServerInfoResponse.header <+: header) :
    (∀ r, GetServerInfoResponse.decode data ≠ .ok r) ∧
      GetServerInfoResponse.decode data ≠ .error .invalidProtocolVersion := by
  obtain ⟨e, he⟩ : ∃ e, GetServerInfoResponse.decode data = .error (.cursorError e) :=
    run_of_not_isPrefixOf _ (not_isPrefixOf hd hp)
  rw [he]
  exact ⟨fun r => by simp, by simp⟩

section Handled

variable {sys : System} {s₀ : Core} {o : Observer} {a : SocketAddr} {c : Connection}
  {data : Bytes} {tr : List Action}

/-- A datagram that changes nothing but the challenge and the players. -/
theorem held_packet (h : Held sys s₀ o [] a ⟨c, tr⟩) (hs : (held o [] a ⟨c, tr⟩).Hands a c)
    (hdata : (∀ r, GetServerInfoResponse.decode data ≠ .ok r) ∧
      GetServerInfoResponse.decode data ≠ .error .invalidProtocolVersion)
    {c' : Connection} (hc : c.SameInfo c') {out : Option Event}
    (hout : out = none ∨ (∃ r, out = some (.serverPlayers c.address r)) ∨
      out = some (.serverInvalidPacket c.address data)) :
    Handled sys s₀ o a out ⟨c', tr ++ [.recv a data] ++ [.handed a data]⟩ := by
  have hmove := @Move.packet sys _ a c c' data out hs hdata.1 hdata.2 hc hout
  have hset : ((held o [] a ⟨c, tr⟩).record [.recv a data, .handed a data]).set a (some c') =
      held o [] a ⟨c', tr ++ [.recv a data] ++ [.handed a data]⟩ := by
    rw [List.append_assoc]
    exact held_set o [] a ⟨c, tr ++ [.recv a data, .handed a data]⟩ c'
  rw [hset] at hmove
  rcases hout with rfl | ⟨r, rfl⟩ | rfl
  · exact h.tail hmove
  · exact ⟨_, h, hmove⟩
  · exact ⟨_, h, hmove⟩

open Prog in
/-- A reply with information is an event. -/
theorem triple_handleInfo_ok (h : Held sys s₀ o [] a ⟨c, tr⟩)
    (hs : (held o [] a ⟨c, tr⟩).Hands a c) {response : GetServerInfoResponse}
    (hd : GetServerInfoResponse.decode data = .ok response) :
    Triple (· = ⟨c, tr ++ [.recv a data] ++ [.handed a data]⟩) (Connection.handleInfo sys data)
      (Handled sys s₀ o a) (OnIo (Held sys s₀ o [] a)) := by
  unfold Connection.handleInfo
  rw [hd]
  dsimp only
  refine Triple.bind (Q := fun now w => w = ⟨c, tr ++ [.recv a data, .handed a data, .now]⟩)
    (triple_now ?_) fun now => ?_
  · rintro w rfl
    simp
  refine Triple.bind (Q := fun _ w => w = ⟨{ c with responseTime := now },
    tr ++ [.recv a data, .handed a data, .now]⟩) (triple_modifyState ?_) fun _ => ?_
  · rintro w rfl
    rfl
  refine Triple.bind (Q := fun c' w => w = ⟨{ c with responseTime := now },
    tr ++ [.recv a data, .handed a data, .now]⟩ ∧ c' = { c with responseTime := now })
    (triple_getState ?_) fun c' => ?_
  · rintro w rfl
    exact ⟨rfl, rfl⟩
  -- whether the reply is new does not matter
  have hraw : (c'.updateRawInfo data).2.address = c'.address ∧
      (c'.updateRawInfo data).2.state = .idle := by
    unfold Connection.updateRawInfo
    split_ifs <;> exact ⟨rfl, rfl⟩
  refine Triple.bind (Q := fun _ w => w = ⟨(c'.updateRawInfo data).2,
    tr ++ [.recv a data, .handed a data, .now]⟩ ∧ c'.address = c.address)
    (triple_modifyState ?_) fun _ => Triple.pure ?_
  · rintro w ⟨rfl, rfl⟩
    exact ⟨rfl, rfl⟩
  · rintro w ⟨rfl, hc⟩
    refine ⟨_, h, ?_⟩
    have hmove := @Move.info sys _ a c (c'.updateRawInfo data).2 data
      ⟨c'.address, c'.ping, (c'.updateRawInfo data).1, response⟩ hs hd (hraw.1.trans hc) hraw.2
    have hset := held_set o [] a ⟨c, tr ++ [.recv a data, .handed a data, .now]⟩
      (c'.updateRawInfo data).2
    show Move sys _ (some (.serverInfo _)) (held o [] a ⟨(c'.updateRawInfo data).2, _⟩)
    rw [← hset]
    exact hmove

open Prog in
/-- A server of another protocol is asked once more, or given up. -/
theorem triple_handleInfo_version (h : Held sys s₀ o [] a ⟨c, tr⟩)
    (hs : (held o [] a ⟨c, tr⟩).Hands a c)
    (hd : GetServerInfoResponse.decode data = .error .invalidProtocolVersion) :
    Triple (· = ⟨c, tr ++ [.recv a data] ++ [.handed a data]⟩) (Connection.handleInfo sys data)
      (Handled sys s₀ o a) (OnIo (Held sys s₀ o [] a)) := by
  unfold Connection.handleInfo
  rw [hd]
  refine Triple.bind (Q := fun c' w =>
    w = ⟨c, tr ++ [.recv a data] ++ [.handed a data]⟩ ∧ c' = c) (triple_getState ?_) fun c' => ?_
  · rintro w rfl
    exact ⟨rfl, rfl⟩
  refine Triple.of_state ?_
  rintro w ⟨rfl, rfl⟩
  split_ifs with hv
  · refine Triple.bind (Q := fun _ => Held sys s₀ o [] a) (triple_modifyState ?_) fun _ => ?_
    · rintro w rfl
      refine h.tail ?_
      have hmove := @Move.legacy sys _ a c' data hs hd hv.1 hv.2
      have hset := held_set o [] a ⟨c', tr ++ [.recv a data, .handed a data]⟩
        c'.setLegacyProtocol
      rw [List.append_assoc]
      exact hset ▸ hmove
    · exact Triple.bind (triple_query (Or.inl rfl) 512) fun _ => Triple.pure fun w hw => hw
  · refine Triple.pure ?_
    rintro w rfl
    refine ⟨_, h, ?_⟩
    have hmove := @Move.invalidProtocol sys _ a c' data hs hd hv
    have hset : (held o [] a ⟨c', tr ++ [.recv a data] ++ [.handed a data]⟩).set a none =
        ((held o [] a ⟨c', tr⟩).record [.recv a data, .handed a data]).set a none := by
      rw [List.append_assoc]
      rfl
    show Move sys _ _ ((held o [] a ⟨c', tr ++ [.recv a data] ++ [.handed a data]⟩).set a none)
    rw [hset]
    exact hmove

open Prog in
/-- A datagram that is no reply is an event and changes nothing. -/
theorem triple_invalidPacket (h : Held sys s₀ o [] a ⟨c, tr⟩)
    (hs : (held o [] a ⟨c, tr⟩).Hands a c)
    (hdata : (∀ r, GetServerInfoResponse.decode data ≠ .ok r) ∧
      GetServerInfoResponse.decode data ≠ .error .invalidProtocolVersion) :
    Triple (· = ⟨c, tr ++ [.recv a data] ++ [.handed a data]⟩)
      (do
        let c ← getState
        return some (.serverInvalidPacket c.address data))
      (Handled sys s₀ o a) (OnIo (Held sys s₀ o [] a)) := by
  refine Triple.bind (Q := fun c' w => w = ⟨c, tr ++ [.recv a data] ++ [.handed a data]⟩ ∧
    c' = c) (triple_getState ?_) fun c' => Triple.pure ?_
  · rintro w rfl
    exact ⟨rfl, rfl⟩
  · rintro w ⟨rfl, rfl⟩
    have hsame : c'.SameInfo c' := rfl
    exact held_packet h hs hdata hsame (Or.inr (Or.inr rfl))

open Prog in
theorem triple_handleInfo (h : Held sys s₀ o [] a ⟨c, tr⟩)
    (hs : (held o [] a ⟨c, tr⟩).Hands a c) :
    Triple (· = ⟨c, tr ++ [.recv a data] ++ [.handed a data]⟩) (Connection.handleInfo sys data)
      (Handled sys s₀ o a) (OnIo (Held sys s₀ o [] a)) := by
  cases hd : GetServerInfoResponse.decode data with
  | ok response => exact triple_handleInfo_ok h hs hd
  | error e =>
    by_cases he : e = .invalidProtocolVersion
    · subst he
      exact triple_handleInfo_version h hs hd
    · have hdata : (∀ r, GetServerInfoResponse.decode data ≠ .ok r) ∧
          GetServerInfoResponse.decode data ≠ .error .invalidProtocolVersion := by
        rw [hd]
        exact ⟨fun r => by simp, by simpa using he⟩
      unfold Connection.handleInfo
      rw [hd]
      cases e with
      | invalidProtocolVersion => exact absurd rfl he
      | _ => exact triple_invalidPacket h hs hdata

open Prog in
theorem triple_handlePacket_connection (h : Held sys s₀ o [] a ⟨c, tr⟩)
    (hs : (held o [] a ⟨c, tr⟩).Hands a c) :
    Triple (· = ⟨c, tr ++ [.recv a data] ++ [.handed a data]⟩) (Connection.handlePacket sys data)
      (Handled sys s₀ o a) (OnIo (Held sys s₀ o [] a)) := by
  have hsame : c.SameInfo c := rfl
  unfold Connection.handlePacket
  cases hd : GetChallengeResponse.decode data with
  | ok response =>
    dsimp only
    have hdata := not_info_reply (isPrefixOf_of_run hd) (by decide +kernel)
    refine Triple.bind (Q := fun _ => Held sys s₀ o [] a) (triple_modifyState ?_) fun _ => ?_
    · rintro w rfl
      have hset : c.SameInfo { c with challenge := some response.challenge } := rfl
      exact held_packet h hs hdata hset (Or.inl rfl)
    refine Triple.bind (Q := fun _ => Held sys s₀ o [] a) (triple_getState fun w hw => hw)
      fun c' => ?_
    refine Triple.bind (Q := fun _ => Held sys s₀ o [] a)
      (triple_when (fun _ => triple_queryPlayers 32) fun _ w hw => hw) fun _ => ?_
    exact Triple.pure fun w hw => hw
  | error e =>
    dsimp only
    by_cases h2 : GetServerInfo2Response.header.isPrefixOf data = true
    · rw [if_pos h2]
      refine Triple.pure ?_
      rintro w rfl
      exact held_packet h hs (not_info_reply h2 (by decide +kernel)) hsame (Or.inl rfl)
    rw [if_neg h2]
    by_cases hold : GetServerInfo2ResponseOld.header.isPrefixOf data = true
    · rw [if_pos hold]
      refine Triple.pure ?_
      rintro w rfl
      exact held_packet h hs (not_info_reply hold (by decide +kernel)) hsame (Or.inl rfl)
    rw [if_neg hold]
    cases hp : GetPlayersResponse.decode data with
    | error e => exact triple_handleInfo h hs
    | ok response =>
      have hdata := not_info_reply (isPrefixOf_of_run hp) (by decide +kernel)
      refine Triple.bind (Q := fun c' w => w = ⟨c, tr ++ [.recv a data] ++ [.handed a data]⟩ ∧
        c' = c) (triple_getState ?_) fun c' => Triple.of_state ?_
      · rintro w rfl
        exact ⟨rfl, rfl⟩
      rintro w ⟨rfl, rfl⟩
      split_ifs with hw
      · refine Triple.pure ?_
        rintro w rfl
        exact held_packet h hs hdata hsame (Or.inl rfl)
      · refine Triple.bind (Q := fun _ w => w = ⟨{ c' with waitPlayers := false },
          tr ++ [.recv a data] ++ [.handed a data]⟩) (triple_modifyState ?_)
          fun _ => Triple.pure ?_
        · rintro w rfl
          rfl
        · rintro w rfl
          have hset : c'.SameInfo { c' with waitPlayers := false } := rfl
          exact held_packet h hs hdata hset (Or.inr (Or.inl ⟨response, rfl⟩))

end Handled

/-! ## Programs of the observer -/

/-- The observer got here by moves. -/
def Reached (sys : System) (s₀ : Core) (w : World Observer) : Prop := Moves sys s₀ (core w)

theorem core_insert (o : Observer) (a : SocketAddr) (v : World Connection) :
    core ⟨{ o with connections := o.connections.insert a v.state }, v.trace⟩ =
      held o o.pending a v := by
  have hlookup : (o.connections.insert a v.state).lookup =
      Function.update o.connections.lookup a (some v.state) := by
    funext b
    by_cases hb : b = a
    · subst hb
      rw [Function.update_self, AList.lookup_insert]
    · rw [Function.update_of_ne hb, AList.lookup_insert_ne hb]
  show Core.mk _ (o.connections.insert a v.state).lookup _ _ _ = _
  rw [hlookup]
  rfl

theorem lookup_erase_eq (o : Observer) (a : SocketAddr) :
    (o.connections.erase a).lookup = Function.update o.connections.lookup a none := by
  funext b
  by_cases hb : b = a
  · subst hb
    rw [Function.update_self, AList.lookup_erase]
  · rw [Function.update_of_ne hb, AList.lookup_erase_ne hb]

/-- Nothing has been done to a connection yet. -/
theorem held_self {o : Observer} {a : SocketAddr} {c : Connection}
    (h : o.connections.lookup a = some c) (P : List Pending) (tr : List Action) :
    held o P a ⟨c, tr⟩ = { core ⟨o, tr⟩ with pending := P } := by
  unfold held
  rw [← h, Function.update_eq_self]
  rfl

section Programs

variable {sys : System} {s₀ : Core}

theorem Reached.plain {w : World Observer} (h : Reached sys s₀ w) {x : Action}
    (hx : x.isPlain = true) : Reached sys s₀ { w with trace := w.trace ++ [x] } :=
  h.tail (Move.plain _ x hx)

/-! ### Queries to masters -/

open Prog in
/-- A master gets a new key, with which the packet is made. -/
theorem triple_encode (m : Master) (tr : List Action) (filter : Bytes) (cap : ℕ) :
    Triple (· = ⟨m, tr⟩) (Master.encodeQueryServersPacket sys filter cap)
      (fun packet v => (∃ key, v = ⟨{ m with key }, tr ++ [.draw m.addr key]⟩) ∧
        QueryServers.header.isPrefixOf packet = true)
      (fun e v => e = .panic ∧ ∃ key, v = ⟨{ m with key }, tr ++ [.draw m.addr key]⟩) := by
  unfold Master.encodeQueryServersPacket
  refine Triple.bind (Q := fun m' w => w = ⟨m, tr⟩ ∧ m' = m) (triple_getState ?_) fun m' => ?_
  · rintro w rfl
    exact ⟨rfl, rfl⟩
  refine Triple.bind (Q := fun key w => w = ⟨m, tr ++ [.draw m.addr key]⟩) (triple_random ?_)
    fun key => ?_
  · rintro w key ⟨rfl, rfl⟩
    rfl
  refine Triple.bind (Q := fun _ w => w = ⟨{ m with key }, tr ++ [.draw m.addr key]⟩)
    (triple_modifyState ?_) fun _ => triple_unwrap ?_ ?_
  · rintro w rfl
    rfl
  · rintro w packet hpacket rfl
    exact ⟨⟨key, rfl⟩, QueryServers.header_of_encode hpacket⟩
  · rintro w rfl
    exact ⟨rfl, key, rfl⟩

open Prog in
theorem triple_onMaster {α : Type} {P : World Observer → Prop} {i : ℕ} {m : Master}
    {p : Prog Master α} {Q : α → World Observer → Prop} {E : Stop → World Observer → Prop}
    (hm : ∀ w, P w → w.state.masters[i]? = some m)
    (h : ∀ w, P w → Triple (· = ⟨m, w.trace⟩) p
      (fun x v => Q x ⟨{ w.state with masters := w.state.masters.set i v.state }, v.trace⟩)
      (fun e v => E e ⟨{ w.state with masters := w.state.masters.set i v.state }, v.trace⟩)) :
    Triple P (onMaster i m p) Q E := by
  refine Triple.zoom fun w hw => ?_
  have hget : w.state.masters.getD i m = m := by
    rw [List.getD_eq_getElem?_getD, hm w hw]
    rfl
  show Triple (· = (⟨w.state.masters.getD i m, w.trace⟩ : World Master)) p _ _
  rw [hget]
  exact h w hw

open Prog in
theorem triple_onConnection {α : Type} {P : World Observer → Prop} {a : SocketAddr}
    {c : Connection} {p : Prog Connection α} {Q : α → World Observer → Prop}
    {E : Stop → World Observer → Prop}
    (hc : ∀ w, P w → w.state.connections.lookup a = some c)
    (h : ∀ w, P w → Triple (· = ⟨c, w.trace⟩) p
      (fun x v => Q x ⟨{ w.state with connections := w.state.connections.insert a v.state }, v.trace⟩)
      (fun e v => E e
        ⟨{ w.state with connections := w.state.connections.insert a v.state }, v.trace⟩)) :
    Triple P (onConnection a c p) Q E := by
  refine Triple.zoom fun w hw => ?_
  have hget : (w.state.connections.lookup a).getD c = c := by
    rw [hc w hw]
    rfl
  show Triple (· = (⟨(w.state.connections.lookup a).getD c, w.trace⟩ : World Connection)) p _ _
  rw [hget]
  exact h w hw

/-- No event is queued, and the reading `t` of the clock was made before. -/
structure Calm (sys : System) (t : ℕ) (w : World Observer) : Prop where
  events : w.state.delayedEvents = []
  time : t ≤ sys.clock w.trace.length

theorem Calm.grow {t : ℕ} {w w' : World Observer} (h : Calm sys t w)
    (hevents : w'.state.delayedEvents = w.state.delayedEvents)
    (hlen : w.trace.length ≤ w'.trace.length) : Calm sys t w' :=
  ⟨hevents.trans h.events, h.time.trans (sys.clock_mono hlen)⟩

open Prog in
theorem triple_queryServersFromMaster (t i : ℕ) :
    Triple (fun w => Reached sys s₀ w ∧ Calm sys t w) (queryServersFromMaster sys i)
      (fun _ w => Reached sys s₀ w ∧ Calm sys t w) (OnIo (Reached sys s₀)) := by
  unfold queryServersFromMaster
  refine Triple.bind (Q := fun o w => (Reached sys s₀ w ∧ Calm sys t w) ∧ o = w.state)
    (triple_getState fun w hw => ⟨hw, rfl⟩) fun o => ?_
  cases hm : o.masters[i]? with
  | none => exact Triple.pure fun w hw => hw.1
  | some m =>
    dsimp only
    refine Triple.bind (Q := fun packet w => (Reached sys s₀ w ∧ Calm sys t w) ∧
      GetServerInfo.header.isPrefixOf packet = false) (triple_onMaster ?_ ?_) fun packet => ?_
    · rintro w ⟨-, rfl⟩
      exact hm
    · rintro w ⟨⟨hw, hcalm⟩, rfl⟩
      refine (triple_encode m w.trace _ _).conseq (fun _ h => h) ?_ ?_
      · rintro packet _ ⟨⟨key, rfl⟩, hpacket⟩
        exact ⟨⟨hw.tail (Move.draw (core w) i m hm key), hcalm.grow rfl (by simp)⟩,
          QueryServers.not_info hpacket⟩
      · rintro _ _ ⟨rfl, -⟩ ⟨⟩
    · refine triple_when (fun _ => triple_sendTo ?_ ?_) fun _ w hw => hw.1
      · rintro w ⟨⟨hw, hcalm⟩, hpacket⟩
        exact ⟨hw.plain (by simp [Action.isPlain, hpacket]), hcalm.grow rfl (by simp)⟩
      · rintro w ⟨⟨hw, -⟩, hpacket⟩ -
        exact hw.plain (by simp [Action.isPlain, hpacket])

open Prog in
theorem triple_queryServersFromMasters (t : ℕ) :
    Triple (fun w => Reached sys s₀ w ∧ Calm sys t w) (queryServersFromMasters sys)
      (fun _ w => Reached sys s₀ w ∧ Calm sys t w) (OnIo (Reached sys s₀)) := by
  unfold queryServersFromMasters
  refine Triple.bind (Q := fun _ w => Reached sys s₀ w ∧ Calm sys t w)
    (triple_getState fun w hw => hw) fun o => ?_
  exact Triple.forM (I := fun _ w => Reached sys s₀ w ∧ Calm sys t w)
    (fun i _ => triple_queryServersFromMaster t i) _

/-! ### Queries to servers -/

open Prog in
/-- A connection is queried, as the pending entry that was just taken or otherwise. -/
theorem triple_queryConnection (P ps : List Pending) {a : SocketAddr} {c : Connection}
    (hP : P = ps ∨ P = ps ++ [.server a]) :
    Triple (fun w => Moves sys s₀ { core w with pending := P } ∧ w.state.pending = ps ∧
        w.state.connections.lookup a = some c)
      (onConnection a c (Connection.query sys bufferLen))
      (fun _ w => Reached sys s₀ w ∧ w.state.pending = ps) (OnIo (Reached sys s₀)) := by
  refine triple_onConnection (fun w hw => hw.2.2) ?_
  rintro w ⟨hw, rfl, hc⟩
  have hquery : Triple (Held sys s₀ w.state P a) (Connection.query sys bufferLen)
      (fun _ => Held sys s₀ w.state w.state.pending a)
      (OnIo (Held sys s₀ w.state w.state.pending a)) := triple_query hP bufferLen
  refine hquery.conseq ?_ ?_ ?_
  · rintro _ rfl
    unfold Held
    rw [held_self hc]
    exact hw
  · intro _ v hv
    refine ⟨?_, rfl⟩
    unfold Reached
    rw [core_insert]
    exact hv
  · intro e v hv he
    unfold Reached
    rw [core_insert]
    exact hv he

/-- The trace grew without a datagram or a tick, and the connection had no response. -/
def Quiet (c : Connection) (tr : List Action) (v : World Connection) : Prop :=
  v.state.responseTime = c.responseTime ∧
    ∃ ext, v.trace = tr ++ ext ∧ ∀ x ∈ ext, x.isRecv = false ∧ x.isTick = false

theorem Quiet.act {c : Connection} {tr : List Action} {v : World Connection} (h : Quiet c tr v)
    {x : Action} (hx : x.isRecv = false ∧ x.isTick = false) :
    Quiet c tr { v with trace := v.trace ++ [x] } := by
  obtain ⟨hr, ext, he, hext⟩ := h
  refine ⟨hr, ext ++ [x], ?_, ?_⟩
  · rw [he, List.append_assoc]
  · intro y hy
    rcases List.mem_append.1 hy with hy | hy
    · exact hext y hy
    · rw [List.mem_singleton.1 hy]
      exact hx

theorem quiet_query (c : Connection) (tr : List Action) (cap : ℕ) :
    Triple (Quiet c tr) (Connection.query sys cap) (fun _ => Quiet c tr) fun _ => Quiet c tr :=
  triple_query_kept (fun _ h => h.act ⟨rfl, rfl⟩) (fun _ _ h => h) (fun _ h => h)
    (fun _ _ _ h => h.act ⟨rfl, rfl⟩) cap

/-! ### Pending queries -/

/-- A pending entry has just been taken. -/
def Popped (sys : System) (s₀ : Core) (p : Pending) (ps : List Pending) (w : World Observer) :
    Prop := Moves sys s₀ { core w with pending := ps ++ [p] } ∧ w.state.pending = ps

open Prog in
theorem triple_queryPending (p : Pending) (ps : List Pending) :
    Triple (Popped sys s₀ p ps) (queryPending sys p)
      (fun _ w => Reached sys s₀ w ∧ w.state.pending = ps) (OnIo (Reached sys s₀)) := by
  cases p with
  | master a =>
    unfold queryPending
    refine Triple.bind (Q := fun o w => Popped sys s₀ (.master a) ps w ∧ o = w.state)
      (triple_getState fun w hw => ⟨hw, rfl⟩) fun o => ?_
    cases hi : o.masters.findIdx? (·.addr == a) with
    | none =>
      refine Triple.pure ?_
      rintro w ⟨⟨hw, rfl⟩, rfl⟩
      refine ⟨hw.tail (Move.dropMaster _ w.state.pending a rfl ?_), rfl⟩
      intro m hm
      simpa using List.findIdx?_eq_none_iff.1 hi m hm
    | some i =>
      obtain ⟨hlt, ha, -⟩ := List.findIdx?_eq_some_iff_getElem.1 hi
      have hm : o.masters[i]? = some o.masters[i] := List.getElem?_eq_getElem hlt
      generalize o.masters[i] = m at hm ha
      obtain rfl : m.addr = a := by simpa using ha
      rw [Option.bind_some, hm]
      dsimp only [Option.map_some]
      refine Triple.bind (Q := fun packet w => (Reached sys s₀ w ∧ w.state.pending = ps) ∧
        GetServerInfo.header.isPrefixOf packet = false) (triple_onMaster ?_ ?_) fun packet => ?_
      · rintro w ⟨-, rfl⟩
        exact hm
      · rintro w ⟨⟨hw, rfl⟩, rfl⟩
        refine (triple_encode m w.trace _ _).conseq (fun _ h => h) ?_ ?_
        · rintro packet _ ⟨⟨key, rfl⟩, hpacket⟩
          exact ⟨⟨hw.tail (Move.takeMaster _ w.state.pending i m hm rfl key), rfl⟩,
            QueryServers.not_info hpacket⟩
        · rintro _ _ ⟨rfl, -⟩ ⟨⟩
      · refine triple_sendTo ?_ ?_
        · rintro w ⟨⟨hw, hps⟩, hpacket⟩
          exact ⟨hw.plain (by simp [Action.isPlain, hpacket]), hps⟩
        · rintro w ⟨⟨hw, -⟩, hpacket⟩ -
          exact hw.plain (by simp [Action.isPlain, hpacket])
  | server a =>
    unfold queryPending
    refine Triple.bind (Q := fun o w => Popped sys s₀ (.server a) ps w ∧ o = w.state)
      (triple_getState fun w hw => ⟨hw, rfl⟩) fun o => ?_
    cases hc : o.connections.lookup a with
    | none =>
      refine Triple.pure ?_
      rintro w ⟨⟨hw, rfl⟩, rfl⟩
      exact ⟨hw.tail (Move.dropServer _ w.state.pending a rfl hc), rfl⟩
    | some c =>
      refine (triple_queryConnection _ ps (Or.inr rfl)).pre ?_
      rintro w ⟨⟨hw, hps⟩, rfl⟩
      exact ⟨hw, hps, hc⟩

theorem popLast_eq_none {α : Type} {l : List α} (h : popLast l = none) : l = [] := by
  unfold popLast at h
  simpa using h

theorem popLast_eq_some {α : Type} {l : List α} {r : α × List α} (h : popLast l = some r) :
    l = r.2 ++ [r.1] := by
  obtain ⟨x, hx, rfl⟩ := Option.map_eq_some_iff.1 h
  exact (List.dropLast_append_getLast? x hx).symm

open Prog in
theorem triple_popPending (ps : List Pending) :
    Triple (fun w => Reached sys s₀ w ∧ w.state.pending = ps) popPending
      (fun r w => match r with
        | none => Reached sys s₀ w ∧ w.state.pending = [] ∧ ps = []
        | some p => ∃ ps', ps = ps' ++ [p] ∧ Popped sys s₀ p ps' w) fun _ _ => False := by
  rintro w ⟨hw, rfl⟩
  unfold popPending
  cases hp : popLast w.state.pending with
  | none => exact ⟨hw, popLast_eq_none hp, popLast_eq_none hp⟩
  | some r =>
    refine ⟨r.2, popLast_eq_some hp, ?_, rfl⟩
    rw [← popLast_eq_some hp]
    exact hw

/-- As many turns as there are entries leave none. -/
theorem triple_processPendingLoop (n : ℕ) :
    ∀ ps : List Pending, ps.length < n →
      Triple (fun w => Reached sys s₀ w ∧ w.state.pending = ps) (processPendingLoop sys n)
        (fun _ w => Reached sys s₀ w ∧ w.state.pending = []) (OnIo (Reached sys s₀)) := by
  induction n with
  | zero => exact fun ps h => absurd h (Nat.not_lt_zero _)
  | succ n ih =>
    intro ps hlen
    rw [processPendingLoop]
    refine Triple.bind ((triple_popPending ps).conseq (fun _ h => h) (fun _ _ h => h)
      fun _ _ h => h.elim) fun r => ?_
    cases r with
    | none => exact Triple.pure fun w hw => ⟨hw.1, hw.2.1⟩
    | some p =>
      refine Triple.of_state ?_
      rintro w ⟨ps', rfl, hw⟩
      refine (Triple.bind (triple_queryPending p ps') fun _ => ih ps' ?_).pre ?_
      · rw [List.length_append, List.length_singleton] at hlen
        omega
      · rintro _ rfl
        exact hw

open Prog in
theorem triple_processPending :
    Triple (Reached sys s₀) (processPending sys)
      (fun _ w => Reached sys s₀ w ∧ w.state.pending = []) (OnIo (Reached sys s₀)) := by
  unfold processPending
  refine Triple.bind (Q := fun o w => Reached sys s₀ w ∧ w.state.pending = o.pending)
    (triple_getState fun w hw => ⟨hw, rfl⟩) fun o => ?_
  exact triple_processPendingLoop _ o.pending (Nat.lt_succ_self _)

/-! ### Tasks -/

/-- The timeouts that are queued are of connections that are valid at `t`. -/
def Fresh (t : ℕ) (w : World Observer) : Prop :=
  ∀ a, .serverTimeout a ∈ w.state.delayedEvents →
    ∃ c, w.state.connections.lookup a = some c ∧ c.isValid t = true

theorem isValid_of_le {c : Connection} {t t' : ℕ} (ht : t ≤ t') (h : c.isValid t' = true) :
    c.isValid t = true := by
  unfold Connection.isValid at *
  rw [decide_eq_true_eq] at *
  omega

/-- A tick at the reading `now` goes through the connections; those of `l` are still to come. -/
structure Ticking (sys : System) (s₀ : Core) (t now : ℕ)
    (connections : List (SocketAddr × Connection)) (pending : List Pending)
    (l : List SocketAddr) (w : World Observer) : Prop where
  reached : Reached sys s₀ w
  pending_eq : w.state.pending = pending
  fresh : Fresh t w
  tick : ∃ u v, w.trace = u ++ .infoTick now connections pending :: v ∧
    ∀ x ∈ v, x.isRecv = false ∧ x.isTick = false
  reading : ∃ n < w.trace.length, now = sys.clock n
  later : t ≤ now
  nodup : l.Nodup
  rest : ∀ a ∈ l, ∀ c, w.state.connections.lookup a = some c → (a, c) ∈ connections

section Tick

variable {t now : ℕ} {connections : List (SocketAddr × Connection)} {pending : List Pending}
  {l : List SocketAddr} {a : SocketAddr} {c : Connection} {w : World Observer}

/-- A connection is passed over. -/
theorem Ticking.skip (h : Ticking sys s₀ t now connections pending (a :: l) w) :
    Ticking sys s₀ t now connections pending l w :=
  { h with nodup := h.nodup.of_cons, rest := fun b hb => h.rest b (List.mem_cons_of_mem _ hb) }

/-- A connection that is not idle is reported. -/
theorem Ticking.report (h : Ticking sys s₀ t now connections pending (a :: l) w)
    (hc : w.state.connections.lookup a = some c) (hvalid : c.isValid now = true)
    (hp : Pending.server a ∉ pending) (hstate : c.state ≠ .idle) :
    Ticking sys s₀ t now connections pending (a :: l)
      { w with state := { w.state with
        delayedEvents := w.state.delayedEvents ++ [.serverTimeout a] } } := by
  obtain ⟨u, v, htrace, hv⟩ := h.tick
  refine { h with reached := h.reached.tail (Move.report (core w) a c hc hstate ?_), fresh := ?_ }
  · exact ⟨u, now, connections, pending, v, htrace, h.rest a List.mem_cons_self c hc, hvalid, hp,
      h.reading, hv⟩
  · intro b hb
    rcases List.mem_append.1 hb with hb | hb
    · exact h.fresh b hb
    · cases List.mem_singleton.1 hb
      exact ⟨c, hc, isValid_of_le h.later hvalid⟩

open Prog in
/-- A connection is queried. -/
theorem triple_ticking_query : Triple
    (fun w => Ticking sys s₀ t now connections pending (a :: l) w ∧
      w.state.connections.lookup a = some c)
    (onConnection a c (Connection.query sys bufferLen))
    (fun _ => Ticking sys s₀ t now connections pending l) (OnIo (Reached sys s₀)) := by
  refine Triple.of_state ?_
  rintro w ⟨h, hc⟩
  have hquiet : Triple (· = w) (onConnection a c (Connection.query sys bufferLen))
      (fun _ w' => ∃ v, Quiet c w.trace v ∧
        w' = ⟨{ w.state with connections := w.state.connections.insert a v.state }, v.trace⟩)
      fun _ _ => True := by
    refine triple_onConnection ?_ ?_
    · rintro _ rfl
      exact hc
    · intro w' hw'
      rw [hw']
      refine (quiet_query c w.trace bufferLen).conseq ?_ ?_ fun _ _ _ => trivial
      · rintro _ rfl
        exact ⟨rfl, [], by simp, by simp⟩
      · exact fun _ v hv => ⟨v, hv, rfl⟩
  refine ((triple_queryConnection _ w.state.pending (Or.inl rfl)).and hquiet).conseq ?_ ?_
    fun e w' he => he.1
  · rintro _ rfl
    exact ⟨⟨h.reached, rfl, hc⟩, rfl⟩
  · rintro _ w' ⟨⟨hreached, -⟩, v, ⟨hresponse, ext, htrace, hext⟩, rfl⟩
    have hlookup : ∀ b, b ≠ a → (w.state.connections.insert a v.state).lookup b =
        w.state.connections.lookup b := fun b hb => AList.lookup_insert_ne hb
    refine ⟨hreached, h.pending_eq, ?_, ?_, ?_, h.later, h.nodup.of_cons, ?_⟩
    · intro b hb
      obtain ⟨c', hc', hvalid⟩ := h.fresh b hb
      by_cases hba : b = a
      · subst hba
        cases hc.symm.trans hc'
        refine ⟨v.state, AList.lookup_insert _, ?_⟩
        unfold Connection.isValid at hvalid ⊢
        rwa [hresponse]
      · exact ⟨c', (hlookup b hba).trans hc', hvalid⟩
    · obtain ⟨u, v', hu, hv'⟩ := h.tick
      refine ⟨u, v' ++ ext, ?_, ?_⟩
      · show v.trace = _
        rw [htrace, hu]
        simp
      · intro x hx
        exact (List.mem_append.1 hx).elim (hv' x) (hext x)
    · obtain ⟨n, hn, hnow⟩ := h.reading
      refine ⟨n, ?_, hnow⟩
      show n < v.trace.length
      rw [htrace, List.length_append]
      omega
    · intro b hb c' hc'
      have hba : b ≠ a := by
        rintro rfl
        exact (List.nodup_cons.1 h.nodup).1 hb
      exact h.rest b (List.mem_cons_of_mem _ hb) c' ((hlookup b hba).symm.trans hc')

open Prog in
theorem triple_queryInfoFromServer :
    Triple (Ticking sys s₀ t now connections pending (a :: l)) (queryInfoFromServer sys now a)
      (fun _ => Ticking sys s₀ t now connections pending l) (OnIo (Reached sys s₀)) := by
  unfold queryInfoFromServer
  refine Triple.bind (Q := fun o w => Ticking sys s₀ t now connections pending (a :: l) w ∧
    o = w.state) (triple_getState fun w hw => ⟨hw, rfl⟩) fun o => ?_
  cases hc : o.connections.lookup a with
  | none => exact Triple.pure fun w hw => hw.1.skip
  | some c =>
    dsimp only
    by_cases hvalid : (!c.isValid now) = true
    · rw [if_pos hvalid]
      exact Triple.pure fun w hw => hw.1.skip
    rw [if_neg hvalid]
    by_cases hp : o.pending.contains (.server a) = true
    · rw [if_pos hp]
      exact Triple.pure fun w hw => hw.1.skip
    rw [if_neg hp]
    refine Triple.bind (Q := fun _ w => Ticking sys s₀ t now connections pending (a :: l) w ∧
      w.state.connections.lookup a = some c) (triple_when ?_ ?_) fun _ => triple_ticking_query
    · intro hstate
      refine triple_modifyState ?_
      rintro w ⟨hw, rfl⟩
      refine ⟨hw.report hc (by simpa using hvalid) ?_ (by simpa using hstate), hc⟩
      rw [← hw.pending_eq]
      simpa using hp
    · rintro - w ⟨hw, rfl⟩
      exact ⟨hw, hc⟩

end Tick

open Prog in
theorem triple_addresses {P : World Observer → Prop} {Q : List SocketAddr → World Observer → Prop}
    {E : Stop → World Observer → Prop}
    (h : ∀ w l, P w → l.Perm w.state.connections.keys → Q l w) : Triple P (addresses sys) Q E :=
  fun w hw => h w _ hw (sys.order_perm _ _)

open Prog in
theorem triple_queryInfoFromServers (t : ℕ) :
    Triple (fun w => Reached sys s₀ w ∧ Calm sys t w) (queryInfoFromServers sys)
      (fun _ w => Reached sys s₀ w ∧ Fresh t w) (OnIo (Reached sys s₀)) := by
  unfold queryInfoFromServers
  refine Triple.of_state ?_
  rintro w ⟨hw, hcalm⟩
  set now := sys.clock w.trace.length with hnow
  set connections := w.state.connections.entries.map fun e => (e.1, e.2) with hconnections
  have hmem : ∀ a c, (a, c) ∈ connections ↔ w.state.connections.lookup a = some c := by
    intro a c
    rw [hconnections, List.mem_map, ← Option.mem_def, AList.mem_lookup_iff]
    constructor
    · rintro ⟨e, he, heq⟩
      cases heq
      exact he
    · exact fun h => ⟨⟨a, c⟩, h, rfl⟩
  refine Triple.bind (Q := fun n w' => n = now ∧ w' = ⟨w.state, w.trace ++ [.now]⟩)
    (triple_now ?_) fun n => ?_
  · rintro _ rfl
    exact ⟨rfl, rfl⟩
  refine Triple.bind (Q := fun o w' => (n = now ∧ w' = ⟨w.state, w.trace ++ [.now]⟩) ∧
    o = w.state) (triple_getState ?_) fun o => Triple.of_state ?_
  · rintro _ ⟨rfl, rfl⟩
    exact ⟨⟨rfl, rfl⟩, rfl⟩
  rintro w' ⟨⟨rfl, rfl⟩, rfl⟩
  refine Triple.bind (Q := fun _ w' => w' = ⟨w.state, w.trace ++ [.now] ++
    [.infoTick now connections w.state.pending]⟩) (triple_note ?_) fun _ => ?_
  · rintro _ rfl
    rfl
  refine Triple.bind (Q := fun l => Ticking sys s₀ t now connections w.state.pending l)
    (triple_addresses ?_) fun l => ?_
  · rintro _ l rfl hl
    have hmove := hw.tail (Move.tick (core w) connections hmem hcalm.events)
    refine ⟨?_, rfl, ?_, ⟨w.trace ++ [.now], [], rfl, by simp⟩, ⟨w.trace.length, by simp, rfl⟩,
      hcalm.time, hl.nodup_iff.2 w.state.connections.keys_nodup, fun a _ c => (hmem a c).2⟩
    · rw [List.append_assoc]
      exact hmove
    · intro a ha
      rw [hcalm.events] at ha
      cases ha
  · refine (Triple.forM (I := Ticking sys s₀ t now connections w.state.pending)
      (fun a l => triple_queryInfoFromServer) l).post ?_
    exact fun _ w hw => ⟨hw.reached, hw.fresh⟩

open Prog in
theorem triple_cleanupServer (t : ℕ) (a : SocketAddr) :
    Triple (fun w => Reached sys s₀ w ∧ Fresh t w) (cleanupServer t a)
      (fun _ w => Reached sys s₀ w ∧ Fresh t w) (OnIo (Reached sys s₀)) := by
  unfold cleanupServer
  refine Triple.of_state fun w₀ hw₀ => ?_
  refine Triple.bind (Q := fun o w => w = w₀ ∧ o = w₀.state) (triple_getState ?_) fun o => ?_
  · rintro _ rfl
    exact ⟨rfl, rfl⟩
  refine Triple.of_state ?_
  rintro w ⟨rfl, rfl⟩
  obtain ⟨hw, hfresh⟩ := hw₀
  cases hc : w.state.connections.lookup a with
  | none =>
    refine Triple.pure ?_
    rintro _ rfl
    exact ⟨hw, hfresh⟩
  | some c =>
    dsimp only
    refine triple_when (fun hvalid => ?_) fun _ => ?_
    · have hevents : .serverTimeout a ∉ w.state.delayedEvents := by
        intro ha
        obtain ⟨c', hc', hv⟩ := hfresh a ha
        cases hc.symm.trans hc'
        rw [hv] at hvalid
        cases hvalid
      refine Triple.bind (Q := fun _ w' => w' = { w with state := { w.state with
        delayedEvents := w.state.delayedEvents ++ [.serverRemove a] } })
        (triple_modifyState ?_) fun _ => ?_
      · rintro _ rfl
        rfl
      refine Triple.bind (Q := fun _ w' => w' = { w with state := { w.state with
        delayedEvents := w.state.delayedEvents ++ [.serverRemove a]
        connections := w.state.connections.erase a } }) (triple_modifyState ?_)
        fun _ => triple_note ?_
      · rintro _ rfl
        rfl
      · rintro _ rfl
        constructor
        · have hmove := @Move.cleanup sys (core w) a c hc ⟨t, by simpa using hvalid⟩ hevents
          have hcore : ((((core w).record [.cleanup a]).set a none).push (.serverRemove a)) =
              core ⟨{ w.state with
                delayedEvents := w.state.delayedEvents ++ [.serverRemove a]
                connections := w.state.connections.erase a }, w.trace ++ [.cleanup a]⟩ := by
            show _ = Core.mk _ (w.state.connections.erase a).lookup _ _ _
            rw [lookup_erase_eq]
            rfl
          unfold Reached
          rw [← hcore]
          exact hw.tail hmove
        · intro b hb
          rcases List.mem_append.1 hb with hold | hnew
          · obtain ⟨c', hc', hv⟩ := hfresh b hold
            have hba : b ≠ a := by
              rintro rfl
              exact hevents hold
            exact ⟨c', (AList.lookup_erase_ne hba).trans hc', hv⟩
          · cases List.mem_singleton.1 hnew
    · rintro _ rfl
      exact ⟨hw, hfresh⟩

open Prog in
theorem triple_cleanupServers (t : ℕ) :
    Triple (fun w => Reached sys s₀ w ∧ Fresh t w) (cleanupServers sys t)
      (fun _ w => Reached sys s₀ w ∧ Fresh t w) (OnIo (Reached sys s₀)) := by
  unfold cleanupServers
  refine Triple.bind (Q := fun _ w => Reached sys s₀ w ∧ Fresh t w)
    (triple_addresses fun w l hw _ => hw) fun l => ?_
  exact Triple.forM (I := fun _ w => Reached sys s₀ w ∧ Fresh t w)
    (fun a _ => triple_cleanupServer t a) l

open Prog in
/-- The schedule is no part of a core. -/
theorem triple_processTasks (t : ℕ) :
    Triple (fun w => Reached sys s₀ w ∧ Calm sys t w) (processTasks sys t)
      (fun _ => Reached sys s₀) (OnIo (Reached sys s₀)) := by
  have hfresh : ∀ w, Reached sys s₀ w ∧ Calm sys t w → Reached sys s₀ w ∧ Fresh t w := by
    rintro w ⟨hw, hcalm⟩
    refine ⟨hw, fun a ha => ?_⟩
    rw [hcalm.events] at ha
    cases ha
  unfold processTasks
  refine Triple.bind (Q := fun _ w => Reached sys s₀ w ∧ Calm sys t w)
    (fun w hw => ⟨hw.1, hw.2.grow rfl le_rfl⟩) fun _ => ?_
  refine Triple.bind (Q := fun _ w => Reached sys s₀ w ∧ Calm sys t w)
    (triple_when (fun _ => triple_queryServersFromMasters t) fun _ w hw => hw) fun _ => ?_
  refine Triple.bind (Q := fun _ w => Reached sys s₀ w ∧ Calm sys t w)
    (fun w hw => ⟨hw.1, hw.2.grow rfl le_rfl⟩) fun _ => ?_
  refine Triple.bind (Q := fun _ w => Reached sys s₀ w ∧ Fresh t w)
    (triple_when (fun _ => triple_queryInfoFromServers t) fun _ => hfresh) fun _ => ?_
  refine Triple.bind (Q := fun _ w => Reached sys s₀ w ∧ Fresh t w) (fun w hw => hw) fun _ => ?_
  exact triple_when (fun _ => (triple_cleanupServers t).post fun _ w hw => hw.1) fun _ w hw => hw.1

/-! ### Datagrams -/

/-- Nothing is pending or queued. -/
structure Idle (w : World Observer) : Prop where
  pending : w.state.pending = []
  events : w.state.delayedEvents = []

/-- A datagram has led to an event, or to none. -/
def Answered (sys : System) (s₀ : Core) (out : Option Event) (w : World Observer) : Prop :=
  match out with
  | none => Reached sys s₀ w ∧ Idle w
  | some e => Returned sys s₀ e (core w)

/-- A datagram was received while nothing was pending or queued, or none was. -/
def Received (sys : System) (s₀ : Core) (r : Except ErrorKind (SocketAddr × Bytes))
    (w : World Observer) : Prop :=
  match r with
  | .ok m => ∃ w₀, Reached sys s₀ w₀ ∧ Idle w₀ ∧
      w = { w₀ with trace := w₀.trace ++ [.recv m.1 m.2] }
  | .error _ => Reached sys s₀ w ∧ Idle w

section Answered

variable {sys : System} {s₀ : Core} {w₀ : World Observer} {a : SocketAddr} {c : Connection}
  {v : World Connection}

theorem Idle.held_core (hidle : Idle w₀) (hc : w₀.state.connections.lookup a = some c) :
    held w₀.state [] a ⟨c, w₀.trace⟩ = core w₀ := by
  have hself := held_self hc w₀.state.pending w₀.trace
  rw [hidle.pending] at hself
  rw [hself, ← hidle.pending]
  rfl

theorem Idle.core_insert (hidle : Idle w₀) (v : World Connection) :
    core ⟨{ w₀.state with connections := w₀.state.connections.insert a v.state }, v.trace⟩ =
      held w₀.state [] a v := by
  rw [Observer.core_insert, hidle.pending]

/-- The connection is put back after a datagram without an event. -/
theorem Idle.answered_none (hidle : Idle w₀) (hv : Handled sys s₀ w₀.state a none v) :
    Answered sys s₀ none
      ⟨{ w₀.state with connections := w₀.state.connections.insert a v.state }, v.trace⟩ := by
  refine ⟨?_, hidle.pending, hidle.events⟩
  unfold Reached
  rw [hidle.core_insert]
  exact hv

/-- The event of a connection is the one of the observer. -/
theorem Idle.answered_some (hidle : Idle w₀) {e : Event}
    (he : handled w₀.state a v e = held w₀.state [] a v)
    (hv : Handled sys s₀ w₀.state a (some e) v) :
    Answered sys s₀ (some e)
      ⟨{ w₀.state with connections := w₀.state.connections.insert a v.state }, v.trace⟩ := by
  show Returned sys s₀ e (core _)
  rw [hidle.core_insert, ← he]
  exact hv

/-- A connection to a server of another protocol is removed. -/
theorem Idle.answered_removed (hidle : Idle w₀) {b : SocketAddr}
    (hv : Handled sys s₀ w₀.state a (some (.serverInvalidProtocol b)) v) :
    Answered sys s₀ (some (.serverInvalidProtocol b))
      ⟨{ w₀.state with
        connections := (w₀.state.connections.insert a v.state).erase a }, v.trace⟩ := by
  have hset : core ⟨{ w₀.state with
      connections := (w₀.state.connections.insert a v.state).erase a }, v.trace⟩ =
      (held w₀.state [] a v).set a none := by
    rw [← hidle.core_insert]
    unfold Core.set core
    rw [← lookup_erase_eq { w₀.state with
      connections := w₀.state.connections.insert a v.state } a]
  show Returned sys s₀ _ (core _)
  rw [hset]
  exact hv

end Answered

open Prog in
theorem triple_handleServerPacket {w₀ : World Observer} {a : SocketAddr} {data : Bytes}
    (h : Reached sys s₀ w₀) (hidle : Idle w₀) (hm : ∀ m ∈ w₀.state.masters, m.addr ≠ a) :
    Triple (· = { w₀ with trace := w₀.trace ++ [.recv a data] }) (handleServerPacket sys a data)
      (Answered sys s₀) (OnIo (Reached sys s₀)) := by
  have hlistens : (core w₀).Listens := ⟨hidle.pending, hidle.events⟩
  unfold handleServerPacket
  refine Triple.bind (Q := fun o w => w = { w₀ with trace := w₀.trace ++ [.recv a data] } ∧
    o = w₀.state) (triple_getState ?_) fun o => Triple.of_state ?_
  · rintro _ rfl
    exact ⟨rfl, rfl⟩
  rintro _ ⟨rfl, rfl⟩
  cases hc : w₀.state.connections.lookup a with
  | none =>
    refine Triple.pure ?_
    rintro _ rfl
    exact ⟨h.tail (Move.stranger (core w₀) a data hlistens hm hc), hidle.pending, hidle.events⟩
  | some c =>
    have hcore := hidle.held_core hc
    have hheld : Held sys s₀ w₀.state [] a ⟨c, w₀.trace⟩ := by
      unfold Held
      rw [hcore]
      exact h
    have hhands : (held w₀.state [] a ⟨c, w₀.trace⟩).Hands a c := by
      rw [hcore]
      exact ⟨hlistens, hm, hc⟩
    refine Triple.bind (Q := fun _ w => w = { w₀ with
      trace := w₀.trace ++ [.recv a data] ++ [.handed a data] }) (triple_note ?_) fun _ => ?_
    · rintro _ rfl
      rfl
    refine Triple.bind (Q := fun out w => ∃ v, Handled sys s₀ w₀.state a out v ∧
      w = ⟨{ w₀.state with connections := w₀.state.connections.insert a v.state }, v.trace⟩)
      (triple_onConnection ?_ ?_) fun out => ?_
    · rintro _ rfl
      exact hc
    · rintro w rfl
      refine (triple_handlePacket_connection hheld hhands).conseq (fun _ h => h) ?_ ?_
      · exact fun out v hv => ⟨v, hv, rfl⟩
      · intro e v hv he
        unfold Reached
        rw [hidle.core_insert]
        exact hv he
    · cases out with
      | none =>
        refine Triple.pure ?_
        rintro _ ⟨v, hv, rfl⟩
        exact hidle.answered_none hv
      | some e =>
        cases e with
        | serverInvalidProtocol b =>
          refine Triple.bind (Q := fun _ => Answered sys s₀ (some (.serverInvalidProtocol b)))
            (triple_modifyState ?_) fun _ => Triple.pure fun w hw => hw
          rintro _ ⟨v, hv, rfl⟩
          exact hidle.answered_removed hv
        | _ =>
          refine Triple.pure ?_
          rintro _ ⟨v, hv, rfl⟩
          exact hidle.answered_some rfl hv

open Prog in
theorem triple_handlePacket {w₀ : World Observer} {a : SocketAddr} {data : Bytes}
    (h : Reached sys s₀ w₀) (hidle : Idle w₀) :
    Triple (· = { w₀ with trace := w₀.trace ++ [.recv a data] }) (handlePacket sys a data)
      (Answered sys s₀) (OnIo (Reached sys s₀)) := by
  unfold handlePacket
  refine Triple.bind (Q := fun o w => w = { w₀ with trace := w₀.trace ++ [.recv a data] } ∧
    o = w₀.state) (triple_getState ?_) fun o => Triple.of_state ?_
  · rintro _ rfl
    exact ⟨rfl, rfl⟩
  rintro _ ⟨rfl, rfl⟩
  cases hm : w₀.state.getMaster a with
  | none =>
    refine triple_handleServerPacket h hidle ?_
    intro m hmem
    simpa using List.find?_eq_none.1 hm m hmem
  | some m =>
    refine Triple.pure ?_
    rintro _ rfl
    obtain rfl : m.addr = a := by simpa using List.find?_some hm
    have hmove := @Move.masterPacket sys (core w₀) m data
      ⟨hidle.pending, hidle.events⟩ hm
    cases hout : handleMasterPacket m.addr data m.key with
    | none =>
      rw [hout] at hmove
      exact ⟨h.tail hmove, hidle.pending, hidle.events⟩
    | some e =>
      rw [hout] at hmove
      exact ⟨core w₀, h, hmove⟩

open Prog in
theorem triple_receiveLoop (deadline n : ℕ) : ∀ now : ℕ,
    Triple (fun w => Reached sys s₀ w ∧ Idle w) (receiveLoop sys deadline n now)
      (Answered sys s₀) (OnIo (Reached sys s₀)) := by
  induction n with
  | zero =>
    intro now
    refine Triple.throw ?_
    rintro w hw ⟨⟩
  | succ n ih =>
    intro now
    rw [receiveLoop]
    by_cases hlt : now < deadline
    swap
    · rw [if_neg hlt]
      exact Triple.pure fun w hw => hw
    rw [if_pos hlt]
    refine Triple.bind (Q := fun _ w => Reached sys s₀ w ∧ Idle w) (triple_setReadTimeout ?_ ?_)
      fun _ => ?_
    · exact fun w hw => ⟨hw.1.plain rfl, hw.2.pending, hw.2.events⟩
    · exact fun w hw _ => hw.1.plain rfl
    refine Triple.bind (Q := Received sys s₀) (triple_recvFrom ?_ ?_) fun r => ?_
    · exact fun w a data hw => ⟨w, hw.1, hw.2, rfl⟩
    · exact fun w kind hw => ⟨hw.1.plain rfl, hw.2.pending, hw.2.events⟩
    cases r with
    | ok r =>
      refine Triple.bind (Q := Answered sys s₀) (Triple.of_state ?_) fun out => ?_
      · rintro _ ⟨w₀, hw₀, hidle, rfl⟩
        exact triple_handlePacket hw₀ hidle
      · cases out with
        | some e => exact Triple.pure fun w hw => hw
        | none =>
          refine Triple.bind (Q := fun _ w => Reached sys s₀ w ∧ Idle w) (triple_now ?_) ih
          exact fun w hw => ⟨hw.1.plain rfl, hw.2.pending, hw.2.events⟩
    | error kind =>
      cases kind with
      | addrInUse => exact Triple.pure fun w hw => hw
      | wouldBlock => exact Triple.pure fun w hw => hw
      | other => exact Triple.throw fun w hw _ => hw.1

open Prog in
theorem triple_receive (turns : ℕ) (deadline : Option ℕ) :
    Triple (fun w => Reached sys s₀ w ∧ Idle w) (receive sys turns deadline)
      (Answered sys s₀) (OnIo (Reached sys s₀)) := by
  unfold receive
  refine Triple.bind (Q := fun _ w => Reached sys s₀ w ∧ Idle w) (triple_getState fun w hw => hw)
    fun o => ?_
  refine Triple.bind (Q := fun _ w => Reached sys s₀ w ∧ Idle w) (triple_now ?_)
    fun now => triple_receiveLoop _ turns now
  exact fun w hw => ⟨hw.1.plain rfl, hw.2.pending, hw.2.events⟩

/-! ### Waiting -/

open Prog in
theorem triple_popDelayed {E : Stop → World Observer → Prop} :
    Triple (Reached sys s₀) popDelayed (fun r w => match r with
      | none => Reached sys s₀ w ∧ w.state.delayedEvents = []
      | some e => Returned sys s₀ e.toEvent (core w)) E := by
  intro w hw
  unfold popDelayed
  cases hp : popLast w.state.delayedEvents with
  | none => exact ⟨hw, popLast_eq_none hp⟩
  | some r =>
    exact ⟨core w, hw, Move.pop (core w) r.1 r.2 (popLast_eq_some hp)⟩

open Prog in
/-- A turn of the loop of `waitEvent`, with the event it returns. -/
def waitTurn (sys : System) (deadline : Option ℕ) (turns : ℕ) : Prog Observer (Option Event) := do
  let now ← now sys
  if isOver deadline now then return some .timeout
  else do
    processTasks sys now
    processPending sys
    match ← popDelayed with
    | some e => return some e.toEvent
    | none => receive sys turns deadline

theorem waitLoop_succ (deadline : Option ℕ) (turns n : ℕ) :
    waitLoop sys deadline turns (n + 1) = waitTurn sys deadline turns >>= fun out => match out with
      | some event => pure event
      | none => waitLoop sys deadline turns n := by
  rw [waitLoop, waitTurn]
  simp only [bind_assoc]
  congr 1
  funext now
  split_ifs
  · rfl
  · simp only [bind_assoc]
    congr 1
    funext _
    congr 1
    funext _
    congr 1
    funext r
    cases r <;> rfl

/-- What a turn of the loop from `w₀` has done: it makes moves, and before it returns an event it
empties the pending queries unless it did nothing. -/
def Turned (sys : System) (s₀ : Core) (w₀ : World Observer) (out : Option Event)
    (w : World Observer) : Prop :=
  match out with
  | none => Reached sys s₀ w ∧ Idle w
  | some e => Returned sys s₀ e (core w) ∧ (w.state.pending = [] ∨ w.state = w₀.state)

open Prog in
theorem triple_waitTurn {w₀ : World Observer} (h : Reached sys s₀ w₀)
    (hevents : w₀.state.delayedEvents = []) (deadline : Option ℕ) (turns : ℕ) :
    Triple (· = w₀) (waitTurn sys deadline turns) (Turned sys s₀ w₀) (OnIo (Reached sys s₀)) := by
  unfold waitTurn
  refine Triple.bind (Q := fun now w => w = { w₀ with trace := w₀.trace ++ [.now] } ∧
    (Reached sys s₀ w ∧ Calm sys now w)) (triple_now ?_) fun now => ?_
  · rintro _ rfl
    exact ⟨rfl, h.plain rfl, hevents, sys.clock_mono (by simp)⟩
  by_cases hover : isOver deadline now = true
  · rw [if_pos hover]
    refine Triple.pure ?_
    rintro _ ⟨rfl, hw, -⟩
    exact ⟨⟨_, hw, Move.timeout _⟩, Or.inr rfl⟩
  rw [if_neg hover]
  refine Triple.bind ((triple_processTasks now).pre fun w hw => hw.2) fun _ => ?_
  refine Triple.bind triple_processPending fun _ => Triple.of_state ?_
  -- from here on nothing is pending
  rintro w ⟨hw, hpending⟩
  have hend {e : Event} {w' : World Observer} (he : Returned sys (core w) e (core w')) :
      Turned sys s₀ w₀ (some e) w' := by
    have hprefix : w'.state.pending <+: w.state.pending := he.pending_prefix
    rw [hpending] at hprefix
    exact ⟨he.trans hw, Or.inl (List.prefix_nil.1 hprefix)⟩
  have hstart : Reached sys (core w) w := Relation.ReflTransGen.refl
  refine Triple.bind (Q := fun r w' => match r with
    | none => w' = w ∧ Idle w
    | some e => Turned sys s₀ w₀ (some e.toEvent) w') ?_ fun r => ?_
  · intro w' hw'
    rw [hw', popDelayed]
    cases hp : popLast w.state.delayedEvents with
    | none => exact ⟨rfl, hpending, popLast_eq_none hp⟩
    | some r => exact hend ⟨_, hstart, Move.pop (core w) r.1 r.2 (popLast_eq_some hp)⟩
  cases r with
  | some e => exact Triple.pure fun w hw => hw
  | none =>
    have hreceive : Triple (fun w' => Reached sys (core w) w' ∧ Idle w')
        (receive sys turns deadline) (Answered sys (core w)) (OnIo (Reached sys (core w))) :=
      triple_receive turns deadline
    refine hreceive.conseq ?_ ?_ ?_
    · rintro _ ⟨rfl, hidle⟩
      exact ⟨hstart, hidle⟩
    · intro out w' hw'
      cases out with
      | none => exact ⟨Relation.ReflTransGen.trans hw hw'.1, hw'.2⟩
      | some e => exact hend hw'
    · exact fun e w' hw' he => Relation.ReflTransGen.trans hw (hw' he)

open Prog in
theorem triple_waitLoop (deadline : Option ℕ) (turns n : ℕ) :
    Triple (fun w => Reached sys s₀ w ∧ w.state.delayedEvents = [])
      (waitLoop sys deadline turns n) (fun e w => Returned sys s₀ e (core w))
      (OnIo (Reached sys s₀)) := by
  induction n with
  | zero =>
    refine Triple.throw ?_
    rintro w hw ⟨⟩
  | succ n ih =>
    rw [waitLoop_succ]
    refine Triple.of_state fun w hw => ?_
    refine Triple.bind (triple_waitTurn hw.1 hw.2 deadline turns) fun out => ?_
    cases out with
    | some e => exact Triple.pure fun w' hw' => hw'.1
    | none => exact ih.pre fun w' hw' => ⟨hw'.1, hw'.2.events⟩

open Prog in
/-- `waitEvent` makes moves, the last of which gives the event it returns. -/
theorem triple_waitEvent (turns : ℕ) (timeout : Option ℕ) :
    Triple (Reached sys s₀) (waitEvent sys turns timeout)
      (fun e w => Returned sys s₀ e (core w)) (OnIo (Reached sys s₀)) := by
  unfold waitEvent
  refine Triple.bind triple_popDelayed fun r => ?_
  cases r with
  | some e => exact Triple.pure fun w hw => hw
  | none =>
    cases timeout with
    | none => exact triple_waitLoop none turns turns
    | some t =>
      refine Triple.bind (Q := fun _ w => Reached sys s₀ w ∧ w.state.delayedEvents = [])
        (triple_after ?_ ?_) fun deadline => triple_waitLoop _ turns turns
      · exact fun w hw _ => ⟨hw.1.plain rfl, hw.2⟩
      · rintro w hw - ⟨⟩

end Programs

end Observer

end Xash3d
