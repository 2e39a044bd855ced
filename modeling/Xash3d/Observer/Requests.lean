import Xash3d.Lib.Run
import Xash3d.Observer.Filter
import Xash3d.Observer.Keys

/-!
# Requests of an observer

What an observer does to its filter and its trace is a sequence of two kinds of steps: it does
something other than to ask for a list of servers, or it draws a key and asks for a list with the
filter and this key. `Steps.waitEvent` is the rule for properties of both. By it every request for a
list is found in the trace right behind the key it was made with (`requested_run`).
-/

namespace Xash3d

open Lib

/-- The action asks for a list of servers. -/
def Action.isRequest : Action → Bool
  | send _ packet _ => QueryServers.header.isPrefixOf packet
  | _ => false

/-! ## Other packets -/

/-- A packet for a game server is encoded to bytes that do not ask for a list. -/
def IsOther (r : Except ProtocolError Bytes) : Prop :=
  ∃ out, r = .ok out ∧ QueryServers.header.isPrefixOf out = false

/-- The packets for game servers start with four bytes 255, and are short. -/
theorem isOther_of_writes {cap : ℕ} {p : Put} (header s : Bytes) (h : Writes p (header ++ s))
    (hd : header.head? = some 0xff) (hlength : header.length + s.length ≤ 32) (hcap : 32 ≤ cap) :
    IsOther (encodeTo cap p) := by
  refine ⟨header ++ s, ?_, ?_⟩
  · rw [h.run, List.length_append, if_pos (hlength.trans hcap)]
  · cases header with
    | nil => cases hd
    | cons b header =>
      cases hd
      rfl

variable {cap : ℕ}

theorem GetServerInfo.isOther (r : GetServerInfo) (hcap : 32 ≤ cap) : IsOther (r.encode cap) := by
  have hnum : (numeral 10 r.protocol.toNat).length ≤ 3 :=
    length_numeral_le (by decide) (by decide) (r.protocol.toNat_lt.trans (by decide))
  have hheader : header.length = 9 := rfl
  refine isOther_of_writes header [numeral 10 r.protocol.toNat].flatten
    ((Writes.putBytes header).seq (Writes.putAsStr _)) rfl ?_ hcap
  rw [List.flatten_singleton, hheader]
  omega

theorem GetServerInfo2.isOther (r : GetServerInfo2) (hcap : 32 ≤ cap) : IsOther (r.encode cap) := by
  unfold encode
  cases r.challenge with
  | none =>
    have hwrites := (Writes.putBytes header).seq fun c => (Writes.putBytes_nil c).symm
    exact isOther_of_writes header [] hwrites rfl (by decide) hcap
  | some challenge =>
    exact isOther_of_writes header (u32Le challenge)
      ((Writes.putBytes header).seq (Writes.putU32Le challenge)) rfl (by simp; decide) hcap

theorem GetPlayers.isOther (r : GetPlayers) (hcap : 32 ≤ cap) : IsOther (r.encode cap) :=
  isOther_of_writes header (u32Le r.challenge)
    ((Writes.putBytes header).seq (Writes.putU32Le r.challenge)) rfl (by simp; decide) hcap

theorem GetChallenge.isOther (r : GetChallenge) (hcap : 32 ≤ cap) : IsOther (r.encode cap) := by
  have hwrites : Writes (CursorMut.putBytes header) (header ++ []) := by
    rw [List.append_nil]
    exact Writes.putBytes header
  exact isOther_of_writes header [] hwrites rfl (by decide) hcap

namespace Observer

/-! ## Steps -/

/-- The packet that asks a master for a list, with a filter string and a key. -/
def encodeRequest (filter : Bytes) (key : UInt32) : Except ProtocolError Bytes :=
  (QueryServers.new (filter, key)).encodeWith
    (fun (filter, key) => [filter, ascii "\\key\\", numeral 16 key.toNat]) bufferLen

theorem encodeRequest_eq (f : Bytes) (key : UInt32) : encodeRequest f key =
    if (Master.queryWire f key).length ≤ bufferLen then .ok (Master.queryWire f key)
    else .error (.cursorError .bufferOverflow) := by
  have hflat : [f, ascii "\\key\\", numeral 16 key.toNat].flatten =
      f ++ (ascii "\\key\\" ++ numeral 16 key.toNat) := by simp
  unfold encodeRequest
  rw [Master.encode_query]
  dsimp only
  rw [hflat]
  rfl

/-- A property of the filter and the trace that every step of an observer keeps. -/
structure Steps (J : Bytes → List Action → Prop) : Prop where
  other : ∀ f t x, J f t → x.isRequest = false → J f (t ++ [x])
  request : ∀ f t a key packet ok, J f t → encodeRequest f key = .ok packet →
    J f (t ++ [.draw a key] ++ [.send a packet ok])

/-- The property holds of an observer. -/
def Obeys (J : Bytes → List Action → Prop) (w : World Observer) : Prop := J w.state.filter w.trace

/-- It holds while a connection is worked on. -/
def Serves (J : Bytes → List Action → Prop) (f : Bytes) (v : World Connection) : Prop := J f v.trace

/-- A panic means that a request for a list, with a filter that has the property, is too long. -/
structure Stops (J : Bytes → List Action → Prop) (e : Stop) : Prop where
  panic : e = .panic → ∃ f t key err, J f t ∧ encodeRequest f key = .error err
  overflow : e ≠ .overflow

theorem Stops.io {J : Bytes → List Action → Prop} : Stops J .io := ⟨by rintro ⟨⟩, by rintro ⟨⟩⟩

theorem Stops.running {J : Bytes → List Action → Prop} : Stops J .running :=
  ⟨by rintro ⟨⟩, by rintro ⟨⟩⟩

/-- The end of a wait cannot be represented. -/
def Overflows (sys : System) (timeout : Option ℕ) (w : World Observer) : Prop :=
  ∃ t, timeout = some t ∧ sys.representable (sys.clock w.trace.length + t) = false

namespace Steps

variable {J : Bytes → List Action → Prop} {sys : System} {f : Bytes}

section Primitives

variable {S : Type} {P : World S → Prop} {F : Stop → Prop}

open Prog

theorem keeps_getState : Keeps P F (getState (S := S)) := fun _ hw => hw

theorem keeps_modifyState {g : S → S} (h : ∀ w, P w → P { w with state := g w.state }) :
    Keeps P F (modifyState g) := triple_modifyState h

theorem keeps_when {b : Bool} {m : Prog S Unit} (h : Keeps P F m) : Keeps P F (when b m) :=
  triple_when (fun _ => h) fun _ _ hw => hw

theorem keeps_traceEnabled : Keeps P F (traceEnabled (S := S) sys) :=
  triple_traceEnabled fun _ _ hw => hw

/-- The property does not mind any action but requests. -/
def Open (P : World S → Prop) : Prop :=
  ∀ w x, P w → x.isRequest = false → P { w with trace := w.trace ++ [x] }

theorem keeps_now (h : Open P) : Keeps P F (now (S := S) sys) := triple_now fun w hw => h w _ hw rfl

theorem keeps_note (h : Open P) {x : Action} (hx : x.isRequest = false) : Keeps P F (note x) :=
  triple_note fun w hw => h w x hw hx

theorem keeps_setReadTimeout (h : Open P) (hF : F .io) :
    Keeps P F (Prog.setReadTimeout (S := S) sys) :=
  triple_setReadTimeout (fun w hw => h w _ hw rfl) fun w hw => ⟨h w _ hw rfl, hF⟩

theorem keeps_recvFrom (h : Open P) : Keeps P F (recvFrom (S := S) sys) :=
  triple_recvFrom (fun w _ _ hw => h w _ hw rfl) fun w _ hw => h w _ hw rfl

/-- A packet is encoded and sent. -/
theorem keeps_send (h : Open P) (hF : F .io) {r : Except ProtocolError Bytes} (hr : IsOther r)
    {dest : SocketAddr} : Keeps P F (do
      let data ← unwrap r
      Prog.sendTo sys data dest) := by
  obtain ⟨out, rfl, hout⟩ := hr
  exact triple_sendTo (fun w hw => h w _ hw hout) fun w hw => ⟨h w _ hw hout, hF⟩

end Primitives

theorem open_obeys (hJ : Steps J) : Open (Obeys J) := fun w x => hJ.other w.state.filter w.trace x

theorem open_serves (hJ : Steps J) : Open (Serves J f) := fun w x => hJ.other f w.trace x

/-! ### Connections -/

section Connection

open Prog

theorem keeps_connection {g : Connection → Connection} :
    Keeps (Serves J f) (· = Stop.io) (modifyState g) := keeps_modifyState fun _ hw => hw

theorem keeps_packet (hJ : Steps J) {r : Except ProtocolError Bytes} (hr : IsOther r)
    {dest : SocketAddr} : Keeps (Serves J f) (· = Stop.io) (do
      let data ← unwrap r
      Prog.sendTo sys data dest) := keeps_send (F := (· = Stop.io)) hJ.open_serves rfl hr

theorem queryInfo (hJ : Steps J) {cap : ℕ} (hcap : 32 ≤ cap) :
    Keeps (Serves J f) (· = Stop.io) (Connection.queryInfo sys cap) := by
  unfold Connection.queryInfo
  refine (keeps_now hJ.open_serves).bind fun now => keeps_connection.bind fun _ => ?_
  refine keeps_getState.bind fun c => ?_
  rw [← bind_assoc]
  refine (hJ.keeps_packet ((GetServerInfo.mk _).isOther hcap)).bind fun _ => ?_
  exact keeps_traceEnabled.bind fun _ =>
    keeps_when (hJ.keeps_packet ((GetServerInfo2.mk _).isOther hcap))

theorem queryPlayers (hJ : Steps J) {cap : ℕ} (hcap : 32 ≤ cap) :
    Keeps (Serves J f) (· = Stop.io) (Connection.queryPlayers sys cap) := by
  unfold Connection.queryPlayers
  refine keeps_connection.bind fun _ => keeps_getState.bind fun c => hJ.keeps_packet ?_
  cases c.challenge.bind GetPlayers.new with
  | none => exact GetChallenge.isOther _ hcap
  | some req => exact req.isOther hcap

theorem query (hJ : Steps J) {cap : ℕ} (hcap : 32 ≤ cap) :
    Keeps (Serves J f) (· = Stop.io) (Connection.query sys cap) :=
  (hJ.queryInfo hcap).bind fun _ => keeps_getState.bind fun _ => keeps_when (hJ.queryPlayers hcap)

theorem handleInfo (hJ : Steps J) (data : Bytes) :
    Keeps (Serves J f) (· = Stop.io) (Connection.handleInfo sys data) := by
  unfold Connection.handleInfo
  split
  · refine (keeps_now hJ.open_serves).bind fun _ => keeps_connection.bind fun _ => ?_
    exact keeps_getState.bind fun _ => keeps_connection.bind fun _ => Keeps.pure
  · refine keeps_getState.bind fun c => ?_
    split_ifs
    · exact keeps_connection.bind fun _ => (hJ.query (by decide)).bind fun _ => Keeps.pure
    · exact Keeps.pure
  · exact keeps_getState.bind fun _ => Keeps.pure

theorem handlePacket (hJ : Steps J) (data : Bytes) :
    Keeps (Serves J f) (· = Stop.io) (Connection.handlePacket sys data) := by
  unfold Connection.handlePacket
  split
  · refine keeps_connection.bind fun _ => keeps_getState.bind fun _ => ?_
    exact (keeps_when (hJ.queryPlayers le_rfl)).bind fun _ => Keeps.pure
  · split_ifs
    · exact Keeps.pure
    · exact Keeps.pure
    · split
      · refine keeps_getState.bind fun c => ?_
        split_ifs
        · exact Keeps.pure
        · exact keeps_connection.bind fun _ => Keeps.pure
      · exact hJ.handleInfo data

end Connection

/-! ### Observers -/

section Observer

open Prog

theorem onConnection {α : Type} (a : SocketAddr) (c : Connection) {p : Prog Connection α}
    (h : ∀ f, Keeps (Serves J f) (· = Stop.io) p) :
    Keeps (Obeys J) (Stops J) (onConnection a c p) := by
  refine Triple.zoom fun w hw => (h w.state.filter).conseq ?_ (fun _ _ hv => hv) ?_
  · rintro _ rfl
    exact hw
  · rintro _ v ⟨hv, rfl⟩
    exact ⟨hv, .io⟩

/-- A master is asked for a list: the key is drawn, and the packet made with it is sent if a condition
holds. -/
theorem onMaster (hJ : Steps J) (i : ℕ) (m : Master) (f : Bytes) {b : Bool} :
    Triple (fun w => Obeys J w ∧ w.state.filter = f ∧ w.state.masters[i]? = some m)
      (do
        let packet ← onMaster i m (Master.encodeQueryServersPacket sys f bufferLen)
        when b (Prog.sendTo sys packet m.addr))
      (fun _ => Obeys J) fun e w => Obeys J w ∧ Stops J e := by
  refine Triple.bind (Q := fun packet w => ∃ key t, J w.state.filter t ∧
    encodeRequest w.state.filter key = .ok packet ∧ w.trace = t ++ [.draw m.addr key])
    (triple_onMaster (fun w hw => hw.2.2) ?_) fun packet => ?_
  · rintro w ⟨hw, rfl, -⟩
    unfold Master.encodeQueryServersPacket
    refine Triple.bind (Q := fun m' v => v = ⟨m, w.trace⟩ ∧ m' = m) (triple_getState ?_) fun m' => ?_
    · rintro v rfl
      exact ⟨rfl, rfl⟩
    refine Triple.bind (Q := fun key v => v.trace = w.trace ++ [.draw m.addr key]) (triple_random ?_)
      fun key => ?_
    · rintro v key ⟨rfl, rfl⟩
      rfl
    refine Triple.bind (Q := fun _ v => v.trace = w.trace ++ [.draw m.addr key])
      (triple_modifyState fun v hv => hv) fun _ => ?_
    cases hencode : encodeRequest w.state.filter key with
    | ok packet =>
      unfold encodeRequest at hencode
      rw [hencode]
      exact Triple.pure fun v hv => ⟨key, w.trace, hw, hencode, hv⟩
    | error err =>
      have hthrow := hencode
      unfold encodeRequest at hthrow
      rw [hthrow]
      have hstops : Stops J .panic := ⟨fun _ => ⟨_, w.trace, key, err, hw, hencode⟩, by rintro ⟨⟩⟩
      refine Triple.throw fun v hv => ⟨?_, hstops⟩
      show J w.state.filter v.trace
      rw [hv]
      exact hJ.other _ _ _ hw rfl
  · refine triple_when (fun _ => triple_sendTo ?_ ?_) fun _ => ?_
    · rintro w ⟨key, t, ht, hpacket, htrace⟩
      show J w.state.filter (w.trace ++ _)
      rw [htrace]
      exact hJ.request _ _ _ _ _ _ ht hpacket
    · rintro w ⟨key, t, ht, hpacket, htrace⟩
      refine ⟨?_, .io⟩
      show J w.state.filter (w.trace ++ _)
      rw [htrace]
      exact hJ.request _ _ _ _ _ _ ht hpacket
    · rintro w ⟨key, t, ht, -, htrace⟩
      show J w.state.filter w.trace
      rw [htrace]
      exact hJ.other _ _ _ ht rfl

theorem queryServersFromMaster (hJ : Steps J) (i : ℕ) :
    Keeps (Obeys J) (Stops J) (queryServersFromMaster sys i) := by
  unfold Observer.queryServersFromMaster
  refine Triple.bind (Q := fun o w => Obeys J w ∧ o = w.state)
    (triple_getState fun w hw => ⟨hw, rfl⟩) fun o => ?_
  cases hm : o.masters[i]? with
  | none => exact Triple.pure fun w hw => hw.1
  | some m =>
    refine (hJ.onMaster i m o.filter).pre ?_
    rintro w ⟨hw, rfl⟩
    exact ⟨hw, rfl, hm⟩

theorem queryServersFromMasters (hJ : Steps J) :
    Keeps (Obeys J) (Stops J) (queryServersFromMasters sys) :=
  keeps_getState.bind fun _ => Keeps.forM (fun i => hJ.queryServersFromMaster i) _

theorem queryInfoFromServer (hJ : Steps J) (now : ℕ) (a : SocketAddr) :
    Keeps (Obeys J) (Stops J) (queryInfoFromServer sys now a) := by
  unfold Observer.queryInfoFromServer
  refine keeps_getState.bind fun o => ?_
  cases o.connections.lookup a with
  | none => exact Keeps.pure
  | some c =>
    dsimp only
    split_ifs
    · exact Keeps.pure
    · exact Keeps.pure
    · refine (keeps_when (keeps_modifyState fun _ hw => hw)).bind fun _ => ?_
      exact onConnection a c fun _ => hJ.query (by decide)

theorem addresses : Keeps (Obeys J) (Stops J) (addresses sys) := fun _ hw => hw

theorem queryInfoFromServers (hJ : Steps J) :
    Keeps (Obeys J) (Stops J) (queryInfoFromServers sys) := by
  refine (keeps_now hJ.open_obeys).bind fun now => keeps_getState.bind fun o => ?_
  refine (keeps_note hJ.open_obeys rfl).bind fun _ => addresses.bind fun l => ?_
  exact Keeps.forM (fun a => hJ.queryInfoFromServer now a) l

theorem queryPending (hJ : Steps J) (p : Pending) :
    Keeps (Obeys J) (Stops J) (queryPending sys p) := by
  cases p with
  | master a =>
    unfold Observer.queryPending
    refine Triple.bind (Q := fun o w => Obeys J w ∧ o = w.state)
      (triple_getState fun w hw => ⟨hw, rfl⟩) fun o => ?_
    cases hi : (o.masters.findIdx? (·.addr == a)).bind fun i => o.masters[i]?.map (i, ·) with
    | none => exact Triple.pure fun w hw => hw.1
    | some r =>
      obtain ⟨i, -, hr⟩ := Option.bind_eq_some_iff.1 hi
      obtain ⟨m, hm, rfl⟩ := Option.map_eq_some_iff.1 hr
      refine (hJ.onMaster i m o.filter (b := true)).pre ?_
      rintro w ⟨hw, rfl⟩
      exact ⟨hw, rfl, hm⟩
  | server a =>
    unfold Observer.queryPending
    refine keeps_getState.bind fun o => ?_
    cases o.connections.lookup a with
    | none => exact Keeps.pure
    | some c => exact onConnection a c fun _ => hJ.query (by decide)

theorem popPending : Keeps (Obeys J) (Stops J) popPending := by
  intro w hw
  unfold Observer.popPending
  cases popLast w.state.pending <;> exact hw

theorem processPendingLoop (hJ : Steps J) (n : ℕ) :
    Keeps (Obeys J) (Stops J) (processPendingLoop sys n) := by
  induction n with
  | zero => exact Keeps.pure
  | succ n ih =>
    refine popPending.bind fun r => ?_
    cases r with
    | none => exact Keeps.pure
    | some p => exact (hJ.queryPending p).bind fun _ => ih

theorem cleanupServer (hJ : Steps J) (now : ℕ) (a : SocketAddr) :
    Keeps (Obeys J) (Stops J) (cleanupServer now a) := by
  unfold Observer.cleanupServer
  refine keeps_getState.bind fun o => ?_
  cases o.connections.lookup a with
  | none => exact Keeps.pure
  | some c =>
    refine keeps_when ((keeps_modifyState fun _ hw => hw).bind fun _ => ?_)
    exact (keeps_modifyState fun _ hw => hw).bind fun _ => keeps_note hJ.open_obeys rfl

theorem processTasks (hJ : Steps J) (now : ℕ) :
    Keeps (Obeys J) (Stops J) (processTasks sys now) := by
  unfold Observer.processTasks
  refine Keeps.bind (fun _ hw => hw) fun _ => (keeps_when hJ.queryServersFromMasters).bind fun _ => ?_
  refine Keeps.bind (fun _ hw => hw) fun _ => (keeps_when hJ.queryInfoFromServers).bind fun _ => ?_
  refine Keeps.bind (fun _ hw => hw) fun _ => keeps_when (addresses.bind fun l => ?_)
  exact Keeps.forM (fun a => hJ.cleanupServer now a) l

theorem handleObserverPacket (hJ : Steps J) (a : SocketAddr) (data : Bytes) :
    Keeps (Obeys J) (Stops J) (Observer.handlePacket sys a data) := by
  unfold Observer.handlePacket
  refine keeps_getState.bind fun o => ?_
  cases o.getMaster a with
  | some m => exact Keeps.pure
  | none =>
    refine keeps_getState.bind fun o => ?_
    cases o.connections.lookup a with
    | none => exact Keeps.pure
    | some c =>
      refine (keeps_note hJ.open_obeys rfl).bind fun _ => ?_
      refine (onConnection a c fun _ => hJ.handlePacket data).bind fun out => ?_
      split
      · exact (keeps_modifyState fun _ hw => hw).bind fun _ => Keeps.pure
      · exact Keeps.pure

theorem receiveLoop (hJ : Steps J) (deadline n : ℕ) :
    ∀ now, Keeps (Obeys J) (Stops J) (receiveLoop sys deadline n now) := by
  induction n with
  | zero => exact fun now => Keeps.throw .running
  | succ n ih =>
    intro now
    rw [Observer.receiveLoop]
    split_ifs
    · refine (keeps_setReadTimeout hJ.open_obeys .io).bind fun _ => ?_
      refine (keeps_recvFrom hJ.open_obeys).bind fun r => ?_
      cases r with
      | ok r =>
        refine (hJ.handleObserverPacket r.1 r.2).bind fun out => ?_
        cases out with
        | some e => exact Keeps.pure
        | none => exact (keeps_now hJ.open_obeys).bind ih
      | error kind =>
        cases kind with
        | addrInUse => exact Keeps.pure
        | wouldBlock => exact Keeps.pure
        | other => exact Keeps.throw .io
    · exact Keeps.pure

theorem popDelayed : Keeps (Obeys J) (Stops J) popDelayed := by
  intro w hw
  unfold Observer.popDelayed
  cases popLast w.state.delayedEvents <;> exact hw

theorem waitLoop (hJ : Steps J) (deadline : Option ℕ) (turns n : ℕ) :
    Keeps (Obeys J) (Stops J) (waitLoop sys deadline turns n) := by
  induction n with
  | zero => exact Keeps.throw .running
  | succ n ih =>
    rw [Observer.waitLoop]
    refine (keeps_now hJ.open_obeys).bind fun now => ?_
    split_ifs
    · exact Keeps.pure
    · refine (hJ.processTasks now).bind fun _ => ?_
      refine (keeps_getState.bind fun _ => hJ.processPendingLoop _).bind fun _ => ?_
      refine popDelayed.bind fun r => ?_
      cases r with
      | some e => exact Keeps.pure
      | none =>
        refine Keeps.bind ?_ fun out => ?_
        · exact keeps_getState.bind fun _ => (keeps_now hJ.open_obeys).bind fun _ =>
            hJ.receiveLoop _ _ _
        · cases out with
          | some e => exact Keeps.pure
          | none => exact ih

/-- A wait makes steps only, unless its end cannot be represented. -/
theorem waitEvent (hJ : Steps J) {w₀ : World Observer} (h : Obeys J w₀) (turns : ℕ)
    (timeout : Option ℕ) : Triple (· = w₀) (waitEvent sys turns timeout) (fun _ => Obeys J)
      fun e w => Obeys J w ∧ (Stops J e ∨ e = .overflow ∧ Overflows sys timeout w₀) := by
  have hstops {α : Type} {m : Prog Observer α} (hm : Keeps (Obeys J) (Stops J) m) :
      Triple (Obeys J) m (fun _ => Obeys J)
        fun e w => Obeys J w ∧ (Stops J e ∨ e = .overflow ∧ Overflows sys timeout w₀) :=
    hm.conseq (fun _ hw => hw) (fun _ _ hw => hw) fun _ _ hw => ⟨hw.1, .inl hw.2⟩
  unfold Observer.waitEvent
  refine Triple.bind (Q := fun r w => Obeys J w ∧ (r = none → w = w₀)) ?_ fun r => ?_
  · intro w hw
    unfold Observer.popDelayed
    cases popLast w.state.delayedEvents with
    | none => exact ⟨hw ▸ h, fun _ => hw⟩
    | some r => exact ⟨hw ▸ h, fun hr => absurd hr (Option.some_ne_none _)⟩
  cases r with
  | some e => exact Triple.pure fun w hw => hw.1
  | none =>
    cases timeout with
    | none => exact (hstops (hJ.waitLoop none turns turns)).pre fun w hw => hw.1
    | some t =>
      refine Triple.bind (Q := fun _ => Obeys J) (triple_after ?_ ?_)
        fun deadline => hstops (hJ.waitLoop _ turns turns)
      · exact fun w hw _ => hJ.open_obeys w .now hw.1 rfl
      · rintro w ⟨hw, heq⟩ ht
        exact ⟨hJ.open_obeys w .now hw rfl, .inr ⟨rfl, t, rfl, heq rfl ▸ ht⟩⟩

end Observer

end Steps

/-! ## Requests of a run -/

/-- The filter of an observer after something its consumer did. -/
def Record.setFilter (f : Bytes) : Record → Bytes
  | .call (.setFilterRaw filter) => filter
  | _ => f

def filterAfter (rs : List Record) : Bytes := exec Record.setFilter [] rs

/-- The filter was in force at a wait of the consumer. -/
def InForce (rs : List Record) (f : Bytes) : Prop :=
  ∃ p r q, rs = p ++ r :: q ∧ (∀ c, r ≠ .call c) ∧ f = filterAfter p

/-- Every request for a list was sent right behind the draw of its key, and made with the key and
with one of the filters. -/
def Requested (fs : Bytes → Prop) (t : List Action) : Prop :=
  ∀ u a packet ok v, t = u ++ .send a packet ok :: v →
    QueryServers.header.isPrefixOf packet = true →
    ∃ u' key f, u = u' ++ [.draw a key] ∧ fs f ∧ encodeRequest f key = .ok packet

theorem InForce.append {rs rs' : List Record} {f : Bytes} (h : InForce rs f) :
    InForce (rs ++ rs') f := by
  obtain ⟨p, r, q, rfl, hr, hf⟩ := h
  exact ⟨p, r, q ++ rs', by simp, hr, hf⟩

section Requested

variable {fs fs' : Bytes → Prop} {t : List Action}

theorem Requested.mono (h : Requested fs t) (hfs : ∀ f, fs f → fs' f) : Requested fs' t := by
  intro u a packet ok v ht hpacket
  obtain ⟨u', key, f, hu, hf, hencode⟩ := h u a packet ok v ht hpacket
  exact ⟨u', key, f, hu, hfs f hf, hencode⟩

theorem Requested.other (h : Requested fs t) {x : Action} (hx : x.isRequest = false) :
    Requested fs (t ++ [x]) := by
  intro u a packet ok v ht hpacket
  rcases append_cons_eq_snoc ht.symm with ⟨v', -, ht'⟩ | ⟨-, rfl, -⟩
  · exact h u a packet ok v' ht' hpacket
  · exact absurd hpacket (by rw [show QueryServers.header.isPrefixOf packet = false from hx]; simp)

theorem Requested.request (h : Requested fs t) {f : Bytes} (hf : fs f) {key : UInt32}
    {packet : Bytes} (hencode : encodeRequest f key = .ok packet) (a : SocketAddr) (ok : Bool) :
    Requested fs (t ++ [.draw a key] ++ [.send a packet ok]) := by
  intro u a' packet' ok' v ht hpacket
  rcases append_cons_eq_snoc ht.symm with ⟨v', -, ht'⟩ | ⟨-, heq, rfl⟩
  · exact h.other rfl u a' packet' ok' v' ht' hpacket
  · cases heq
    exact ⟨t, key, f, rfl, hf, hencode⟩

theorem steps_requested (f₀ : Bytes) :
    Steps fun f t => f = f₀ ∧ Requested (fun g => fs g ∨ g = f₀) t where
  other _ _ _ h hx := ⟨h.1, h.2.other hx⟩
  request _ _ _ _ _ _ h hencode := ⟨h.1, h.2.request (Or.inr h.1) hencode _ _⟩

end Requested

open Steps in
/-- A call other than for the filter sends nothing. -/
theorem keeps_call {J : Bytes → List Action → Prop} (hJ : Open (Obeys J)) (sys : System) {c : Call}
    (hc : ∀ f, c ≠ .setFilterRaw f) : Keeps (Obeys J) (Stops J) (c.run sys) := by
  cases c with
  | setFilterRaw f => exact absurd rfl (hc f)
  | insertMaster m =>
    refine keeps_getState.bind fun o => keeps_when ?_
    exact (keeps_modifyState fun _ hw => hw).bind fun _ => keeps_note hJ rfl
  | removeMaster a =>
    intro w hw
    show J (_ : Observer).filter w.trace
    dsimp only
    split <;> rw [removePending_eq] <;> exact hw
  | insertServer server =>
    refine keeps_getState.bind fun o => keeps_when ?_
    refine (keeps_modifyState fun _ hw => hw).bind fun _ => (keeps_now hJ).bind fun now => ?_
    exact (keeps_modifyState fun _ hw => hw).bind fun _ => keeps_note hJ rfl
  | removeServer a =>
    intro w hw
    show J (_ : Observer).filter w.trace
    dsimp only
    rw [removePending_eq]
    exact hw

/-- An observer has the filter its consumer has set, and made its requests with those in force. -/
theorem requested_run {sys : System} {rs : List Record} {w : World Observer} (h : Run sys rs w) :
    w.state.filter = filterAfter rs ∧ Requested (InForce rs) w.trace := by
  have hwait : ∀ {rs : List Record} {w' : World Observer} {r : Record}, (∀ c, r ≠ .call c) →
      filterAfter (rs ++ [r]) = filterAfter rs →
      Obeys (fun f t => f = filterAfter rs ∧
        Requested (fun g => InForce rs g ∨ g = filterAfter rs) t) w' →
      w'.state.filter = filterAfter (rs ++ [r]) ∧ Requested (InForce (rs ++ [r])) w'.trace := by
    rintro rs w' r hr hf ⟨hfilter, hrequested⟩
    refine ⟨hfilter.trans hf.symm, hrequested.mono ?_⟩
    rintro g (hg | rfl)
    · exact hg.append
    · exact ⟨rs, r, [], rfl, hr, rfl⟩
  have hstart : ∀ {rs : List Record} {w : World Observer},
      w.state.filter = filterAfter rs ∧ Requested (InForce rs) w.trace →
      Obeys (fun f t => f = filterAfter rs ∧
        Requested (fun g => InForce rs g ∨ g = filterAfter rs) t) w :=
    fun h => ⟨h.1, h.2.mono fun _ => Or.inl⟩
  induction h with
  | bind =>
    refine ⟨(rfl : ([] : Bytes) = _), fun u a packet ok v ht => ?_⟩
    rcases u with _ | ⟨_, u⟩ <;> simp at ht
  | @call rs w w' c h hcall ih =>
    have hmono : Requested (InForce (rs ++ [.call c])) w.trace := ih.2.mono fun _ hg => hg.append
    by_cases hc : ∃ f, c = .setFilterRaw f
    · obtain ⟨f, rfl⟩ := hc
      cases hcall
      refine ⟨?_, hmono⟩
      unfold filterAfter
      rw [exec_append]
      rfl
    · have hc' : ∀ f, c ≠ .setFilterRaw f := fun f hf => hc ⟨f, hf⟩
      have hafter : filterAfter (rs ++ [.call c]) = filterAfter rs := by
        unfold filterAfter
        rw [exec_append]
        cases c with
        | setFilterRaw f => exact absurd rfl (hc' f)
        | _ => rfl
      have hopen : Steps.Open (Obeys fun f t => f = filterAfter (rs ++ [.call c]) ∧
          Requested (InForce (rs ++ [.call c])) t) := fun w x hw hx => ⟨hw.1, hw.2.other hx⟩
      exact (keeps_call hopen sys hc').of_ok ⟨ih.1.trans hafter.symm, hmono⟩ hcall
  | event turns timeout e _ hrun ih =>
    exact hwait (by simp) (exec_append _ _)
      (((steps_requested _).waitEvent (hstart ih) turns timeout).ok rfl hrun)
  | failed turns timeout _ hrun ih =>
    exact hwait (by simp) (exec_append _ _)
      (((steps_requested _).waitEvent (hstart ih) turns timeout).error rfl hrun).1

/-! ## Earlier waits -/

/-- Whatever an observer receives, and whatever its system does, it panics in no wait unless its
filter is too long or the end of the wait cannot be represented: a wait that does not return an event
fails in a socket, or is not over. -/
theorem wait_never_panics {sys : System} {rs : List Record} {w : World Observer} (h : Run sys rs w)
    (hfilter : (filterAfter rs).length + 26 ≤ bufferLen) (turns : ℕ) (timeout : Option ℕ)
    (htimeout : ∀ t, timeout = some t → sys.representable (sys.clock w.trace.length + t)) :
    ∀ stop w', waitEvent sys turns timeout w = .error stop w' → stop = .io ∨ stop = .running := by
  intro stop w' hwait
  have hsteps : Steps fun f _ => f = filterAfter rs := ⟨fun _ _ _ h _ => h, fun _ _ _ _ _ _ h _ => h⟩
  obtain ⟨-, hstops | ⟨-, t, ht, hover⟩⟩ :=
    (hsteps.waitEvent (requested_run h).1 turns timeout).error rfl hwait
  · cases stop with
    | io => exact .inl rfl
    | running => exact .inr rfl
    | overflow => exact absurd rfl hstops.overflow
    | panic =>
      obtain ⟨f, -, key, err, rfl, herr⟩ := hstops.panic rfl
      rw [encodeRequest_eq, if_pos ((Master.length_queryWire_le _ key).trans hfilter)] at herr
      cases herr
  · rw [htimeout t ht] at hover
    cases hover

theorem wait_never_panics_one : ¬ ∃ stop w', waitEvent (answeringSystem masterAddr) 1 (some 5)
    (masterWorld masterAddr) = .error stop w' ∧ stop ≠ .io ∧ stop ≠ .running := by
  rintro ⟨stop, w', hwait, hio, hrunning⟩
  have h := wait_never_panics run_masterWorld (by decide) 1 (some 5) (fun _ _ => rfl)
  exact (h stop w' hwait).elim hio hrunning

end Observer

end Xash3d
