import Xash3d.Observer.Run

/-!
# The consumer's mirror of the servers

A consumer that inserts servers before its first wait or on a list of servers, and removes none, can
follow the set of connections by the events it is told (`mirror_exact`): what it has inserted and
not seen removed is what is connected, or has its removal queued. The queue is empty whenever a list
of servers is returned, so an inserted server never has a removal queued.
-/

namespace Xash3d

open Lib

namespace Observer

/-! ## Records -/

/-- The set of servers a consumer knows of. -/
def Record.mirror (M : Finset SocketAddr) : Record → Finset SocketAddr
  | .call (.insertServer server) => insert server.addr M
  | .event (.serverRemove a) => M.erase a
  | .event (.serverInvalidProtocol a) => M.erase a
  | _ => M

def mirror (rs : List Record) : Finset SocketAddr := rs.foldl Record.mirror ∅

/-- Servers may be inserted before the first wait and after a list of servers. -/
def Record.mayInsert (b : Bool) : Record → Bool
  | .call _ => b
  | .event (.serverList _ _) => true
  | _ => false

def mayInsert (rs : List Record) : Bool := rs.foldl Record.mayInsert true

/-- The record is allowed where servers may be inserted, or may not. -/
def Record.isPolite (b : Bool) : Record → Bool
  | .call (.insertServer _) => b
  | .call (.removeServer _) => false
  | _ => true

/-- The consumer inserts servers where it may, and removes none. -/
def Polite (rs : List Record) : Prop :=
  ∀ us r vs, rs = us ++ r :: vs → r.isPolite (mayInsert us) = true

theorem mirror_snoc (rs : List Record) (r : Record) : mirror (rs ++ [r]) = r.mirror (mirror rs) :=
  List.foldl_concat ..

theorem mayInsert_snoc (rs : List Record) (r : Record) :
    mayInsert (rs ++ [r]) = r.mayInsert (mayInsert rs) :=
  List.foldl_concat ..

theorem Polite.snoc {rs : List Record} {r : Record} (h : Polite (rs ++ [r])) :
    Polite rs ∧ r.isPolite (mayInsert rs) = true := by
  refine ⟨fun us r' vs heq => h us r' (vs ++ [r]) ?_, h rs r [] rfl⟩
  rw [heq]
  simp

/-! ## The invariant -/

/-- The set is that of the connections and of the queued removals, which are no connections. -/
structure Mirrors (M : Finset SocketAddr) (s : Core) : Prop where
  mem_iff : ∀ a, a ∈ M ↔ (s.connections a).isSome ∨ .serverRemove a ∈ s.delayedEvents
  removed : ∀ a, .serverRemove a ∈ s.delayedEvents → s.connections a = none
  once : ∀ a, s.delayedEvents.count (.serverRemove a) ≤ 1
  connected : ∀ a, .serverTimeout a ∈ s.delayedEvents → (s.connections a).isSome

namespace Mirrors

variable {M : Finset SocketAddr} {s s' : Core} {a : SocketAddr}

/-- Nothing is connected or disconnected. -/
theorem same (h : Mirrors M s) (hc : ∀ b, (s'.connections b).isSome = (s.connections b).isSome)
    (he : s'.delayedEvents = s.delayedEvents) : Mirrors M s' := by
  refine ⟨fun b => ?_, fun b hb => ?_, fun b => ?_, fun b hb => ?_⟩
  · rw [hc, he]
    exact h.mem_iff b
  · rw [he] at hb
    have hnone := h.removed b hb
    rw [← Option.not_isSome_iff_eq_none] at hnone ⊢
    rwa [hc]
  · rw [he]
    exact h.once b
  · rw [he] at hb
    rw [hc]
    exact h.connected b hb

/-- A connection changes. -/
theorem set (h : Mirrors M s) {c c' : Connection} (hc : s.connections a = some c)
    (hs : s'.connections = Function.update s.connections a (some c'))
    (he : s'.delayedEvents = s.delayedEvents) : Mirrors M s' := by
  refine h.same (fun b => ?_) he
  rw [hs]
  by_cases hb : b = a
  · subst hb
    rw [Function.update_self, hc]
    rfl
  · rw [Function.update_of_ne hb]

theorem report (h : Mirrors M s) {c : Connection} (hc : s.connections a = some c) :
    Mirrors M (s.push (.serverTimeout a)) := by
  have hmem : ∀ b, .serverRemove b ∈ (s.push (.serverTimeout a)).delayedEvents ↔
      .serverRemove b ∈ s.delayedEvents := by
    intro b
    simp [Core.push]
  refine ⟨fun b => ?_, fun b hb => h.removed b ((hmem b).1 hb), fun b => ?_, fun b hb => ?_⟩
  · rw [hmem]
    exact h.mem_iff b
  · show (s.delayedEvents ++ [DelayedEvent.serverTimeout a]).count (DelayedEvent.serverRemove b) ≤ 1
    rw [List.count_append, List.count_singleton]
    simpa using h.once b
  · rcases List.mem_append.1 hb with hold | hnew
    · exact h.connected b hold
    · cases List.mem_singleton.1 hnew
      exact hc ▸ rfl

/-- A connection becomes a queued removal. -/
theorem cleanup (h : Mirrors M s) {c : Connection} (hc : s.connections a = some c)
    (he : .serverTimeout a ∉ s.delayedEvents) :
    Mirrors M (((s.record [.cleanup a]).set a none).push (.serverRemove a)) := by
  have hnew : .serverRemove a ∉ s.delayedEvents := by
    intro hmem
    rw [h.removed a hmem] at hc
    cases hc
  refine ⟨fun b => ?_, fun b hb => ?_, fun b => ?_, fun b hb => ?_⟩
  · show b ∈ M ↔ (Function.update s.connections a none b).isSome ∨
      .serverRemove b ∈ s.delayedEvents ++ [.serverRemove a]
    by_cases hba : b = a
    · subst hba
      simp [h.mem_iff b, hc]
    · simp [h.mem_iff b, hba]
  · show Function.update s.connections a none b = none
    by_cases hba : b = a
    · subst hba
      rw [Function.update_self]
    · rw [Function.update_of_ne hba]
      refine h.removed b ((List.mem_append.1 hb).resolve_right fun hlast => hba ?_)
      exact DelayedEvent.serverRemove.inj (List.mem_singleton.1 hlast)
  · show (s.delayedEvents ++ [DelayedEvent.serverRemove a]).count (DelayedEvent.serverRemove b) ≤ 1
    rw [List.count_append]
    by_cases hba : b = a
    · subst hba
      rw [List.count_eq_zero.2 hnew, List.count_singleton_self]
    · have hzero : [DelayedEvent.serverRemove a].count (.serverRemove b) = 0 :=
        List.count_eq_zero.2 (by simp [hba])
      rw [hzero]
      exact h.once b
  · show (Function.update s.connections a none b).isSome
    have hold : .serverTimeout b ∈ s.delayedEvents :=
      (List.mem_append.1 hb).resolve_right (by simp)
    have hba : b ≠ a := by
      rintro rfl
      exact he hold
    rw [Function.update_of_ne hba]
    exact h.connected b hold

/-- A queued event is told. -/
theorem pop (h : Mirrors M s) {e : DelayedEvent} {es : List DelayedEvent}
    (he : s.delayedEvents = es ++ [e]) :
    Mirrors (Record.mirror M (.event e.toEvent)) { s with delayedEvents := es } := by
  have hsub : ∀ x ∈ es, x ∈ s.delayedEvents := fun x hx => he ▸ List.mem_append_left _ hx
  have hcount : ∀ x, s.delayedEvents.count x = es.count x + [e].count x := by
    intro x
    rw [he, List.count_append]
  refine ⟨fun b => ?_, fun b hb => h.removed b (hsub _ hb), fun b => ?_,
    fun b hb => h.connected b (hsub _ hb)⟩
  · cases e with
    | serverTimeout a =>
      show b ∈ M ↔ _
      rw [h.mem_iff b, he]
      simp
    | serverRemove a =>
      show b ∈ M.erase a ↔ (s.connections b).isSome ∨ .serverRemove b ∈ es
      rw [Finset.mem_erase, h.mem_iff b, he]
      by_cases hba : b = a
      · subst hba
        have hnone := h.removed b (by simp [he])
        have hlast : .serverRemove b ∉ es := by
          have hle := h.once b
          rw [hcount, List.count_singleton_self] at hle
          exact List.count_eq_zero.1 (by omega)
        simp [hnone, hlast]
      · simp [hba]
  · have hle := h.once b
    rw [hcount] at hle
    exact le_trans (Nat.le_add_right _ _) hle

/-- A connection is removed while no event is queued. -/
theorem drop (h : Mirrors M s) (he : s.delayedEvents = [])
    (hs : s'.connections = Function.update s.connections a none) (he' : s'.delayedEvents = []) :
    Mirrors (M.erase a) s' := by
  refine ⟨fun b => ?_, fun b hb => ?_, fun b => ?_, fun b hb => ?_⟩
  · rw [hs, he', Finset.mem_erase, h.mem_iff b, he]
    by_cases hba : b = a
    · subst hba
      simp
    · simp [hba]
  · rw [he'] at hb
    cases hb
  · rw [he']
    exact Nat.zero_le 1
  · rw [he'] at hb
    cases hb

/-- A server is connected while no event is queued. -/
theorem insertServer (h : Mirrors M s) (he : s.delayedEvents = []) {c : Connection}
    (hs : s'.connections = Function.update s.connections a (some c)) (he' : s'.delayedEvents = []) :
    Mirrors (insert a M) s' := by
  refine ⟨fun b => ?_, fun b hb => ?_, fun b => ?_, fun b hb => ?_⟩
  · rw [hs, he', Finset.mem_insert, h.mem_iff b, he]
    by_cases hba : b = a
    · subst hba
      simp
    · simp [hba]
  · rw [he'] at hb
    cases hb
  · rw [he']
    exact Nat.zero_le 1
  · rw [he'] at hb
    cases hb

end Mirrors

/-- A master's datagram tells nothing of connections. -/
theorem handleMasterPacket_mirror {m : SocketAddr} {data : Bytes} {key : UInt32} {e : Event}
    (h : handleMasterPacket m data key = some e) (M : Finset SocketAddr) :
    Record.mirror M (.event e) = M := by
  rcases handleMasterPacket_cases h with ⟨r, rfl⟩ | ⟨i, rfl⟩ | rfl <;> rfl

theorem Mirrors.move {M : Finset SocketAddr} {sys : System} {s s' : Core} {out : Option Event}
    (h : Mirrors M s) (haddr : Addressed s) (hmove : Move sys s out s') :
    Mirrors (out.elim M fun e => Record.mirror M (.event e)) s' := by
  cases hmove with
  | ask ps a c packet ok hc => exact h.set hc rfl rfl
  | touch a c c' hc => exact h.set hc rfl rfl
  | report a c hc => exact h.report hc
  | cleanup a c hc _ he => exact h.cleanup hc he
  | pop e es he => exact h.pop he
  | masterPacket m data =>
    have hsame : Mirrors M (s.record [.recv m.addr data]) := h.same (fun _ => rfl) rfl
    cases hout : handleMasterPacket m.addr data m.key with
    | none => exact hsame
    | some e =>
      show Mirrors (Record.mirror M (.event e)) _
      rw [handleMasterPacket_mirror hout]
      exact hsame
  | info a c c' data i hs => exact h.set hs.connection rfl rfl
  | legacy a c data hs => exact h.set hs.connection rfl rfl
  | invalidProtocol a c data hs =>
    show Mirrors (M.erase c.address) _
    rw [haddr a c hs.connection]
    exact h.drop hs.delayedEvents rfl hs.delayedEvents
  | packet a c c' data out hs _ _ _ hout =>
    rcases hout with rfl | ⟨r, rfl⟩ | rfl <;> exact h.set hs.connection rfl rfl
  | _ => exact h.same (fun _ => rfl) rfl

/-- The mirror between the waits: where servers may be inserted, nothing is queued. -/
theorem mirrors_preserved (sys : System) :
    Preserved sys
      (fun rs s => Polite rs → (Addressed s ∧ Mirrors (mirror rs) s) ∧
        (mayInsert rs = true → s.delayedEvents = []))
      (fun rs s => Polite rs → Addressed s ∧ Mirrors (mirror rs) s) where
  bind _ := by
    refine ⟨⟨(addressed_preserved sys).bind, ?_⟩, fun _ => rfl⟩
    refine ⟨fun a => ?_, fun a _ => rfl, fun a => Nat.zero_le 1, fun a ha => ?_⟩
    · show a ∈ ∅ ↔ false = true ∨ DelayedEvent.serverRemove a ∈ []
      simp
    · cases ha
  called rs s c s' h hcall hpolite := by
    obtain ⟨hrs, hr⟩ := hpolite.snoc
    obtain ⟨⟨haddr, hM⟩, hquiet⟩ := h hrs
    have haddr' : Addressed s' := (addressed_preserved sys).called rs s c s' haddr hcall
    rw [mirror_snoc, mayInsert_snoc]
    cases hcall with
    | insertServer server hnone =>
      have hempty := hquiet hr
      exact ⟨⟨haddr', hM.insertServer hempty rfl hempty⟩, hquiet⟩
    | knownServer server c hc =>
      refine ⟨⟨haddr', ?_⟩, hquiet⟩
      show Mirrors (insert server.addr (mirror rs)) s
      rw [Finset.insert_eq_of_mem ((hM.mem_iff _).2 (Or.inl (hc ▸ rfl)))]
      exact hM
    | removeServer => cases hr
    | _ => exact ⟨⟨haddr', hM.same (fun _ => rfl) rfl⟩, hquiet⟩
  enter rs s h hpolite := (h hpolite).1
  silent rs s s' h hmove hpolite := by
    obtain ⟨haddr, hM⟩ := h hpolite
    exact ⟨(addressed_preserved sys).silent rs s s' haddr hmove, hM.move haddr hmove⟩
  event rs s e s' h hmove hpolite := by
    obtain ⟨haddr, hM⟩ := h hpolite.snoc.1
    rw [mirror_snoc, mayInsert_snoc]
    refine ⟨⟨(addressed_preserved sys).event rs s e s' haddr hmove, hM.move haddr hmove⟩, ?_⟩
    intro hinsert
    cases e with
    | serverList a r =>
      obtain ⟨m, -, data, -, hlistens, rfl, -⟩ := hmove.serverList rfl
      exact hlistens.delayedEvents
    | _ => cases hinsert
  failed rs s h hpolite := by
    rw [mirror_snoc, mayInsert_snoc]
    exact ⟨h hpolite.snoc.1, fun hinsert => by cases hinsert⟩

/-! ## Removals are told once -/

theorem handleMasterPacket_remove {m : SocketAddr} {data : Bytes} {key : UInt32} (a : SocketAddr) :
    Record.event (.serverRemove a) ∉ told (handleMasterPacket m data key) := by
  intro hmem
  obtain ⟨e, he, hr⟩ := List.mem_map.1 hmem
  rcases handleMasterPacket_cases (Option.mem_toList.1 he) with ⟨r, rfl⟩ | ⟨i, rfl⟩ | rfl <;> cases hr

/-- A move queues a removal for each cleanup, and takes one from the queue for each it tells. -/
theorem Move.balance {sys : System} {s s' : Core} {out : Option Event} (hmove : Move sys s out s')
    (a : SocketAddr) :
    s'.trace.count (.cleanup a) + s.delayedEvents.count (.serverRemove a) =
      s.trace.count (.cleanup a) + s'.delayedEvents.count (.serverRemove a) +
        (told out).count (.event (.serverRemove a)) := by
  have hsame : ∀ {as : List Action} {out : Option Event}, .cleanup a ∉ as →
      Record.event (.serverRemove a) ∉ told out →
      (s.trace ++ as).count (.cleanup a) + s.delayedEvents.count (.serverRemove a) =
        s.trace.count (.cleanup a) + s.delayedEvents.count (.serverRemove a) +
          (told out).count (.event (.serverRemove a)) := by
    intro as out has hout
    rw [List.count_append, List.count_eq_zero.2 has, List.count_eq_zero.2 hout]
    omega
  cases hmove with
  | plain x hx =>
    refine hsame ?_ (by simp [told])
    intro hmem
    rw [List.mem_singleton] at hmem
    rw [← hmem] at hx
    cases hx
  | draw | takeMaster | ask | tick | stranger | info | legacy | invalidProtocol =>
    exact hsame (by simp) (by simp [told])
  | dropMaster | dropServer | touch | timeout => simp [told, Core.set]
  | report b =>
    show _ = _ + (s.delayedEvents ++ [DelayedEvent.serverTimeout b]).count _ + _
    simp [told, List.count_append, Core.push]
  | cleanup b =>
    show (s.trace ++ [Action.cleanup b]).count _ + _ =
      _ + (s.delayedEvents ++ [DelayedEvent.serverRemove b]).count _ + 0
    rw [List.count_append, List.count_append]
    by_cases hb : b = a
    · subst hb
      rw [List.count_singleton_self, List.count_singleton_self]
      omega
    · have hcleanup : [Action.cleanup b].count (.cleanup a) = 0 :=
        List.count_eq_zero.2 (by simp [Ne.symm hb])
      have hremove : [DelayedEvent.serverRemove b].count (.serverRemove a) = 0 :=
        List.count_eq_zero.2 (by simp [Ne.symm hb])
      omega
  | pop e es he =>
    have hcount : [e].count (.serverRemove a) =
        [Record.event e.toEvent].count (.event (.serverRemove a)) := by
      cases e <;> simp [DelayedEvent.toEvent, List.count_singleton]
    show s.trace.count _ + _ = _ + es.count _ + [Record.event e.toEvent].count _
    rw [he, List.count_append, hcount]
    omega
  | masterPacket => exact hsame (by simp) (handleMasterPacket_remove a)
  | packet _ _ _ _ out _ _ _ _ hout =>
    refine hsame (by simp) ?_
    rcases hout with rfl | ⟨r, rfl⟩ | rfl <;> simp [told]

/-- Every removal by the cleanup is told once or queued. -/
theorem cleanups_preserved (sys : System) (a : SocketAddr) :
    Preserved sys
      (fun rs s => s.trace.count (.cleanup a) =
        rs.count (.event (.serverRemove a)) + s.delayedEvents.count (.serverRemove a))
      (fun rs s => s.trace.count (.cleanup a) =
        rs.count (.event (.serverRemove a)) + s.delayedEvents.count (.serverRemove a)) where
  bind := rfl
  called rs s c s' h hcall := by
    have hrs : (rs ++ [Record.call c]).count (Record.event (.serverRemove a)) =
        rs.count (.event (.serverRemove a)) := by
      rw [List.count_append, Nat.add_eq_left, List.count_eq_zero]
      simp
    rw [hrs]
    cases hcall <;> simpa [Core.record, Core.set, List.count_append] using h
  enter _ _ h := h
  silent rs s s' h hmove := by
    have hbalance := hmove.balance a
    rw [show (told none).count (.event (.serverRemove a)) = 0 from rfl] at hbalance
    omega
  event rs s e s' h hmove := by
    have hbalance := hmove.balance a
    rw [show told (some e) = [.event e] from rfl] at hbalance
    rw [List.count_append]
    omega
  failed rs s h := by
    rw [List.count_append]
    simpa using h

/-! ## The mirror is exact -/

/-- The events about a server that is still connected. -/
def About (a : SocketAddr) : Event → Prop
  | .serverInfoTimeout b | .serverPlayers b _ | .serverInvalidPacket b _ => b = a
  | _ => False

theorem handleMasterPacket_about {m : SocketAddr} {data : Bytes} {key : UInt32} {e : Event}
    (h : handleMasterPacket m data key = some e) (a : SocketAddr) : ¬ About a e := by
  rcases handleMasterPacket_cases h with ⟨r, rfl⟩ | ⟨i, rfl⟩ | rfl <;> exact id

theorem Mirrors.about {M : Finset SocketAddr} {sys : System} {s s' : Core} {out : Option Event}
    (h : Mirrors M s) (haddr : Addressed s) (hmove : Move sys s out s') {e : Event} {a : SocketAddr}
    (hout : out = some e) (he : About a e) : (s'.connections a).isSome := by
  cases hmove with
  | pop d es hes =>
    cases hout
    cases d with
    | serverTimeout b =>
      obtain rfl : b = a := he
      exact h.connected b (by simp [hes])
    | serverRemove => cases he
  | masterPacket m data => exact absurd he (handleMasterPacket_about hout a)
  | packet b c c' data out hs _ _ _ hor =>
    have hb : c.address = a := by
      rcases hor with rfl | ⟨r, rfl⟩ | rfl
      · cases hout
      · cases hout
        exact he
      · cases hout
        exact he
    have hba : b = a := (haddr b c hs.connection).symm.trans hb
    show (Function.update s.connections b (some c') a).isSome
    rw [hba, Function.update_self]
    rfl
  | _ => cases hout <;> cases he

/-- The mirror of a consumer is exact: between the waits it is the disjoint union of the connections
and of the addresses with a queued removal, each queued once. Every removal by the cleanup is told
once or still queued, the last queued event is what the next wait returns, and the other events
about a server are about a connection. -/
theorem mirror_exact {sys : System} {rs : List Record} {w : World Observer} (hrun : Run sys rs w)
    (hpolite : Polite rs) :
    (∀ a, a ∈ mirror rs ↔
      a ∈ w.state.connections ∨ .serverRemove a ∈ w.state.delayedEvents) ∧
    (∀ a, .serverRemove a ∈ w.state.delayedEvents → a ∉ w.state.connections) ∧
    (∀ a, w.state.delayedEvents.count (.serverRemove a) ≤ 1) ∧
    (∀ a, w.trace.count (.cleanup a) = rs.count (.event (.serverRemove a)) +
      w.state.delayedEvents.count (.serverRemove a)) ∧
    (∀ es e turns timeout, w.state.delayedEvents = es ++ [e] →
      waitEvent sys turns timeout w =
        .ok e.toEvent { w with state := { w.state with delayedEvents := es } }) ∧
    ∀ turns timeout e w' a, waitEvent sys turns timeout w = .ok e w' → About a e →
      a ∈ w'.state.connections := by
  have hpreserved := mirrors_preserved sys
  obtain ⟨⟨haddr, hM⟩, -⟩ := hpreserved.run hrun hpolite
  refine ⟨fun a => ?_, fun a ha => ?_, hM.once, fun a => (cleanups_preserved sys a).run hrun, ?_, ?_⟩
  · rw [hM.mem_iff a, ← AList.lookup_isSome]
    rfl
  · rw [← AList.lookup_eq_none]
    exact hM.removed a ha
  · intro es e turns timeout hes
    have hpop : popDelayed w =
        .ok (some e) { w with state := { w.state with delayedEvents := es } } := by
      unfold popDelayed popLast
      rw [hes, List.getLast?_concat, List.dropLast_concat]
      rfl
    show EStateM.bind popDelayed _ w = _
    unfold EStateM.bind
    rw [hpop]
    rfl
  · intro turns timeout e w' a hwait he
    obtain ⟨s, hs, hmove⟩ := hpreserved.returned rs (hpreserved.run hrun) hwait
    obtain ⟨haddr', hM'⟩ := hs hpolite
    rw [← AList.lookup_isSome]
    exact hM'.about haddr' hmove rfl he

/-- A system without datagrams whose clock jumps after the first two readings. -/
def jumpingSystem : System where
  clock n := if n < 2 then 0 else serverTimeout
  clock_mono a b h := by
    dsimp only
    split_ifs <;> omega
  rng _ := 0
  send _ := true
  setReadTimeout _ := true
  recv _ := .error .wouldBlock
  traceEnabled _ := false
  order _ l := l
  order_perm _ l := .refl l

def serverAddr : SocketAddr := .v4 ⟨⟨⟨[10, 0, 0, 2], rfl⟩⟩, 27015⟩

/-- The observer after a server was inserted. -/
def serverWorld : World Observer :=
  ⟨{ Observer.bind 0 with
      connections := (∅ : AList fun _ : SocketAddr => Connection).insert serverAddr
        (.new serverAddr false 0)
      pending := [.server serverAddr] }, [.now, .now, .insertServer serverAddr]⟩

theorem run_serverWorld :
    Run jumpingSystem [.call (.insertServer ⟨serverAddr, false⟩)] serverWorld :=
  Run.call (.insertServer ⟨serverAddr, false⟩) Run.bind rfl

/-- The server does not answer and is removed, and its mirror is. -/
theorem mirror_exact_removed : ∃ w', waitEvent jumpingSystem 1 none serverWorld =
    .ok (.serverRemove serverAddr) w' ∧ serverAddr ∉ w'.state.connections := by
  obtain ⟨_, w', hwait, rfl⟩ := exists_of_returned (f := Prod.fst)
    (x := Event.serverRemove serverAddr) (r := waitEvent jumpingSystem 1 none serverWorld)
    (by decide +kernel)
  refine ⟨w', hwait, fun hmem => ?_⟩
  have hpolite : Polite
      [.call (.insertServer ⟨serverAddr, false⟩), .event (.serverRemove serverAddr)] := by
    intro us r vs heq
    rcases us with _ | ⟨u, _ | ⟨v, us⟩⟩
    · cases heq
      rfl
    · cases heq
      rfl
    · simp at heq
  have hmirror := (mirror_exact (run_serverWorld.event 1 none _ hwait) hpolite).1 serverAddr
  exact absurd (hmirror.2 (Or.inl hmem)) (by decide +kernel)

end Observer

end Xash3d
