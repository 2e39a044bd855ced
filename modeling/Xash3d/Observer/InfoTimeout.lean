import Xash3d.Lib.Run
import Xash3d.Observer.Run

/-!
# Timeouts of information

A tick of the periodic queries reports every connection that is not idle. Such a connection has an
outstanding request (`outstanding`), but nothing says that it is old: the query of a new server may
have been sent right before the tick, and may have failed. `timeout_waited` says that a timeout is
right where the last tick came late enough after the first request that was sent.
-/

namespace Xash3d

open Lib

/-- The datagram is the information of a server. -/
def isInfo (data : Bytes) : Bool :=
  match GetServerInfoResponse.decode data with
  | .ok _ => true
  | .error _ => false

/-- The actions that start, answer or repeat the queries for the information of an address. -/
def Action.concerns (a : SocketAddr) : Action → Bool
  | insertServer b => b = a
  | handed b data => b = a ∧ isInfo data
  | send b packet _ => b = a ∧ GetServerInfo.header.isPrefixOf packet
  | _ => false

theorem Action.not_concerns_of_isPlain {x : Action} (h : x.isPlain = true) (a : SocketAddr) :
    x.concerns a = false := by
  cases x with
  | send b packet ok =>
    have hpacket : GetServerInfo.header.isPrefixOf packet = false := by simpa [isPlain] using h
    simp [concerns, hpacket]
  | _ => first | rfl | cases h

theorem Action.not_isTick_of_isPlain {x : Action} (h : x.isPlain = true) : x.isTick = false := by
  cases x <;> first | rfl | cases h

theorem Action.not_isRecv_of_isPlain {x : Action} (h : x.isPlain = true) : x.isRecv = false := by
  cases x <;> first | rfl | cases h

namespace Observer

/-! ## The outstanding request -/

/-- One more action, and what became of the requests since the server was inserted or has answered:
there was none, none that was sent without an error, or the place of the first that was sent. -/
def track (a : SocketAddr) (s : ℕ × Option (Option ℕ)) (x : Action) : ℕ × Option (Option ℕ) :=
  (s.1 + 1, if x.concerns a then
    match x with
    | .send _ _ ok => some (s.2.join.or (if ok then some s.1 else none))
    | _ => none
  else s.2)

/-- The requests for the information of an address since it was inserted or has answered, and the
first of them that was sent without an error. -/
def outstanding (a : SocketAddr) (tr : List Action) : Option (Option ℕ) :=
  (tr.foldl (track a) (0, none)).2

theorem track_fst (a : SocketAddr) (tr : List Action) :
    (tr.foldl (track a) (0, none)).1 = tr.length := by
  induction tr using List.reverseRecOn with
  | nil => rfl
  | append_singleton tr x ih =>
    rw [List.foldl_concat, List.length_append, List.length_singleton, ← ih]
    rfl

theorem outstanding_snoc (a : SocketAddr) (tr : List Action) (x : Action) :
    outstanding a (tr ++ [x]) = (track a (tr.length, outstanding a tr) x).2 := by
  unfold outstanding
  rw [List.foldl_concat, ← track_fst a tr]

theorem outstanding_append {a : SocketAddr} (tr : List Action) {as : List Action}
    (h : ∀ x ∈ as, x.concerns a = false) : outstanding a (tr ++ as) = outstanding a tr := by
  induction as using List.reverseRecOn with
  | nil => rw [List.append_nil]
  | append_singleton as x ih =>
    have hx : x.concerns a = false := h x (by simp)
    rw [← List.append_assoc, outstanding_snoc]
    unfold track
    rw [hx]
    exact ih fun y hy => h y (List.mem_append_left _ hy)

theorem outstanding_send {a : SocketAddr} (tr : List Action) {packet : Bytes} (ok : Bool)
    (h : GetServerInfo.header.isPrefixOf packet = true) :
    outstanding a (tr ++ [.send a packet ok]) ≠ none := by
  have hx : (Action.send a packet ok).concerns a = true := by simp [Action.concerns, h]
  rw [outstanding_snoc]
  unfold track
  dsimp only
  rw [if_pos hx]
  exact Option.some_ne_none _

/-- The first request that was sent is in the history, and no answer was handed over since. -/
theorem exists_of_outstanding {a : SocketAddr} {tr : List Action} {n : ℕ}
    (h : outstanding a tr = some (some n)) :
    ∃ u packet v, tr = u ++ .send a packet true :: v ∧ u.length = n ∧
      GetServerInfo.header.isPrefixOf packet = true ∧
      ∀ data, isInfo data = true → .handed a data ∉ v := by
  induction tr using List.reverseRecOn with
  | nil => cases h
  | append_singleton tr x ih =>
    rw [outstanding_snoc] at h
    have hold : outstanding a tr = some (some n) →
        (∀ data, isInfo data = true → x ≠ .handed a data) →
        ∃ u packet v, tr ++ [x] = u ++ .send a packet true :: v ∧ u.length = n ∧
          GetServerInfo.header.isPrefixOf packet = true ∧
          ∀ data, isInfo data = true → .handed a data ∉ v := by
      intro ho hx
      obtain ⟨u, packet, v, rfl, hu, hpacket, hv⟩ := ih ho
      refine ⟨u, packet, v ++ [x], by simp, hu, hpacket, fun data hdata hmem => ?_⟩
      rcases List.mem_append.1 hmem with hmem | hmem
      · exact hv data hdata hmem
      · exact hx data hdata (List.mem_singleton.1 hmem).symm
    unfold track at h
    by_cases hx : x.concerns a = true
    · dsimp only at h
      rw [if_pos hx] at h
      cases x with
      | send b packet ok =>
        have hb : b = a ∧ GetServerInfo.header.isPrefixOf packet = true := by
          simpa [Action.concerns] using hx
        obtain ⟨rfl, hpacket⟩ := hb
        have hor := Option.some.inj h
        cases ho : (outstanding b tr).join with
        | some m =>
          rw [ho] at hor
          exact hold ((Option.join_eq_some_iff.1 ho).trans (congrArg some hor)) (by simp)
        | none =>
          rw [ho, Option.none_or] at hor
          cases ok with
          | true =>
            cases hor
            exact ⟨tr, packet, [], rfl, rfl, hpacket, by simp⟩
          | false => cases hor
      | _ => cases h
    · dsimp only at h
      rw [if_neg hx] at h
      refine hold h fun data hdata heq => hx ?_
      rw [heq]
      simp [Action.concerns, hdata]

/-! ## The property and the condition -/

/-- A request for the information of `a` was sent long enough ago, and no information from `a` was
received since. -/
def Waited (sys : System) (a : SocketAddr) (tr : List Action) : Prop :=
  ∃ u packet v, tr = u ++ .send a packet true :: v ∧
    GetServerInfo.header.isPrefixOf packet = true ∧
    sys.clock u.length + serverInterval ≤ sys.clock tr.length ∧
    ∀ data, isInfo data = true → .recv a data ∉ v

/-- If the last tick has found the connection of `a` valid, not pending and not idle, and there were
requests since `a` was inserted or has answered, then one of them was sent without an error, the
first such one long enough before the tick, and the information received since went to the
connection, not to a master of the same address. -/
def OnTime (sys : System) (a : SocketAddr) (tr : List Action) : Prop :=
  ∀ u t connections pending v, tr = u ++ .infoTick t connections pending :: v →
    (∀ x ∈ v, x.isTick = false) →
    ∀ c, (a, c) ∈ connections → c.isValid t = true → .server a ∉ pending → c.state ≠ .idle →
    ∀ first, outstanding a u = some first → ∃ n, first = some n ∧
      sys.clock n + serverInterval ≤ t ∧
      ∀ data, isInfo data = true → .recv a data ∈ u.drop n → .handed a data ∈ u.drop n

theorem OnTime.of_append {sys : System} {a : SocketAddr} {tr as : List Action}
    (h : OnTime sys a (tr ++ as)) (has : ∀ x ∈ as, x.isTick = false) : OnTime sys a tr := by
  intro u t connections pending v htr hv
  refine h u t connections pending (v ++ as) (by simp [htr]) fun x hx => ?_
  exact (List.mem_append.1 hx).elim (hv x) (has x)

theorem Waited.append {sys : System} {a : SocketAddr} {tr as : List Action} (h : Waited sys a tr)
    (has : ∀ x ∈ as, x.isRecv = false) : Waited sys a (tr ++ as) := by
  obtain ⟨u, packet, v, htr, hpacket, hclock, hv⟩ := h
  refine ⟨u, packet, v ++ as, by simp [htr], hpacket, hclock.trans (sys.clock_mono ?_), ?_⟩
  · rw [List.length_append]
    exact Nat.le_add_right _ _
  · intro data hdata hmem
    rcases List.mem_append.1 hmem with hold | hnew
    · exact hv data hdata hold
    · cases has _ hnew

/-! ## The invariant -/

/-- The connection of an address that is not idle is pending or has an outstanding request, it had
one at every tick that found it not idle, and its queued timeouts are right. -/
structure Timely (sys : System) (a : SocketAddr) (s : Core) : Prop where
  asked : ∀ c, s.connections a = some c → c.state ≠ .idle →
    .server a ∈ s.pending ∨ outstanding a s.trace ≠ none
  ticks : ∀ u t connections pending v, s.trace = u ++ .infoTick t connections pending :: v →
    ∀ c, (a, c) ∈ connections → c.state ≠ .idle → .server a ∉ pending → outstanding a u ≠ none
  queued : OnTime sys a s.trace → .serverTimeout a ∈ s.delayedEvents → Waited sys a s.trace

namespace Timely

variable {sys : System} {a : SocketAddr} {s s' : Core}

theorem ticks_append (h : Timely sys a s) {as : List Action} (has : ∀ x ∈ as, x.isTick = false) :
    ∀ u t connections pending v, s.trace ++ as = u ++ .infoTick t connections pending :: v →
      ∀ c, (a, c) ∈ connections → c.state ≠ .idle → .server a ∉ pending → outstanding a u ≠ none := by
  intro u t connections pending v heq
  rcases List.append_eq_append_iff.1 heq with ⟨w, -, hw⟩ | ⟨w, hw, hv⟩
  · have htick := has (.infoTick t connections pending) (by simp [hw])
    cases htick
  · cases w with
    | nil =>
      have htick := has (.infoTick t connections pending) (by rw [← List.nil_append as, ← hv]; simp)
      cases htick
    | cons x w =>
      obtain ⟨rfl, -⟩ := List.cons.inj hv
      exact h.ticks u t connections pending w hw

theorem queued_append (h : Timely sys a s) {as : List Action} (htick : ∀ x ∈ as, x.isTick = false)
    (hrecv : ∀ x ∈ as, x.isRecv = false) (hon : OnTime sys a (s.trace ++ as))
    (he : .serverTimeout a ∈ s.delayedEvents) : Waited sys a (s.trace ++ as) :=
  (h.queued (hon.of_append htick) he).append hrecv

/-- Nothing that concerns the address happens. -/
theorem keep (h : Timely sys a s) {as : List Action} (ht : s'.trace = s.trace ++ as)
    (has : ∀ x ∈ as, x.concerns a = false ∧ x.isTick = false)
    (hc : ∀ c', s'.connections a = some c' → c'.state ≠ .idle →
      ∃ c, s.connections a = some c ∧ c.state ≠ .idle)
    (hp : (s'.connections a).isSome → .server a ∈ s.pending → .server a ∈ s'.pending)
    (he : .serverTimeout a ∈ s'.delayedEvents →
      .serverTimeout a ∈ s.delayedEvents ∧ ∀ x ∈ as, x.isRecv = false) : Timely sys a s' := by
  refine ⟨fun c' hc' hstate => ?_, ?_, fun hon hmem => ?_⟩
  · obtain ⟨c, hc₀, hstate₀⟩ := hc c' hc' hstate
    rw [ht, outstanding_append s.trace fun x hx => (has x hx).1]
    exact (h.asked c hc₀ hstate₀).imp_left (hp (hc' ▸ rfl))
  · rw [ht]
    exact h.ticks_append fun x hx => (has x hx).2
  · obtain ⟨hmem₀, hrecv⟩ := he hmem
    rw [ht] at hon ⊢
    exact h.queued_append (fun x hx => (has x hx).2) hrecv hon hmem₀

/-- The connection keeps being idle or not, or is another one. -/
theorem keep_set (h : Timely sys a s) {as : List Action} {b : SocketAddr} {o : Option Connection}
    (hs : s'.connections = Function.update s.connections b o) (ht : s'.trace = s.trace ++ as)
    (has : ∀ x ∈ as, x.concerns a = false ∧ x.isTick = false)
    (hc : b = a → ∀ c', o = some c' → c'.state ≠ .idle →
      ∃ c, s.connections a = some c ∧ c.state ≠ .idle)
    (hp : .server a ∈ s.pending → .server a ∈ s'.pending)
    (he : .serverTimeout a ∈ s'.delayedEvents →
      .serverTimeout a ∈ s.delayedEvents ∧ ∀ x ∈ as, x.isRecv = false) : Timely sys a s' := by
  refine h.keep ht has (fun c' hc' hstate => ?_) (fun _ => hp) he
  rw [hs] at hc'
  by_cases hb : b = a
  · subst hb
    rw [Function.update_self] at hc'
    exact hc rfl c' hc' hstate
  · rw [Function.update_of_ne (Ne.symm hb)] at hc'
    exact ⟨c', hc', hstate⟩

/-- A request for information. -/
theorem ask (h : Timely sys a s) (haddr : Addressed s) {ps : List Pending} {b : SocketAddr}
    {c : Connection} {packet : Bytes} {ok : Bool} (hc : s.connections b = some c)
    (hp : s.pending = ps ∨ s.pending = ps ++ [.server b])
    (hpacket : GetServerInfo.header.isPrefixOf packet = true) :
    Timely sys a { (s.record [.now, .send c.address packet ok]).set b
      (some (c.asked (sys.clock s.trace.length))) with pending := ps } := by
  have hb : c.address = b := haddr b c hc
  have htick : ∀ x ∈ [.now, Action.send c.address packet ok], x.isTick = false := by
    simp [Action.isTick]
  have hrecv : ∀ x ∈ [.now, Action.send c.address packet ok], x.isRecv = false := by
    simp [Action.isRecv]
  by_cases hba : b = a
  · subst hba
    refine ⟨fun _ _ _ => Or.inr ?_, h.ticks_append htick, h.queued_append htick hrecv⟩
    have hsend : outstanding b (s.trace ++ [.now] ++ [.send b packet ok]) ≠ none :=
      outstanding_send _ ok hpacket
    rw [List.append_assoc] at hsend
    exact hb.symm ▸ hsend
  · refine h.keep_set rfl rfl (fun x hx => ⟨?_, htick x hx⟩) (fun heq => absurd heq hba) ?_
      fun he => ⟨he, hrecv⟩
    · rcases List.mem_cons.1 hx with rfl | hx
      · rfl
      · rw [List.mem_singleton.1 hx, hb]
        simp [Action.concerns, hba]
    · intro hmem
      rcases hp with rfl | hp
      · exact hmem
      · rw [hp] at hmem
        refine (List.mem_append.1 hmem).resolve_right fun hlast => hba ?_
        exact (Pending.server.inj (List.mem_singleton.1 hlast)).symm

/-- A tick remembers the connections and the pending queries. It comes when no event is queued. -/
theorem tick (h : Timely sys a s) {connections : List (SocketAddr × Connection)}
    (hmem : ∀ b c, (b, c) ∈ connections ↔ s.connections b = some c)
    (hevents : s.delayedEvents = []) (t : ℕ) :
    Timely sys a (s.record [.now, .infoTick t connections s.pending]) := by
  have hsame : outstanding a (s.trace ++ [.now]) = outstanding a s.trace :=
    outstanding_append s.trace (by simp [Action.concerns])
  have hall : outstanding a (s.trace ++ [.now, .infoTick t connections s.pending]) =
      outstanding a s.trace := outstanding_append s.trace (by simp [Action.concerns])
  refine ⟨fun c hc hstate => ?_, fun u t' connections' pending v heq c hc hstate hp => ?_, ?_⟩
  · show _ ∨ outstanding a (s.trace ++ _) ≠ none
    rw [hall]
    exact h.asked c hc hstate
  · have heq' : u ++ .infoTick t' connections' pending :: v =
        (s.trace ++ [.now]) ++ [.infoTick t connections s.pending] := by
      rw [← heq]
      simp [Core.record]
    rcases append_cons_eq_snoc heq' with ⟨v', -, hold⟩ | ⟨-, hlast, rfl⟩
    · exact @ticks_append _ _ _ h [.now] (by simp [Action.isTick]) u t' connections' pending v' hold
        c hc hstate hp
    · cases hlast
      rw [hsame]
      exact (h.asked c ((hmem a c).1 hc) hstate).resolve_left hp
  · rintro - he
    exact absurd (show .serverTimeout a ∈ s.delayedEvents from he) (by simp [hevents])

/-- A timeout that is reported is right if the tick came late enough. -/
theorem report (h : Timely sys a s) {b : SocketAddr} {c : Connection}
    (hstate : c.state ≠ .idle) (htick : s.Overdue sys b c) :
    Timely sys a (s.push (.serverTimeout b)) := by
  refine ⟨h.asked, h.ticks, fun hon hmem => ?_⟩
  rcases List.mem_append.1 hmem with hold | hnew
  · exact h.queued hon hold
  cases List.mem_singleton.1 hnew
  obtain ⟨u, t, connections, pending, v, htr, hc, hvalid, hp, ⟨k, hk, rfl⟩, hv⟩ := htick
  obtain ⟨first, ho⟩ := Option.ne_none_iff_exists'.1
    (h.ticks u _ connections pending v htr c hc hstate hp)
  obtain ⟨n, rfl, hclock, hinfo⟩ := hon u _ connections pending v htr (fun x hx => (hv x hx).2) c hc
    hvalid hp hstate first ho
  obtain ⟨u', packet, v', rfl, rfl, hpacket, hhanded⟩ := exists_of_outstanding ho
  refine ⟨u', packet, v' ++ .infoTick (sys.clock k) connections pending :: v, ?_, hpacket, ?_, ?_⟩
  · show s.trace = _
    rw [htr]
    simp
  · exact hclock.trans (sys.clock_mono hk.le)
  · intro data hdata hrecv
    rcases List.mem_append.1 hrecv with hrecv | hrecv
    · -- it was received before the tick, so it was handed over
      have hdrop : (u' ++ Action.send a packet true :: v').drop u'.length =
          .send a packet true :: v' := List.drop_left
      rw [hdrop] at hinfo
      have hmem := hinfo data hdata (List.mem_cons_of_mem _ hrecv)
      exact hhanded data hdata ((List.mem_cons.1 hmem).resolve_left (by simp))
    · have hlater := (List.mem_cons.1 hrecv).resolve_left (by simp)
      cases (hv _ hlater).1

end Timely

theorem isInfo_of_decode {data : Bytes} (h : ∀ r, GetServerInfoResponse.decode data ≠ .ok r) :
    isInfo data = false := by
  unfold isInfo
  cases hd : GetServerInfoResponse.decode data with
  | ok r => exact absurd hd (h r)
  | error e => rfl

/-- The datagram does not answer a query for information. -/
theorem not_concerns_handed {data : Bytes} (h : isInfo data = false) (a b : SocketAddr) :
    ∀ x ∈ [.recv b data, Action.handed b data], x.concerns a = false ∧ x.isTick = false := by
  intro x hx
  rcases List.mem_cons.1 hx with rfl | hx
  · exact ⟨rfl, rfl⟩
  · rw [List.mem_singleton.1 hx]
    exact ⟨by simp [Action.concerns, h], rfl⟩

/-- A datagram is handed over that is no answer. -/
theorem Timely.handed {sys : System} {a b : SocketAddr} {s : Core} (h : Timely sys a s)
    {c : Connection} (hs : s.Hands b c) {data : Bytes} {o : Option Connection}
    (hdata : ∀ r, GetServerInfoResponse.decode data ≠ .ok r)
    (hc : ∀ c', o = some c' → c'.state ≠ .idle → c.state ≠ .idle) :
    Timely sys a ((s.record [.recv b data, .handed b data]).set b o) := by
  refine h.keep_set rfl rfl (not_concerns_handed (isInfo_of_decode hdata) a b) ?_ id fun he => ?_
  · rintro rfl c' hc' hstate
    exact ⟨c, hs.connection, hc c' hc' hstate⟩
  · exact absurd (hs.delayedEvents ▸ he) (by simp)

/-- An answer is handed over: the connection is idle. -/
theorem Timely.info {sys : System} {a b : SocketAddr} {s : Core} (h : Timely sys a s)
    {c c' : Connection} (hs : s.Hands b c) {data : Bytes} (hidle : c'.state = .idle) :
    Timely sys a ((s.record [.recv b data, .handed b data, .now]).set b (some c')) := by
  have htick : ∀ x ∈ [.recv b data, .handed b data, Action.now], x.isTick = false := by
    simp [Action.isTick]
  have hnone : .serverTimeout a ∉ s.delayedEvents := by simp [hs.delayedEvents]
  by_cases hba : b = a
  · subst hba
    refine ⟨fun c'' hc'' hstate => ?_, h.ticks_append htick, fun _ he => absurd he hnone⟩
    replace hc'' : Function.update s.connections b (some c') b = some c'' := hc''
    rw [Function.update_self] at hc''
    cases hc''
    exact absurd hidle hstate
  · refine h.keep_set rfl rfl (fun x hx => ⟨?_, htick x hx⟩) (fun heq => absurd heq hba) id
      fun he => absurd he hnone
    rcases List.mem_cons.1 hx with rfl | hx
    · rfl
    rcases List.mem_cons.1 hx with rfl | hx
    · simp [Action.concerns, hba]
    · rw [List.mem_singleton.1 hx]
      rfl

theorem Timely.move {sys : System} {a : SocketAddr} {s s' : Core} {out : Option Event}
    (h : Timely sys a s) (haddr : Addressed s) (hmove : Move sys s out s') : Timely sys a s' := by
  cases hmove with
  | plain x hx =>
    have hall : ∀ y ∈ [x], y = x := fun y hy => List.mem_singleton.1 hy
    refine h.keep rfl (fun y hy => ?_) (fun c hc hstate => ⟨c, hc, hstate⟩) (fun _ => id)
      fun he => ⟨he, fun y hy => ?_⟩
    · rw [hall y hy]
      exact ⟨Action.not_concerns_of_isPlain hx a, Action.not_isTick_of_isPlain hx⟩
    · rw [hall y hy]
      exact Action.not_isRecv_of_isPlain hx
  | draw i m hi key =>
    exact h.keep rfl (by simp [Action.concerns, Action.isTick])
      (fun c hc hstate => ⟨c, hc, hstate⟩) (fun _ => id) fun he => ⟨he, by simp [Action.isRecv]⟩
  | takeMaster ps i m hi hp key =>
    refine h.keep rfl (by simp [Action.concerns, Action.isTick])
      (fun c hc hstate => ⟨c, hc, hstate⟩) (fun _ hmem => ?_) fun he => ⟨he, by simp [Action.isRecv]⟩
    rw [hp] at hmem
    exact (List.mem_append.1 hmem).resolve_right (by simp)
  | dropMaster ps b hp =>
    refine h.keep (List.append_nil _).symm (by simp) (fun c hc hstate => ⟨c, hc, hstate⟩)
      (fun _ hmem => ?_) fun he => ⟨he, by simp⟩
    rw [hp] at hmem
    exact (List.mem_append.1 hmem).resolve_right (by simp)
  | dropServer ps b hp hnone =>
    refine h.keep (List.append_nil _).symm (by simp) (fun c hc hstate => ⟨c, hc, hstate⟩)
      (fun hsome hmem => ?_) fun he => ⟨he, by simp⟩
    rw [hp] at hmem
    refine (List.mem_append.1 hmem).resolve_right fun hlast => ?_
    rw [Pending.server.inj (List.mem_singleton.1 hlast)] at hsome
    rw [show _ = none from hnone] at hsome
    cases hsome
  | ask ps b c packet ok hc hp hpacket => exact h.ask haddr hc hp hpacket
  | touch b c c' hc hsame =>
    refine h.keep_set rfl (List.append_nil _).symm (by simp) ?_ id fun he => ⟨he, by simp⟩
    rintro rfl c'' hc'' hstate
    cases hc''
    exact ⟨c, hc, Connection.SameInfo.state hsame ▸ hstate⟩
  | tick connections hmem hevents => exact h.tick hmem hevents _
  | report b c hc hstate htick => exact h.report hstate htick
  | cleanup b c hc =>
    refine h.keep_set rfl rfl (by simp [Action.concerns, Action.isTick]) ?_ id fun he => ?_
    · rintro - c' ⟨⟩
    · exact ⟨(List.mem_append.1 he).resolve_right (by simp), by simp [Action.isRecv]⟩
  | pop e es he =>
    exact h.keep (List.append_nil _).symm (by simp) (fun c hc hstate => ⟨c, hc, hstate⟩)
      (fun _ => id) fun hmem => ⟨he ▸ List.mem_append_left _ hmem, by simp⟩
  | timeout => exact h
  | masterPacket m data hs =>
    refine h.keep rfl (by simp [Action.concerns, Action.isTick])
      (fun c hc hstate => ⟨c, hc, hstate⟩) (fun _ => id) fun he => ?_
    exact absurd (hs.delayedEvents ▸ he) (by simp)
  | stranger b data hs =>
    refine h.keep rfl (by simp [Action.concerns, Action.isTick])
      (fun c hc hstate => ⟨c, hc, hstate⟩) (fun _ => id) fun he => ?_
    exact absurd (hs.delayedEvents ▸ he) (by simp)
  | info b c c' data i hs _ _ hidle => exact h.info hs hidle
  | legacy b c data hs hdata hstate =>
    exact h.handed hs (by simp [hdata]) fun _ _ _ => by simp [hstate]
  | invalidProtocol b c data hs hdata => exact h.handed hs (by simp [hdata]) nofun
  | packet b c c' data out hs hok _ hsame =>
    refine h.handed hs hok ?_
    rintro c'' ⟨⟩ hstate
    exact Connection.SameInfo.state hsame ▸ hstate

theorem Timely.called {sys : System} {a : SocketAddr} {s s' : Core} {c : Call}
    (h : Timely sys a s) (hcall : Called sys s c s') : Timely sys a s' := by
  cases hcall with
  | setFilterRaw | knownMaster | knownServer => exact h
  | insertMaster m =>
    exact h.keep rfl (by simp [Action.concerns, Action.isTick])
      (fun c hc hstate => ⟨c, hc, hstate⟩) (fun _ => List.mem_append_left _)
      fun he => ⟨he, by simp [Action.isRecv]⟩
  | removeMaster m ms ps _ hp =>
    exact h.keep (List.append_nil _).symm (by simp) (fun c hc hstate => ⟨c, hc, hstate⟩)
      (fun _ hmem => hp.2 _ hmem (by simp)) fun he => ⟨he, by simp⟩
  | unknownMaster b ps _ hp =>
    exact h.keep (List.append_nil _).symm (by simp) (fun c hc hstate => ⟨c, hc, hstate⟩)
      (fun _ hmem => hp.2 _ hmem (by simp)) fun he => ⟨he, by simp⟩
  | insertServer server =>
    have htick : ∀ x ∈ [.now, Action.insertServer server.addr], x.isTick = false := by
      simp [Action.isTick]
    have hrecv : ∀ x ∈ [.now, Action.insertServer server.addr], x.isRecv = false := by
      simp [Action.isRecv]
    by_cases hba : server.addr = a
    · refine ⟨fun _ _ _ => Or.inl ?_, h.ticks_append htick, h.queued_append htick hrecv⟩
      rw [← hba]
      exact List.mem_append_right _ (List.mem_singleton_self _)
    · refine h.keep_set rfl rfl (fun x hx => ⟨?_, htick x hx⟩) (fun heq => absurd heq hba)
        (List.mem_append_left _) fun he => ⟨he, hrecv⟩
      rcases List.mem_cons.1 hx with rfl | hx
      · rfl
      · rw [List.mem_singleton.1 hx]
        simp [Action.concerns, hba]
  | removeServer b ps hp =>
    by_cases hba : b = a
    · subst hba
      refine ⟨fun c hc _ => ?_, h.ticks, h.queued⟩
      replace hc : Function.update s.connections b none b = some c := hc
      rw [Function.update_self] at hc
      cases hc
    · exact h.keep_set rfl (List.append_nil _).symm (by simp) (fun heq => absurd heq hba)
        (fun hmem => hp.2 _ hmem fun heq => hba (Pending.server.inj heq).symm) fun he => ⟨he, by simp⟩

theorem timely_preserved (sys : System) (a : SocketAddr) :
    Preserved sys (fun _ s => Addressed s ∧ Timely sys a s)
      fun _ s => Addressed s ∧ Timely sys a s := by
  have haddr := addressed_preserved sys
  refine Preserved.of_invariant ⟨haddr.bind, ?_, ?_, ?_⟩ (fun s c s' h hcall => ?_)
    fun s out s' h hmove => ⟨?_, h.2.move h.1 hmove⟩
  · rintro c ⟨⟩
  · intro u t connections pending v heq
    have hmem : .infoTick t connections pending ∈ [Action.now] := by
      rw [show [Action.now] = _ from heq]
      simp
    simp at hmem
  · rintro - ⟨⟩
  · exact ⟨haddr.called [] s c s' h.1 hcall, h.2.called hcall⟩
  · cases out with
    | none => exact haddr.silent [] s s' h.1 hmove
    | some e => exact haddr.event [] s e s' h.1 hmove

/-- Only a queued timeout is returned as one. -/
theorem Move.serverInfoTimeout {sys : System} {s s' : Core} {out : Option Event} {a : SocketAddr}
    (hmove : Move sys s out s') (h : out = some (.serverInfoTimeout a)) :
    .serverTimeout a ∈ s.delayedEvents ∧ s'.trace = s.trace := by
  cases hmove with
  | pop e es he =>
    cases e <;> cases h
    exact ⟨he ▸ List.mem_append_right _ (List.mem_singleton_self _), rfl⟩
  | masterPacket m data =>
    rcases handleMasterPacket_cases h with ⟨r, hr⟩ | ⟨i, hi⟩ | hm
    · cases hr
    · cases hi
    · cases hm
  | packet _ _ _ _ _ _ _ _ _ hout => rcases hout with rfl | ⟨_, rfl⟩ | rfl <;> cases h
  | _ => cases h

/-- A timeout is returned only after a wait, if the last tick came late enough after a request. -/
theorem timeout_waited {sys : System} {rs : List Record} {w w' : World Observer}
    (hrun : Run sys rs w) {turns : ℕ} {timeout : Option ℕ} {a : SocketAddr}
    (hwait : waitEvent sys turns timeout w = .ok (.serverInfoTimeout a) w')
    (hon : OnTime sys a w'.trace) : Waited sys a w'.trace := by
  have hpreserved := timely_preserved sys a
  obtain ⟨s, ⟨-, hs⟩, hmove⟩ := hpreserved.returned rs (hpreserved.run hrun) hwait
  obtain ⟨hmem, htrace⟩ := hmove.serverInfoTimeout rfl
  have hw' : w'.trace = s.trace := htrace
  rw [hw'] at hon ⊢
  exact hs.queued hon hmem

/-! ## A timeout in time, and one too early -/

/-- The condition for one address, checked of every tick: nothing was received since the request. -/
def checkOnTime (sys : System) (a : SocketAddr) (tr : List Action) : Bool :=
  (List.range tr.length).all fun k => match tr[k]? with
    | some (.infoTick t connections pending) => connections.all fun p =>
      p.1 ≠ a || !p.2.isValid t || pending.contains (.server a) || p.2.state = .idle ||
        (outstanding a (tr.take k)).all fun r =>
          r.any fun n =>
            sys.clock n + serverInterval ≤ t && ((tr.take k).drop n).all (!·.isRecv)
    | _ => true

theorem onTime_of_check {sys : System} {a : SocketAddr} {tr : List Action}
    (h : checkOnTime sys a tr = true) : OnTime sys a tr := by
  intro u t connections pending v htr _ c hc hvalid hp hstate first ho
  have htake : tr.take u.length = u := by
    rw [htr]
    exact List.take_left
  have hget : tr[u.length]? = some (.infoTick t connections pending) := by
    rw [htr, List.getElem?_append_right le_rfl, Nat.sub_self]
    rfl
  have hlt : u.length < tr.length := (List.getElem?_eq_some_iff.1 hget).1
  have hk := List.all_eq_true.1 h u.length (List.mem_range.2 hlt)
  rw [hget, htake] at hk
  have hcheck := List.all_eq_true.1 hk (a, c) hc
  rw [ho] at hcheck
  have hany : (first.any fun n => sys.clock n + serverInterval ≤ t &&
      (u.drop n).all (!·.isRecv)) = true := by
    simpa [hvalid, hp, hstate] using hcheck
  obtain ⟨n, rfl, hn⟩ := (Option.any_eq_true _ _).1 hany
  have hall : sys.clock n + serverInterval ≤ t ∧ ∀ x ∈ u.drop n, x.isRecv = false := by
    simpa using hn
  refine ⟨n, rfl, hall.1, fun data _ hmem => ?_⟩
  cases hall.2 _ hmem

/-- A system without datagrams that ticks once more after a query, at a reading of the clock. -/
def tickingSystem (t : ℕ) (h : t ≤ serverInterval) : System where
  clock n := if n = 0 then 0 else if n < 12 then t else serverInterval
  clock_mono a b hab := by
    dsimp only
    split_ifs <;> omega
  rng _ := 0
  send _ := true
  setReadTimeout _ := true
  recv _ := .error .wouldBlock
  traceEnabled _ := false
  order _ l := l
  order_perm _ l := .refl l

def askedAddr : SocketAddr := .v4 ⟨⟨⟨[10, 0, 0, 3], rfl⟩⟩, 27015⟩

/-- The observer after a server was inserted at a reading of the clock. -/
def askedWorld (t : ℕ) : World Observer :=
  ⟨{ Observer.bind 0 with
      connections := (∅ : AList fun _ : SocketAddr => Connection).insert askedAddr
        (.new askedAddr false t)
      pending := [.server askedAddr] }, [.now, .now, .insertServer askedAddr]⟩

theorem run_askedWorld (t : ℕ) (h : t ≤ serverInterval) :
    Run (tickingSystem t h) [.call (.insertServer ⟨askedAddr, false⟩)] (askedWorld t) :=
  Run.call (.insertServer ⟨askedAddr, false⟩) Run.bind rfl

theorem timeout_waited_one : ∃ w', waitEvent (tickingSystem 0 (Nat.zero_le _)) 3 none
    (askedWorld 0) = .ok (.serverInfoTimeout askedAddr) w' ∧
    Waited (tickingSystem 0 (Nat.zero_le _)) askedAddr w'.trace := by
  obtain ⟨e, w', hwait, heq⟩ := exists_of_returned
    (f := fun r => (r.1, checkOnTime (tickingSystem 0 (Nat.zero_le _)) askedAddr r.2.trace))
    (x := (.serverInfoTimeout askedAddr, true))
    (r := waitEvent (tickingSystem 0 (Nat.zero_le _)) 3 none (askedWorld 0)) (by decide +kernel)
  obtain ⟨rfl, hcheck⟩ := Prod.mk.inj heq
  exact ⟨w', hwait, timeout_waited (run_askedWorld 0 _) hwait (onTime_of_check hcheck)⟩

theorem early_le : 1900000000 ≤ serverInterval := by decide

/-- A server that is inserted a tenth of a second before a tick times out at the tick. -/
theorem timeout_early : ¬ ∀ (sys : System) (rs : List Record) (w w' : World Observer) (turns : ℕ)
    (timeout : Option ℕ) (a : SocketAddr), Run sys rs w →
    waitEvent sys turns timeout w = .ok (.serverInfoTimeout a) w' → Waited sys a w'.trace := by
  intro hall
  obtain ⟨e, w', hwait, heq⟩ := exists_of_returned (f := fun r => (r.1, r.2.trace.head?))
    (x := (.serverInfoTimeout askedAddr, some .now))
    (r := waitEvent (tickingSystem 1900000000 early_le) 3 none (askedWorld 1900000000))
    (by decide +kernel)
  obtain ⟨rfl, hhead⟩ := Prod.mk.inj heq
  obtain ⟨u, packet, v, htr, -, hclock, -⟩ := hall _ _ _ w' 3 none askedAddr
    (run_askedWorld 1900000000 early_le) hwait
  cases u with
  | nil =>
    rw [htr] at hhead
    cases hhead
  | cons x u =>
    have hle := early_le
    -- every reading but the first is later than what the clock read at the last tick less two seconds
    have hfirst : 1900000000 ≤ (tickingSystem 1900000000 early_le).clock (x :: u).length := by
      unfold tickingSystem
      dsimp only
      rw [if_neg (by simp)]
      split_ifs <;> omega
    have hlast : (tickingSystem 1900000000 early_le).clock w'.trace.length ≤ serverInterval := by
      unfold tickingSystem
      dsimp only
      split_ifs <;> omega
    omega

end Observer

end Xash3d
