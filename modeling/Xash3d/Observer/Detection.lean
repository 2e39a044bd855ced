import Xash3d.Observer.InfoTimeout

/-!
# Detection of the protocol version

A connection tries the legacy protocol on the first reply about a wrong version. Such replies do not
say which request they answer: when two requests of the current version are under way, the second
reply is taken for an answer to the legacy request, and the connection is removed. `detection_iff`
says that this is the only way: a server is given up exactly when a reply about a wrong version
comes after another reply.
-/

namespace Xash3d

open Lib

/-- The datagram says that the protocol version of a request is wrong. -/
def isWrongVersion (data : Bytes) : Bool :=
  match GetServerInfoResponse.decode data with
  | .error .invalidProtocolVersion => true
  | _ => false

/-- The connection still asks with the current version, and had no answer. -/
def Connection.Detecting (c : Connection) : Prop :=
  c.state = .protocolDetection ∧ c.protocol = protocolVersion

/-- Such actions make a connection of an address, or hand a datagram to it. -/
def Action.isNews (a : SocketAddr) : Action → Bool
  | insertServer b => b = a
  | handed b _ => b = a
  | _ => false

theorem Action.not_isNews_of_isPlain {x : Action} (h : x.isPlain = true) (a : SocketAddr) :
    x.isNews a = false := by
  cases x <;> first | rfl | cases h

namespace Observer

/-! ## Replies -/

/-- The connection of `a` got a reply, if one more action happens. -/
def reply (a : SocketAddr) (b : Bool) : Action → Bool
  | .insertServer c => if c = a then false else b
  | .handed c data => if c = a then b || isInfo data || isWrongVersion data else b
  | _ => b

/-- The connection of `a` got information, or a reply about a wrong version, since it was made. -/
def replied (a : SocketAddr) (tr : List Action) : Bool := tr.foldl (reply a) false

/-- A reply about a wrong version came after another reply to the same connection. -/
def LateReply (a : SocketAddr) (tr : List Action) : Prop :=
  ∃ u data v, tr = u ++ .handed a data :: v ∧ isWrongVersion data = true ∧ replied a u = true

theorem replied_snoc (a : SocketAddr) (tr : List Action) (x : Action) :
    replied a (tr ++ [x]) = reply a (replied a tr) x :=
  List.foldl_concat ..

theorem reply_of_not_isNews {a : SocketAddr} {x : Action} (h : x.isNews a = false) (b : Bool) :
    reply a b x = b := by
  cases x with
  | insertServer c => exact if_neg (by simpa [Action.isNews] using h)
  | handed c data => exact if_neg (by simpa [Action.isNews] using h)
  | _ => rfl

theorem lateReply_snoc {a : SocketAddr} {tr : List Action} {x : Action} :
    LateReply a (tr ++ [x]) ↔ LateReply a tr ∨
      ∃ data, x = .handed a data ∧ isWrongVersion data = true ∧ replied a tr = true := by
  constructor
  · rintro ⟨u, data, v, heq, hdata, hu⟩
    rcases append_cons_eq_snoc heq.symm with ⟨v', -, hold⟩ | ⟨-, hx, rfl⟩
    · exact Or.inl ⟨u, data, v', hold, hdata, hu⟩
    · exact Or.inr ⟨data, hx.symm, hdata, hu⟩
  · rintro (⟨u, data, v, rfl, hdata, hu⟩ | ⟨data, rfl, hdata, hu⟩)
    · exact ⟨u, data, v ++ [x], by simp, hdata, hu⟩
    · exact ⟨tr, data, [], rfl, hdata, hu⟩

/-- Nothing happens to the connection. -/
theorem quiet_append {a : SocketAddr} (tr : List Action) {as : List Action}
    (h : ∀ x ∈ as, x.isNews a = false) :
    replied a (tr ++ as) = replied a tr ∧ (LateReply a (tr ++ as) ↔ LateReply a tr) := by
  induction as using List.reverseRecOn with
  | nil => simp
  | append_singleton as x ih =>
    obtain ⟨hreplied, hlate⟩ := ih fun y hy => h y (List.mem_append_left _ hy)
    have hx : x.isNews a = false := h x (by simp)
    rw [← List.append_assoc, replied_snoc, reply_of_not_isNews hx, lateReply_snoc]
    refine ⟨hreplied, ?_⟩
    rw [hlate]
    refine or_iff_left ?_
    rintro ⟨data, rfl, -⟩
    simp [Action.isNews] at hx

/-- A datagram goes to the connection. -/
theorem handed_append (a : SocketAddr) (tr : List Action) (data : Bytes) {as : List Action}
    (h : ∀ x ∈ as, x.isNews a = false) :
    replied a (tr ++ .recv a data :: .handed a data :: as) =
        (replied a tr || isInfo data || isWrongVersion data) ∧
      (LateReply a (tr ++ .recv a data :: .handed a data :: as) ↔
        LateReply a tr ∨ isWrongVersion data = true ∧ replied a tr = true) := by
  obtain ⟨hreplied, hlate⟩ := quiet_append (tr ++ [.recv a data] ++ [.handed a data]) h
  obtain ⟨hrecv, hlate'⟩ := @quiet_append a tr [.recv a data] (by simp [Action.isNews])
  have hsplit : tr ++ .recv a data :: .handed a data :: as =
      tr ++ [.recv a data] ++ [.handed a data] ++ as := by simp
  rw [hsplit, hreplied, hlate, replied_snoc, lateReply_snoc, hrecv, hlate']
  refine ⟨if_pos rfl, or_congr_right ?_⟩
  constructor
  · rintro ⟨data', heq, hdata⟩
    cases heq
    exact hdata
  · exact fun hdata => ⟨data, rfl, hdata⟩

/-! ## The invariant -/

/-- A connection is detecting as long as it got no reply, and it was given up if one came late. -/
structure Detects (a : SocketAddr) (rs : List Record) (s : Core) : Prop where
  detecting : ∀ c, s.connections a = some c → (c.Detecting ↔ replied a s.trace = false)
  givenUp : .event (.serverInvalidProtocol a) ∈ rs ↔ LateReply a s.trace

namespace Detects

variable {a : SocketAddr} {rs rs' : List Record} {s s' : Core}

/-- Nothing happens to the connection. -/
theorem keep (h : Detects a rs s) {as : List Action} (ht : s'.trace = s.trace ++ as)
    (has : ∀ x ∈ as, x.isNews a = false)
    (hc : ∀ c', s'.connections a = some c' →
      ∃ c, s.connections a = some c ∧ (c'.Detecting ↔ c.Detecting))
    (hrs : .event (.serverInvalidProtocol a) ∈ rs' ↔ .event (.serverInvalidProtocol a) ∈ rs) :
    Detects a rs' s' := by
  obtain ⟨hreplied, hlate⟩ := quiet_append s.trace has
  refine ⟨fun c' hc' => ?_, ?_⟩
  · obtain ⟨c, hc₀, hiff⟩ := hc c' hc'
    rw [ht, hreplied, hiff]
    exact h.detecting c hc₀
  · rw [hrs, ht, hlate]
    exact h.givenUp

/-- A connection changes. -/
theorem keep_set (h : Detects a rs s) {b : SocketAddr} {c c' : Connection}
    (hs : s'.connections = Function.update s.connections b (some c'))
    (hcb : s.connections b = some c) (hdetect : c'.Detecting ↔ c.Detecting) {as : List Action}
    (ht : s'.trace = s.trace ++ as) (has : ∀ x ∈ as, x.isNews a = false)
    (hrs : .event (.serverInvalidProtocol a) ∈ rs' ↔ .event (.serverInvalidProtocol a) ∈ rs) :
    Detects a rs' s' := by
  refine h.keep ht has (fun c'' hc'' => ?_) hrs
  rw [hs] at hc''
  by_cases hb : a = b
  · subst hb
    rw [Function.update_self] at hc''
    cases hc''
    exact ⟨c, hcb, hdetect⟩
  · rw [Function.update_of_ne hb] at hc''
    exact ⟨c'', hc'', Iff.rfl⟩

/-- A connection is removed. -/
theorem keep_remove (h : Detects a rs s) {b : SocketAddr}
    (hs : s'.connections = Function.update s.connections b none) {as : List Action}
    (ht : s'.trace = s.trace ++ as) (has : ∀ x ∈ as, x.isNews a = false)
    (hrs : .event (.serverInvalidProtocol a) ∈ rs' ↔ .event (.serverInvalidProtocol a) ∈ rs) :
    Detects a rs' s' := by
  refine h.keep ht has (fun c hc => ?_) hrs
  rw [hs] at hc
  by_cases hb : a = b
  · subst hb
    rw [Function.update_self] at hc
    cases hc
  · rw [Function.update_of_ne hb] at hc
    exact ⟨c, hc, Iff.rfl⟩

/-- A datagram goes to a connection. -/
theorem handed (h : Detects a rs s) {b : SocketAddr} {c : Connection} {o : Option Connection}
    {data : Bytes} (hcb : s.connections b = some c)
    (hs : s'.connections = Function.update s.connections b o) {as : List Action}
    (ht : s'.trace = s.trace ++ .recv b data :: .handed b data :: as)
    (has : ∀ a, ∀ x ∈ as, x.isNews a = false)
    (hdetect : ∀ c', o = some c' →
      (c'.Detecting ↔ c.Detecting ∧ isInfo data = false ∧ isWrongVersion data = false))
    (hrs : .event (.serverInvalidProtocol a) ∈ rs' ↔ .event (.serverInvalidProtocol a) ∈ rs ∨
      b = a ∧ isWrongVersion data = true ∧ ¬ c.Detecting) : Detects a rs' s' := by
  by_cases hba : b = a
  · subst hba
    obtain ⟨hreplied, hlate⟩ := handed_append b s.trace data (has b)
    have hc := h.detecting c hcb
    refine ⟨fun c' hc' => ?_, ?_⟩
    · rw [hs, Function.update_self] at hc'
      rw [ht, hreplied, hdetect c' hc', hc]
      simp [and_assoc]
    · rw [hrs, ht, hlate, h.givenUp, hc]
      simp
  · have hrs' : .event (.serverInvalidProtocol a) ∈ rs' ↔
        .event (.serverInvalidProtocol a) ∈ rs := by
      rw [hrs]
      exact or_iff_left fun hlate => hba hlate.1
    refine h.keep ht (fun x hx => ?_) (fun c' hc' => ?_) hrs'
    · rcases List.mem_cons.1 hx with rfl | hx
      · rfl
      rcases List.mem_cons.1 hx with rfl | hx
      · simp [Action.isNews, hba]
      · exact has a x hx
    · rw [hs, Function.update_of_ne (Ne.symm hba)] at hc'
      exact ⟨c', hc', Iff.rfl⟩

end Detects

theorem mem_told {rs : List Record} {out : Option Event} {e : Event} :
    .event e ∈ rs ++ told out ↔ .event e ∈ rs ∨ out = some e := by
  rw [List.mem_append]
  refine or_congr_right ?_
  cases out <;> simp [told, eq_comm]

theorem Connection.SameInfo.detecting {c c' : Connection} (h : c.SameInfo c') :
    c'.Detecting ↔ c.Detecting := by
  unfold Connection.Detecting
  rw [Connection.SameInfo.state h, Connection.SameInfo.protocol h]

theorem isWrongVersion_of_decode {data : Bytes}
    (h : GetServerInfoResponse.decode data = .error .invalidProtocolVersion) :
    isInfo data = false ∧ isWrongVersion data = true := by
  unfold isInfo isWrongVersion
  rw [h]
  exact ⟨rfl, rfl⟩

theorem not_isWrongVersion {data : Bytes}
    (h : GetServerInfoResponse.decode data ≠ .error .invalidProtocolVersion) :
    isWrongVersion data = false := by
  unfold isWrongVersion
  split
  · rename_i heq
    exact absurd heq h
  · rfl

theorem Detects.move {sys : System} {a : SocketAddr} {rs : List Record} {s s' : Core}
    {out : Option Event} (h : Detects a rs s) (haddr : Addressed s) (hmove : Move sys s out s') :
    Detects a (rs ++ told out) s' := by
  have hother : out ≠ some (.serverInvalidProtocol a) →
      (.event (.serverInvalidProtocol a) ∈ rs ++ told out ↔
        .event (.serverInvalidProtocol a) ∈ rs) := by
    intro hne
    rw [mem_told]
    exact or_iff_left hne
  have hsame : ∀ {s' : Core}, s'.connections = s.connections → ∀ c', s'.connections a = some c' →
      ∃ c, s.connections a = some c ∧ (c'.Detecting ↔ c.Detecting) := by
    intro s' heq c' hc'
    exact ⟨c', heq ▸ hc', Iff.rfl⟩
  cases hmove with
  | plain x hx =>
    refine h.keep rfl ?_ (hsame rfl) (hother (by simp))
    simpa using Action.not_isNews_of_isPlain hx a
  | draw | takeMaster | tick | stranger =>
    exact h.keep rfl (by simp [Action.isNews]) (hsame rfl) (hother (by simp))
  | dropMaster | dropServer | report | timeout =>
    exact h.keep (List.append_nil _).symm (by simp) (hsame rfl) (hother (by simp))
  | ask ps b c packet ok hc =>
    refine h.keep_set rfl hc ?_ rfl (by simp [Action.isNews]) (hother (by simp))
    unfold Connection.Detecting Connection.asked
    cases hstate : c.state <;> simp
  | touch b c c' hc hsame' =>
    exact h.keep_set rfl hc (Connection.SameInfo.detecting hsame') (List.append_nil _).symm
      (by simp) (hother (by simp))
  | cleanup b =>
    exact h.keep_remove rfl rfl (by simp [Action.isNews]) (hother (by simp))
  | pop e es =>
    refine h.keep (List.append_nil _).symm (by simp) (hsame rfl) (hother ?_)
    cases e <;> simp [DelayedEvent.toEvent]
  | masterPacket m data =>
    refine h.keep rfl (by simp [Action.isNews]) (hsame rfl) (hother fun heq => ?_)
    rcases handleMasterPacket_cases heq with ⟨r, hr⟩ | ⟨i, hi⟩ | hm
    · cases hr
    · cases hi
    · cases hm
  | info b c c' data i hs hdata _ hidle =>
    have hinfo : isInfo data = true := by
      unfold isInfo
      rw [hdata]
    have hwrong : isWrongVersion data = false := not_isWrongVersion (by simp [hdata])
    refine h.handed hs.connection rfl rfl (by simp [Action.isNews]) (fun c'' hc'' => ?_) ?_
    · cases hc''
      simp [Connection.Detecting, hidle, hinfo]
    · rw [hother (by simp), hwrong]
      simp
  | legacy b c data hs hdata hstate hprotocol =>
    have hwrong := isWrongVersion_of_decode hdata
    refine h.handed hs.connection rfl rfl (by simp) (fun c'' hc'' => ?_) ?_
    · cases hc''
      have hne : protocolVersion - 1 ≠ protocolVersion := by decide
      simp [Connection.Detecting, Connection.setLegacyProtocol, hwrong.2, hne]
    · rw [hother (by simp)]
      simp [Connection.Detecting, hstate, hprotocol]
  | invalidProtocol b c data hs hdata hnot =>
    have hwrong := isWrongVersion_of_decode hdata
    refine h.handed hs.connection rfl rfl (by simp) (fun c'' hc'' => by cases hc'') ?_
    rw [mem_told, haddr b c hs.connection]
    refine or_congr_right ?_
    rw [Option.some.injEq, Event.serverInvalidProtocol.injEq]
    exact ⟨fun hb => ⟨hb, hwrong.2, hnot⟩, fun hb => hb.1⟩
  | packet b c c' data out hs hok herror hsame' hout =>
    have hinfo := isInfo_of_decode hok
    have hwrong := not_isWrongVersion herror
    refine h.handed hs.connection rfl rfl (by simp) (fun c'' hc'' => ?_) ?_
    · cases hc''
      rw [Connection.SameInfo.detecting hsame']
      simp [hinfo, hwrong]
    · rw [hwrong, hother]
      · simp
      · rcases hout with rfl | ⟨r, rfl⟩ | rfl <;> simp

theorem Detects.called {sys : System} {a : SocketAddr} {rs : List Record} {s s' : Core} {c : Call}
    (h : Detects a rs s) (hcall : Called sys s c s') : Detects a (rs ++ [.call c]) s' := by
  have hrs : Record.event (.serverInvalidProtocol a) ∈ rs ++ [.call c] ↔
      .event (.serverInvalidProtocol a) ∈ rs := by simp
  have hsame : ∀ {s' : Core}, s'.connections = s.connections → ∀ c', s'.connections a = some c' →
      ∃ c, s.connections a = some c ∧ (c'.Detecting ↔ c.Detecting) := by
    intro s' heq c' hc'
    exact ⟨c', heq ▸ hc', Iff.rfl⟩
  cases hcall with
  | insertMaster => exact h.keep rfl (by simp [Action.isNews]) (hsame rfl) hrs
  | setFilterRaw | knownMaster | removeMaster | unknownMaster | knownServer =>
    exact h.keep (List.append_nil _).symm (by simp) (hsame rfl) hrs
  | insertServer server hnone =>
    by_cases hba : server.addr = a
    · subst hba
      obtain ⟨-, hlate⟩ := @quiet_append server.addr s.trace [.now]
        (by simp [Action.isNews])
      have hsplit : s.trace ++ [.now, .insertServer server.addr] =
          s.trace ++ [.now] ++ [.insertServer server.addr] := by simp
      refine ⟨fun c' hc' => ?_, ?_⟩
      · replace hc' : Function.update s.connections server.addr _ server.addr = some c' := hc'
        rw [Function.update_self] at hc'
        cases hc'
        show _ ↔ replied server.addr (s.trace ++ _) = false
        rw [hsplit, replied_snoc]
        simp [Connection.Detecting, Connection.new, reply]
      · show _ ↔ LateReply server.addr (s.trace ++ _)
        rw [hrs, hsplit, lateReply_snoc, hlate, h.givenUp]
        simp
    · refine h.keep rfl ?_ (fun c' hc' => ?_) hrs
      · intro x hx
        rcases List.mem_cons.1 hx with rfl | hx
        · rfl
        · rw [List.mem_singleton.1 hx]
          simp [Action.isNews, hba]
      · replace hc' : Function.update s.connections server.addr _ a = some c' := hc'
        rw [Function.update_of_ne (Ne.symm hba)] at hc'
        exact ⟨c', hc', Iff.rfl⟩
  | removeServer b => exact h.keep_remove rfl (List.append_nil _).symm (by simp) hrs

/-! ## No connection is lost otherwise -/

/-- The number of connections of an address. -/
def connected (a : SocketAddr) (s : Core) : ℕ := if (s.connections a).isSome then 1 else 0

/-- Every connection that was made is there, or was cleaned up, removed by a call, or given up. -/
structure Accounted (a : SocketAddr) (rs : List Record) (s : Core) : Prop where
  le : s.trace.count (.insertServer a) ≤ connected a s + s.trace.count (.cleanup a) +
    rs.count (.call (.removeServer a)) + rs.count (.event (.serverInvalidProtocol a))

namespace Accounted

variable {a : SocketAddr} {rs rs' : List Record} {s s' : Core}

theorem append (h : Accounted a rs s) {as : List Action} (ht : s'.trace = s.trace ++ as)
    (hle : as.count (.insertServer a) + connected a s ≤ connected a s' + as.count (.cleanup a) +
      rs'.count (.call (.removeServer a)) + rs'.count (.event (.serverInvalidProtocol a))) :
    Accounted a (rs ++ rs') s' := by
  have hold := h.le
  constructor
  rw [ht]
  simp only [List.count_append]
  omega

/-- No connection is made or lost. -/
theorem keep (h : Accounted a rs s) {as : List Action} (ht : s'.trace = s.trace ++ as)
    (hc : (s'.connections a).isSome = (s.connections a).isSome)
    (has : .insertServer a ∉ as) : Accounted a (rs ++ rs') s' := by
  refine h.append ht ?_
  unfold connected
  rw [List.count_eq_zero.2 has, hc]
  omega

theorem keep_set (h : Accounted a rs s) {b : SocketAddr} {c c' : Connection}
    (hcb : s.connections b = some c)
    (hs : s'.connections = Function.update s.connections b (some c')) {as : List Action}
    (ht : s'.trace = s.trace ++ as) (has : .insertServer a ∉ as) :
    Accounted a (rs ++ rs') s' := by
  refine h.keep ht ?_ has
  rw [hs]
  by_cases hb : a = b
  · subst hb
    rw [Function.update_self, hcb]
    rfl
  · rw [Function.update_of_ne hb]

/-- A connection is lost, which is accounted for. -/
theorem lose (h : Accounted a rs s) {b : SocketAddr}
    (hs : s'.connections = Function.update s.connections b none) {as : List Action}
    (ht : s'.trace = s.trace ++ as) (has : .insertServer a ∉ as)
    (hlost : b = a → 0 < as.count (.cleanup a) + rs'.count (.call (.removeServer a)) +
      rs'.count (.event (.serverInvalidProtocol a))) : Accounted a (rs ++ rs') s' := by
  by_cases hb : b = a
  · subst hb
    refine h.append ht ?_
    have hpos := hlost rfl
    have hle : connected b s ≤ 1 := by
      unfold connected
      split <;> omega
    rw [List.count_eq_zero.2 has]
    omega
  · refine h.keep ht ?_ has
    rw [hs, Function.update_of_ne (Ne.symm hb)]

theorem move {sys : System} {out : Option Event} (h : Accounted a rs s) (haddr : Addressed s)
    (hmove : Move sys s out s') : Accounted a (rs ++ told out) s' := by
  cases hmove with
  | plain x hx =>
    refine h.keep rfl rfl ?_
    intro hmem
    rw [List.mem_singleton] at hmem
    rw [← hmem] at hx
    cases hx
  | draw | takeMaster | tick | stranger | masterPacket => exact h.keep rfl rfl (by simp)
  | dropMaster | dropServer | report | timeout | pop =>
    exact h.keep (List.append_nil _).symm rfl (by simp)
  | ask ps b c packet ok hc => exact h.keep_set hc rfl rfl (by simp)
  | touch b c c' hc => exact h.keep_set hc rfl (List.append_nil _).symm (by simp)
  | cleanup b =>
    refine h.lose rfl rfl (by simp) ?_
    rintro rfl
    rw [List.count_singleton_self]
    omega
  | info b c c' data i hs => exact h.keep_set hs.connection rfl rfl (by simp)
  | legacy b c data hs => exact h.keep_set hs.connection rfl rfl (by simp)
  | invalidProtocol b c data hs =>
    refine h.lose rfl rfl (by simp) ?_
    rintro rfl
    rw [haddr b c hs.connection]
    simp [told]
  | packet b c c' data out hs => exact h.keep_set hs.connection rfl rfl (by simp)

theorem called {sys : System} {c : Call} (h : Accounted a rs s) (hcall : Called sys s c s') :
    Accounted a (rs ++ [.call c]) s' := by
  cases hcall with
  | insertMaster => exact h.keep rfl rfl (by simp)
  | setFilterRaw | knownMaster | removeMaster | unknownMaster | knownServer =>
    exact h.keep (List.append_nil _).symm rfl (by simp)
  | insertServer server hnone =>
    by_cases hba : server.addr = a
    · subst hba
      have hnew : connected server.addr
          { (s.record [.now, .insertServer server.addr]).set server.addr
            (some (.new server.addr server.players (sys.clock s.trace.length))) with
            pending := s.pending ++ [.server server.addr] } = 1 :=
        if_pos (by simp [Core.set])
      have hold : connected server.addr s = 0 := if_neg (by simp [hnone])
      have hcount : [.now, Action.insertServer server.addr].count (.insertServer server.addr) = 1 := by
        simp
      refine h.append rfl ?_
      omega
    · refine h.keep rfl ?_ (by simp [Ne.symm hba])
      show (Function.update s.connections server.addr _ a).isSome = _
      rw [Function.update_of_ne (Ne.symm hba)]
  | removeServer b =>
    refine h.lose rfl (List.append_nil _).symm (by simp) ?_
    rintro rfl
    simp

end Accounted

theorem detects_preserved (sys : System) (a : SocketAddr) :
    Preserved sys (fun rs s => Addressed s ∧ Detects a rs s ∧ Accounted a rs s)
      fun rs s => Addressed s ∧ Detects a rs s ∧ Accounted a rs s where
  bind := by
    have hlate : ¬ LateReply a [.now] := by
      rintro ⟨u, data, v, heq, -⟩
      have hmem : .handed a data ∈ [Action.now] := by
        rw [heq]
        simp
      simp at hmem
    have hdetects : Detects a [] (core ⟨Observer.bind (sys.clock 0), [.now]⟩) :=
      ⟨fun c hc => (by cases hc), iff_of_false (by simp) hlate⟩
    exact ⟨(addressed_preserved sys).bind, hdetects, ⟨Nat.zero_le _⟩⟩
  called rs s c s' h hcall :=
    ⟨(addressed_preserved sys).called rs s c s' h.1 hcall, h.2.1.called hcall, h.2.2.called hcall⟩
  enter _ _ h := h
  silent rs s s' h hmove := by
    have hdetects := h.2.1.move h.1 hmove
    have haccounted := h.2.2.move h.1 hmove
    rw [show told none = [] from rfl, List.append_nil] at hdetects haccounted
    exact ⟨(addressed_preserved sys).silent rs s s' h.1 hmove, hdetects, haccounted⟩
  event rs s e s' h hmove :=
    ⟨(addressed_preserved sys).event rs s e s' h.1 hmove, h.2.1.move h.1 hmove, h.2.2.move h.1 hmove⟩
  failed rs s h := by
    refine ⟨h.1, h.2.1.keep (List.append_nil _).symm (by simp) (fun c hc => ⟨c, hc, Iff.rfl⟩) ?_,
      h.2.2.keep (List.append_nil _).symm rfl (by simp)⟩
    simp

/-- In every run, a server is not given up and its connections are lost to the cleanup and the
consumer only, if and only if no reply about a wrong version comes after another reply to the same
connection. -/
theorem detection_iff {sys : System} {rs : List Record} {w : World Observer}
    (hrun : Run sys rs w) (a : SocketAddr) :
    (.event (.serverInvalidProtocol a) ∉ rs ∧
      w.trace.count (.insertServer a) ≤ (if a ∈ w.state.connections then 1 else 0) +
        w.trace.count (.cleanup a) + rs.count (.call (.removeServer a))) ↔
    ¬ LateReply a w.trace := by
  obtain ⟨-, hdetects, haccounted⟩ := (detects_preserved sys a).run hrun
  have hlate : Record.event (.serverInvalidProtocol a) ∈ rs ↔ LateReply a w.trace :=
    hdetects.givenUp
  refine ⟨fun h => fun hl => h.1 (hlate.2 hl), fun h => ?_⟩
  have hrs : Record.event (.serverInvalidProtocol a) ∉ rs := fun hmem => h (hlate.1 hmem)
  refine ⟨hrs, ?_⟩
  have hle := haccounted.le
  rw [List.count_eq_zero.2 hrs, Nat.add_zero] at hle
  have hconnected : connected a (core w) = if a ∈ w.state.connections then 1 else 0 := by
    by_cases ha : a ∈ w.state.connections
    · rw [if_pos ha]
      exact if_pos (AList.lookup_isSome.2 ha)
    · rw [if_neg ha]
      exact if_neg fun hsome => ha (AList.lookup_isSome.1 hsome)
  rw [← hconnected]
  exact hle

/-! ## A legacy server that is given up -/

/-- Every datagram from `a` answers a request that was sent to it: one of the current version with a
reply about a wrong version, and one of the version before with its information. -/
def LegacyServer (a : SocketAddr) (tr : List Action) : Prop :=
  ∀ u data v, tr = u ++ .recv a data :: v → ∃ packet cap, .send a packet true ∈ u ∧
    ((GetServerInfo.mk protocolVersion).encode cap = .ok packet ∧ isWrongVersion data = true ∨
      (GetServerInfo.mk (protocolVersion - 1)).encode cap = .ok packet ∧ isInfo data = true)

/-- A legacy server's reply to a request of the current version. -/
def wrongVersionReply : Bytes :=
  GetServerInfoResponse.header ++ ascii "10.0.0.3:27015: wrong version\n"

/-- A legacy server that answers two requests of the current version more than two seconds late. -/
def slowSystem : System :=
  { tickingSystem 0 (Nat.zero_le _) with
    recv := fun n => if n < 18 then .error .wouldBlock else .ok (askedAddr, wrongVersionReply) }

/-- A request of the current version. -/
def infoRequest : Bytes := GetServerInfo.header ++ ascii "49"

/-- Two waits, the first of which returns. -/
def waitTwice (sys : System) (turns : ℕ) (w : World Observer) :
    EStateM.Result Stop (World Observer) Event :=
  (waitEvent sys turns none >>= fun _ => waitEvent sys turns none) w

theorem exists_of_waitTwice {sys : System} {turns : ℕ} {w₀ w' : World Observer} {e' : Event}
    (h : waitTwice sys turns w₀ = .ok e' w') :
    ∃ e w, waitEvent sys turns none w₀ = .ok e w ∧ waitEvent sys turns none w = .ok e' w' := by
  change EStateM.bind (waitEvent sys turns none) (fun _ => waitEvent sys turns none) w₀ = _ at h
  unfold EStateM.bind at h
  cases hfirst : waitEvent sys turns none w₀ with
  | ok e w =>
    rw [hfirst] at h
    exact ⟨e, w, rfl, h⟩
  | error e w =>
    rw [hfirst] at h
    cases h

theorem encode_infoRequest : (GetServerInfo.mk protocolVersion).encode bufferLen = .ok infoRequest := by
  decide +kernel

theorem run_slowSystem :
    Run slowSystem [.call (.insertServer ⟨askedAddr, false⟩)] (askedWorld 0) :=
  Run.call (.insertServer ⟨askedAddr, false⟩) Run.bind rfl

/-- The server is given up in the second wait, since its second reply is late. -/
theorem detection_iff_slow : ∃ e w w', waitEvent slowSystem 3 none (askedWorld 0) = .ok e w ∧
    waitEvent slowSystem 3 none w = .ok (.serverInvalidProtocol askedAddr) w' ∧
    LateReply askedAddr w'.trace := by
  obtain ⟨_, w', htwice, rfl⟩ := exists_of_returned (f := fun r => r.1)
    (x := .serverInvalidProtocol askedAddr) (r := waitTwice slowSystem 3 (askedWorld 0))
    (by decide +kernel)
  obtain ⟨e, w, hfirst, hsecond⟩ := exists_of_waitTwice htwice
  have hrun := (run_slowSystem.event 3 none e hfirst).event 3 none _ hsecond
  refine ⟨e, w, w', hfirst, hsecond, ?_⟩
  by_contra hlate
  exact ((detection_iff hrun askedAddr).2 hlate).1 (by simp)

/-- After the first actions every received datagram says that the version is wrong. -/
def checkLegacy (tr : List Action) : Bool :=
  (tr.take 18).all (!·.isRecv) && (tr.take 18).contains (.send askedAddr infoRequest true) &&
    tr.all fun x => match x with
      | .recv _ data => isWrongVersion data
      | _ => true

theorem legacyServer_of_check {tr : List Action} (h : checkLegacy tr = true) :
    LegacyServer askedAddr tr := by
  unfold checkLegacy at h
  rw [Bool.and_eq_true, Bool.and_eq_true] at h
  obtain ⟨⟨hrecv, hsend⟩, hall⟩ := h
  intro u data v htr
  have hlong : 18 ≤ u.length := by
    by_contra hlt
    have hmem : .recv askedAddr data ∈ tr.take 18 := by
      rw [htr, List.take_append]
      refine List.mem_append_right _ ?_
      rw [show 18 - u.length = 17 - u.length + 1 by omega, List.take_succ_cons]
      exact List.mem_cons_self
    have hnot := List.all_eq_true.1 hrecv _ hmem
    cases hnot
  refine ⟨infoRequest, bufferLen, ?_, Or.inl ⟨encode_infoRequest, ?_⟩⟩
  · have hmem : .send askedAddr infoRequest true ∈ tr.take 18 := by simpa using hsend
    rw [htr, List.take_append_of_le_length hlong] at hmem
    exact List.mem_of_mem_take hmem
  · exact List.all_eq_true.1 hall (.recv askedAddr data) (by simp [htr])

/-- With two requests of the current version under way, the server is given up on their replies. -/
theorem legacy_server_given_up : ¬ ∀ (sys : System) (rs : List Record) (w : World Observer)
    (a : SocketAddr), Run sys rs w → LegacyServer a w.trace →
    .event (.serverInvalidProtocol a) ∉ rs := by
  intro hall
  obtain ⟨e', w', htwice, heq⟩ := exists_of_returned (f := fun r => (r.1, checkLegacy r.2.trace))
    (x := (.serverInvalidProtocol askedAddr, true)) (r := waitTwice slowSystem 3 (askedWorld 0))
    (by decide +kernel)
  obtain ⟨rfl, hcheck⟩ := Prod.mk.inj heq
  obtain ⟨e, w, hfirst, hsecond⟩ := exists_of_waitTwice htwice
  have hrun := (run_slowSystem.event 3 none e hfirst).event 3 none _ hsecond
  exact hall slowSystem _ w' askedAddr hrun (legacyServer_of_check hcheck) (by simp)

end Observer

end Xash3d
