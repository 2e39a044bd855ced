import Xash3d.Master.RateLimit
import Xash3d.Protocol.InfoRoundTrip
import Xash3d.Protocol.QueryRoundTrip

/-!
# The update message

A client that is too old gets the update server listed and then asks it for its information. The
game directory of its query is kept for five seconds, so that the server shows up in the client's
own game. `saved_or_dropped` follows the saved directory of an address through a run.

* `update_message`: what the reply to such a request decodes to, and that no other address has any
  influence on it.
-/

namespace Xash3d.MasterServer

open Lib AddrExt

variable {Addr Ip : Type} [AddrExt Addr Ip] [DecidableEq Addr] [DecidableEq Ip]
  {blake2b : HashConfig → Bytes → Bytes} {s s' : MasterServer Addr Ip} {x : Packet Addr}
  {a : Addr} {d : StrArr gamedirMaxSize}

/-- The packet is a request for server information that passes the rate limit. -/
structure Answers (s : MasterServer Addr Ip) (x : Packet Addr) (msg : GetServerInfo) : Prop where
  decoded : GetServerInfo.decode x.src = .ok msg
  allowed : (s.allowGameRequest x.env x.peer).1 = .ok ()

/-- The packet is a query that passes the rate limit and is rejected; its game directory `d` is
short enough to be kept. -/
structure Saves (s : MasterServer Addr Ip) (x : Packet Addr) (d : StrArr gamedirMaxSize) :
    Prop where
  allowed : (s.allowGameRequest x.env x.peer).1 = .ok ()
  query : ∃ q, QueryServers.decode x.src = .ok q ∧ s.isQueryServersValid q = false ∧
    q.filter.gamedir = some d.bytes

/-- The packet neither asks for the saved directory of its sender nor replaces it. -/
structure Spares (s : MasterServer Addr Ip) (x : Packet Addr) : Prop where
  notAnswers : ∀ msg, ¬ Answers s x msg
  notSaves : ∀ d, ¬ Saves s x d

/-! ## The saved directories -/

omit [DecidableEq Addr] in
theorem isQueryServersValid_allowed (env : Env Addr) (s : MasterServer Addr Ip) (peer : Addr)
    (q : QueryServers Filter) :
    (s.allowGameRequest env peer).2.isQueryServersValid q = s.isQueryServersValid q := by
  rw [allowGameRequest_snd]
  rfl

omit [DecidableEq Ip] in
/-- A rejected query saves the directory it names, if that can be kept. -/
theorem updateGamedir_query (env : Env Addr) (s : MasterServer Addr Ip) (peer : Addr)
    (q : QueryServers Filter) :
    (s.handleGameQueryServers env peer q).state.updateGamedir =
      match s.isQueryServersValid q, q.filter.gamedir.bind (StrArr.new (n := gamedirMaxSize)) with
      | false, some d => s.updateGamedir.insert peer d (env.now 2) (env.now 3)
      | _, _ => s.updateGamedir := by
  unfold handleGameQueryServers saveClientGamedir
  cases s.isQueryServersValid q with
  | true =>
    rw [if_neg (by decide)]
    split
    · rfl
    · rw [Outcome.state_reply]
  | false =>
    rw [if_pos (by decide), Outcome.state_reply]
    cases q.filter.gamedir with
    | none => rfl
    | some g =>
      dsimp only [Option.bind_some]
      cases StrArr.new (n := gamedirMaxSize) g <;> rfl

omit [DecidableEq Addr] in
theorem updateGamedir_allowed (env : Env Addr) (s : MasterServer Addr Ip) (peer : Addr) :
    (s.allowGameRequest env peer).2.updateGamedir = s.updateGamedir := by
  rw [allowGameRequest_snd]

/-- A query saves the directory it is refused with, or nothing. -/
theorem updateGamedir_of_query (blake2b : HashConfig → Bytes → Bytes)
    (hq : QueryServers.header.isPrefixOf x.src = true) :
    Spares s x ∧ (s.handle blake2b x).updateGamedir = s.updateGamedir ∨
    ∃ d, Saves s x d ∧ (s.handle blake2b x).updateGamedir =
      s.updateGamedir.insert x.peer d (x.env.now 2) (x.env.now 3) := by
  have hallowed := updateGamedir_allowed x.env s x.peer
  have hna : ∀ msg, ¬ Answers s x msg := fun msg h =>
    not_isPrefixOf (by decide) hq (isPrefixOf_of_run h.decoded)
  unfold handle
  rw [handlePacket_queryServers hq]
  cases ha : (s.allowGameRequest x.env x.peer).1 with
  | error e =>
    refine Or.inl ⟨⟨hna, ?_⟩, hallowed⟩
    intro d h
    exact absurd (ha.symm.trans h.allowed) (by simp)
  | ok _ =>
    cases hd : QueryServers.decode x.src with
    | error e =>
      refine Or.inl ⟨⟨hna, ?_⟩, hallowed⟩
      rintro d ⟨-, q, hq', -⟩
      exact absurd (hd.symm.trans hq') (by simp)
    | ok q =>
      have hstate := updateGamedir_query x.env (s.allowGameRequest x.env x.peer).2 x.peer q
      rw [isQueryServersValid_allowed, hallowed] at hstate
      show (Spares s x ∧ (handleGameQueryServers x.env _ x.peer q).state.updateGamedir = _) ∨
        ∃ d, Saves s x d ∧ (handleGameQueryServers x.env _ x.peer q).state.updateGamedir = _
      rw [hstate]
      have hsaves : ∀ d, Saves s x d → s.isQueryServersValid q = false ∧
          q.filter.gamedir = some d.bytes := by
        rintro d ⟨-, q', hq', h⟩
        cases hd.symm.trans hq'
        exact h
      cases hv : s.isQueryServersValid q with
      | true =>
        refine Or.inl ⟨⟨hna, ?_⟩, rfl⟩
        intro d h
        exact absurd (hv.symm.trans (hsaves d h).1) (by simp)
      | false =>
        cases hg : q.filter.gamedir.bind (StrArr.new (n := gamedirMaxSize)) with
        | none =>
          refine Or.inl ⟨⟨hna, ?_⟩, rfl⟩
          intro d h
          rw [(hsaves d h).2, Option.bind_some, StrArr.new_bytes] at hg
          cases hg
        | some d =>
          obtain ⟨g, hg, hnew⟩ := Option.bind_eq_some_iff.1 hg
          refine Or.inr ⟨d, ⟨ha, q, hd, hv, ?_⟩, rfl⟩
          rw [hg, StrArr.bytes_of_new hnew]

/-- A request for the update message takes the directory, if it is answered. -/
theorem updateGamedir_of_info (blake2b : HashConfig → Bytes → Bytes)
    (hg : GetServerInfo.header.isPrefixOf x.src = true) (hns : ∀ d, ¬ Saves s x d) :
    Spares s x ∧ (s.handle blake2b x).updateGamedir = s.updateGamedir ∨
    (∃ msg, Answers s x msg) ∧
      (s.handle blake2b x).updateGamedir = (s.updateGamedir.remove x.peer (x.env.now 2)).2 := by
  have hallowed := updateGamedir_allowed x.env s x.peer
  unfold handle
  rw [handlePacket_getServerInfo hg]
  cases ha : (s.allowGameRequest x.env x.peer).1 with
  | error e =>
    refine Or.inl ⟨⟨?_, hns⟩, hallowed⟩
    intro msg h
    exact absurd (ha.symm.trans h.allowed) (by simp)
  | ok _ =>
    cases hd : GetServerInfo.decode x.src with
    | error e =>
      refine Or.inl ⟨⟨?_, hns⟩, hallowed⟩
      intro msg h
      exact absurd (hd.symm.trans h.decoded) (by simp)
    | ok msg =>
      refine Or.inr ⟨⟨msg, hd, ha⟩, ?_⟩
      show (handleGameGetServerInfo x.env _ x.peer msg).state.updateGamedir = _
      unfold handleGameGetServerInfo
      rw [Outcome.state_reply, hallowed]

/-- Other packets leave the directories alone. -/
theorem updateGamedir_of_other (blake2b : HashConfig → Bytes → Bytes)
    (hng : ¬ isGameRequest x.src = true) :
    (s.handle blake2b x).updateGamedir = s.updateGamedir := by
  have he := handle_effect blake2b s x
  generalize s.handle blake2b x = s' at he ⊢
  cases he with
  | none => rfl
  | challenge msg hd => rfl
  | expired msg hd hr => rfl
  | add msg e hr =>
    unfold registered
    rw [addServer_frame]
  | game gamedirs filtered nat h => exact absurd h hng
  | adminChallenge hd ha => rfl
  | adminCommand e msg hx =>
    unfold executed
    rw [adminCommand_frame]
    rfl
  | adminRefused e msg hx => rfl

/-- What a packet can do to the saved directories. -/
theorem updateGamedir_handle (blake2b : HashConfig → Bytes → Bytes) (s : MasterServer Addr Ip)
    (x : Packet Addr) :
    Spares s x ∧ (s.handle blake2b x).updateGamedir = s.updateGamedir ∨
    (∃ msg, Answers s x msg) ∧
      (s.handle blake2b x).updateGamedir = (s.updateGamedir.remove x.peer (x.env.now 2)).2 ∨
    ∃ d, Saves s x d ∧ (s.handle blake2b x).updateGamedir =
      s.updateGamedir.insert x.peer d (x.env.now 2) (x.env.now 3) := by
  by_cases hq : QueryServers.header.isPrefixOf x.src = true
  · exact (updateGamedir_of_query blake2b hq).imp_right Or.inr
  have hns : ∀ d, ¬ Saves s x d := by
    rintro d ⟨-, q, hd, -⟩
    exact hq (isPrefixOf_of_run hd)
  by_cases hg : GetServerInfo.header.isPrefixOf x.src = true
  · exact (updateGamedir_of_info blake2b hg hns).imp_right Or.inl
  have hng : ¬ isGameRequest x.src = true := by
    intro h
    exact (Bool.or_eq_true_iff.1 h).elim hq hg
  have hna : ∀ msg, ¬ Answers s x msg := fun msg h => hg (isPrefixOf_of_run h.decoded)
  exact Or.inl ⟨⟨hna, hns⟩, updateGamedir_of_other blake2b hng⟩

omit [DecidableEq Addr] in
theorem Saves.not_answers (h : Saves s x d) (msg : GetServerInfo) : ¬ Answers s x msg := by
  obtain ⟨q, hq, -⟩ := h.query
  exact fun ha => not_isPrefixOf (by decide) (isPrefixOf_of_run hq) (isPrefixOf_of_run ha.decoded)

omit [DecidableEq Addr] in
theorem Saves.unique {d' : StrArr gamedirMaxSize} (h : Saves s x d) (h' : Saves s x d') :
    d = d' := by
  obtain ⟨q, hq, -, hd⟩ := h.query
  obtain ⟨q', hq', -, hd'⟩ := h'.query
  cases hq.symm.trans hq'
  have hbytes : d.bytes = d'.bytes := Option.some.inj (hd.symm.trans hd')
  cases d
  cases d'
  cases hbytes
  rfl

theorem updateGamedir_of_saves (h : Saves s x d) : (s.handle blake2b x).updateGamedir =
    s.updateGamedir.insert x.peer d (x.env.now 2) (x.env.now 3) := by
  rcases updateGamedir_handle blake2b s x with ⟨hs, -⟩ | ⟨⟨msg, ha⟩, -⟩ | ⟨d', hd', hu⟩
  · exact absurd h (hs.notSaves d)
  · exact absurd ha (h.not_answers msg)
  · rw [hu, h.unique hd']

theorem updateGamedir_of_answers {msg : GetServerInfo} (h : Answers s x msg) :
    (s.handle blake2b x).updateGamedir = (s.updateGamedir.remove x.peer (x.env.now 2)).2 := by
  rcases updateGamedir_handle blake2b s x with ⟨hs, -⟩ | ⟨-, hu⟩ | ⟨d, hd, -⟩
  · exact absurd h (hs.notAnswers msg)
  · exact hu
  · exact absurd h (hd.not_answers msg)

theorem updateGamedir_of_spares (h : Spares s x) :
    (s.handle blake2b x).updateGamedir = s.updateGamedir := by
  rcases updateGamedir_handle blake2b s x with ⟨-, hu⟩ | ⟨⟨msg, hm⟩, -⟩ | ⟨d, hd, -⟩
  · exact hu
  · exact absurd hm (h.notAnswers msg)
  · exact absurd hd (h.notSaves d)

theorem timeout_updateGamedir (blake2b : HashConfig → Bytes → Bytes) (s : MasterServer Addr Ip)
    (x : Packet Addr) : (s.handle blake2b x).updateGamedir.timeout = s.updateGamedir.timeout := by
  rcases updateGamedir_handle blake2b s x with ⟨-, hu⟩ | ⟨-, hu⟩ | ⟨d, -, hu⟩ <;> rw [hu]
  · exact TimedHashMap.timeout_remove
  · exact TimedHashMap.timeout_insert

theorem timeout_updateGamedir_run (xs : List (Packet Addr)) :
    (exec (handle blake2b) s xs).updateGamedir.timeout = s.updateGamedir.timeout := by
  induction xs generalizing s with
  | nil => rfl
  | cons x xs ih => exact (ih (s := s.handle blake2b x)).trans (timeout_updateGamedir blake2b s x)

/-- What another address sends is not noticed. -/
theorem view_of_ne {t : RelativeTime} (ha : x.peer ≠ a) (ht : ∀ i, x.env.now i ≤ t) :
    (s.handle blake2b x).updateGamedir.view t a = s.updateGamedir.view t a := by
  rcases updateGamedir_handle blake2b s x with ⟨-, hu⟩ | ⟨-, hu⟩ | ⟨d, -, hu⟩ <;> rw [hu]
  · rw [TimedHashMap.view_remove, Function.update_of_ne ha.symm]
  · rw [TimedHashMap.view_insert (ht 3), Function.update_of_ne ha.symm]

/-! ## The last saved directory -/

/-- In a run that goes on with `zs` after the packet `y`, the directory `d` that `y` saves for the
address `a` is the last one, and it is not asked for. -/
structure SavedLast (run : List (Packet Addr) → MasterServer Addr Ip) (a : Addr)
    (ys : List (Packet Addr)) (y : Packet Addr) (zs : List (Packet Addr))
    (d : StrArr gamedirMaxSize) : Prop where
  peer : y.peer = a
  saves : Saves (run ys) y d
  last : ∀ p z q, zs = p ++ z :: q → z.peer = a → Spares (run (ys ++ y :: p)) z

/-- A directory that is there was saved last. -/
theorem savedLast_of_lookup (h0 : s.updateGamedir.lookup a = none) (xs : List (Packet Addr))
    {e : Timed (StrArr gamedirMaxSize)}
    (h : (exec (handle blake2b) s xs).updateGamedir.lookup a = some e) :
    ∃ ys y zs d, xs = ys ++ y :: zs ∧ SavedLast (exec (handle blake2b) s) a ys y zs d ∧
      e = ⟨y.env.now 2, d⟩ := by
  let creates (s : MasterServer Addr Ip) (y : Packet Addr) (e : Timed (StrArr gamedirMaxSize)) :=
    y.peer = a ∧ ∃ d, Saves s y d ∧ e = ⟨y.env.now 2, d⟩
  let keeps (s : MasterServer Addr Ip) (z : Packet Addr) (_ : Timed (StrArr gamedirMaxSize)) :=
    z.peer = a → Spares s z
  have hstep : ∀ (s : MasterServer Addr Ip) x e,
      (s.handle blake2b x).updateGamedir.lookup a = some e →
      creates s x e ∨ s.updateGamedir.lookup a = some e ∧ keeps s x e := by
    intro s x e hl
    rcases updateGamedir_handle blake2b s x with ⟨hs, hu⟩ | ⟨-, hu⟩ | ⟨d, hd, hu⟩ <;> rw [hu] at hl
    · exact Or.inr ⟨hl, fun _ => hs⟩
    · rw [TimedHashMap.lookup_remove] at hl
      by_cases ha : a = x.peer
      · rw [ha, Function.update_self] at hl
        cases hl
      · rw [Function.update_of_ne ha] at hl
        exact Or.inr ⟨hl, fun h => absurd h.symm ha⟩
    · have hput := (TimedHashMap.sweep_insert _ _ _ _ _).eq_some hl
      by_cases ha : a = x.peer
      · rw [ha, Function.update_self] at hput
        exact Or.inl ⟨ha.symm, d, hd, (Option.some.inj hput).symm⟩
      · rw [Function.update_of_ne ha] at hput
        exact Or.inr ⟨hput, fun h => absurd h.symm ha⟩
  obtain ⟨ys, y, zs, rfl, ⟨hpeer, d, hd, he⟩, hkeeps⟩ :=
    exec_provenance (fun s : MasterServer Addr Ip => s.updateGamedir.lookup a) h0 hstep xs e h
  exact ⟨ys, y, zs, d, rfl, ⟨hpeer, hd, hkeeps⟩, he⟩

/-- The directory saved last is there, or it was too old for a clock reading since. -/
theorem saved_or_dropped {ys zs : List (Packet Addr)} {y : Packet Addr}
    (h : SavedLast (exec (handle blake2b) s) a ys y zs d) :
    (exec (handle blake2b) s (ys ++ y :: zs)).updateGamedir.lookup a = some ⟨y.env.now 2, d⟩ ∨
    (exec (handle blake2b) s (ys ++ y :: zs)).updateGamedir.lookup a = none ∧
      ∃ z ∈ y :: zs, ∃ i, (⟨y.env.now 2, d⟩ : Timed (StrArr gamedirMaxSize)).isValid (z.env.now i)
        s.updateGamedir.timeout = false := by
  induction zs using List.reverseRecOn with
  | nil =>
    rw [exec_append, exec_singleton, updateGamedir_of_saves h.saves]
    have hsweep := TimedHashMap.sweep_insert (exec (handle blake2b) s ys).updateGamedir y.peer d
      (y.env.now 2) (y.env.now 3) a
    rw [h.peer, Function.update_self, timeout_updateGamedir_run] at hsweep
    rcases hsweep with hl | ⟨hl, hdead⟩
    · exact Or.inl (h.peer ▸ hl)
    · exact Or.inr ⟨h.peer ▸ hl, y, by simp, 3, hdead _ rfl⟩
  | append_singleton zs z ih =>
    have hlast := h.last zs z [] rfl
    have hinit : SavedLast (exec (handle blake2b) s) a ys y zs d := by
      refine ⟨h.peer, h.saves, fun p z' q hq => h.last p z' (q ++ [z]) ?_⟩
      rw [hq]
      simp
    rw [← List.cons_append, ← List.append_assoc, exec_append, exec_singleton]
    have htime : (exec (handle blake2b) s (ys ++ y :: zs)).updateGamedir.timeout =
        s.updateGamedir.timeout := timeout_updateGamedir_run _
    specialize ih hinit
    generalize exec (handle blake2b) s (ys ++ y :: zs) = s₁ at ih hlast htime ⊢
    have hmore : ∀ {b : Bool}, (∃ z' ∈ y :: zs, ∃ i,
        (⟨y.env.now 2, d⟩ : Timed (StrArr gamedirMaxSize)).isValid (z'.env.now i)
          s.updateGamedir.timeout = b) → ∃ z' ∈ y :: (zs ++ [z]), ∃ i,
        (⟨y.env.now 2, d⟩ : Timed (StrArr gamedirMaxSize)).isValid (z'.env.now i)
          s.updateGamedir.timeout = b := by
      rintro b ⟨z', hz', i, hi⟩
      exact ⟨z', by simpa using Or.imp_right Or.inl (List.mem_cons.1 hz'), i, hi⟩
    rcases updateGamedir_handle blake2b s₁ z with ⟨-, hu⟩ | ⟨⟨msg, hm⟩, hu⟩ | ⟨d', hd', hu⟩ <;> rw [hu]
    · exact ih.imp_right fun hn => ⟨hn.1, hmore hn.2⟩
    · have ha : a ≠ z.peer := fun ha => (hlast ha.symm).notAnswers msg hm
      rw [TimedHashMap.lookup_remove, Function.update_of_ne ha]
      exact ih.imp_right fun hn => ⟨hn.1, hmore hn.2⟩
    · have ha : a ≠ z.peer := fun ha => (hlast ha.symm).notSaves d' hd'
      have hsweep := TimedHashMap.sweep_insert s₁.updateGamedir z.peer d' (z.env.now 2)
        (z.env.now 3) a
      rw [Function.update_of_ne ha, htime] at hsweep
      rcases hsweep with hl | ⟨hl, hdead⟩
      · rw [hl]
        exact ih.imp_right fun hn => ⟨hn.1, hmore hn.2⟩
      · rcases ih with hs | ⟨-, hn⟩
        · exact Or.inr ⟨hl, z, by simp, 3, hdead _ hs⟩
        · exact Or.inr ⟨hl, hmore hn⟩

/-! ## Replies -/

/-- The game directory an address is answered with at a time. -/
def gamedirAt (s : MasterServer Addr Ip) (t : RelativeTime) (a : Addr) : Bytes :=
  ((s.updateGamedir.view t a).map fun e => e.value.bytes).getD (ascii "valve")

/-- The reply to a request: the game directory is all that does not come from the configuration
or from the request itself. -/
def updateMessage (cfg : MasterConfig) (msg : GetServerInfo) (gamedir : Bytes) :
    GetServerInfoResponse :=
  { (default : GetServerInfoResponse) with
    map := cfg.client.updateMap
    host := cfg.client.updateTitle
    protocol := msg.protocol
    dm := true
    maxcl := 32
    gamedir }

theorem handlePacket_answers {msg : GetServerInfo} (h : Answers s x msg) :
    s.handlePacket blake2b x.env x.peer x.src = .reply (s.handle blake2b x) (respond x.env
      ((updateMessage s.cfg msg (s.gamedirAt (x.env.now 2) x.peer)).encode (mtu Addr)) x.peer) := by
  have hhandler : s.handlePacket blake2b x.env x.peer x.src =
      (s.allowGameRequest x.env x.peer).2.handleGameGetServerInfo x.env x.peer msg := by
    rw [handlePacket_getServerInfo (isPrefixOf_of_run h.decoded), h.allowed, h.decoded]
    rfl
  unfold handle
  rw [hhandler]
  unfold handleGameGetServerInfo
  rw [Outcome.state_reply, allowGameRequest_snd]
  rfl

omit [DecidableEq Addr] in
/-- The saved directories are map strings, because they were parsed. -/
theorem isMapStr_of_saves (h : Saves s x d) : IsMapStr d.bytes := by
  obtain ⟨q, hq, -, hd⟩ := h.query
  obtain ⟨-, raw, hraw⟩ := QueryServers.decode_ok hq
  refine ((Filter.fromSlice_ok hraw).1 d.bytes ?_).1
  unfold Filter.strings
  simp [hd]

theorem isMapStr_gamedirAt (h0 : s.updateGamedir.lookup a = none) (xs : List (Packet Addr))
    (t : RelativeTime) : IsMapStr ((exec (handle blake2b) s xs).gamedirAt t a) := by
  unfold gamedirAt
  cases hv : (exec (handle blake2b) s xs).updateGamedir.view t a with
  | none => exact ⟨by decide, by decide⟩
  | some e =>
    obtain ⟨ys, y, zs, d, -, hlast, rfl⟩ :=
      savedLast_of_lookup h0 xs (TimedHashMap.view_eq_some.1 hv).1
    exact isMapStr_of_saves hlast.saves

/-- What is sent back is parsed to the reply. -/
theorem carried_updateMessage {cfg : MasterConfig} (hmap : IsMapStr cfg.client.updateMap)
    (htitle : IsMapStr cfg.client.updateTitle) (msg : GetServerInfo) {gamedir : Bytes}
    (h : IsMapStr gamedir) : (updateMessage cfg msg gamedir).Carried := ⟨h, hmap, htitle⟩

/-- The directory saved last is answered for as long as it is kept. -/
theorem gamedirAt_of_savedLast {ys zs : List (Packet Addr)} {y : Packet Addr} {t : RelativeTime}
    (h : SavedLast (exec (handle blake2b) s) a ys y zs d)
    (hclock : ∀ z ∈ y :: zs, ∀ i, z.env.now i ≤ t) :
    (exec (handle blake2b) s (ys ++ y :: zs)).gamedirAt t a =
      if t.durationSince (y.env.now 2) < s.updateGamedir.timeout.toNat * 1000 then d.bytes
      else ascii "valve" := by
  have hvalid := Timed.isValid_iff (⟨y.env.now 2, d⟩ : Timed (StrArr gamedirMaxSize)) t
    s.updateGamedir.timeout
  have hview : (exec (handle blake2b) s (ys ++ y :: zs)).updateGamedir.view t a =
      if (⟨y.env.now 2, d⟩ : Timed (StrArr gamedirMaxSize)).isValid t s.updateGamedir.timeout
      then some ⟨y.env.now 2, d⟩ else none := by
    rcases saved_or_dropped h with hl | ⟨hl, z, hz, i, hdead⟩
    · show ((exec _ s _).updateGamedir.lookup a).filter _ = _
      rw [hl, Option.filter_some]
      show (if Timed.isValid _ t (exec (handle blake2b) s _).updateGamedir.timeout then _ else _) = _
      rw [timeout_updateGamedir_run]
    · -- what was too old before is too old now
      have hnot : ¬ (⟨y.env.now 2, d⟩ : Timed (StrArr gamedirMaxSize)).isValid t
          s.updateGamedir.timeout = true := by
        intro hv
        rw [Timed.isValid_of_le (hclock z hz i) hv] at hdead
        cases hdead
      rw [if_neg hnot]
      show ((exec _ s _).updateGamedir.lookup a).filter _ = _
      rw [hl]
      rfl
  unfold gamedirAt
  rw [hview]
  by_cases hage : t.durationSince (y.env.now 2) < s.updateGamedir.timeout.toNat * 1000
  · rw [if_pos (hvalid.2 hage), if_pos hage]
    rfl
  · rw [if_neg (mt hvalid.1 hage), if_neg hage]
    rfl

/-- Without a saved directory the answer is the default. -/
theorem gamedirAt_default (h0 : s.updateGamedir.lookup a = none) {xs : List (Packet Addr)}
    (t : RelativeTime) (h : ∀ ys y zs d, xs = ys ++ y :: zs →
      ¬ SavedLast (exec (handle blake2b) s) a ys y zs d) :
    (exec (handle blake2b) s xs).gamedirAt t a = ascii "valve" := by
  unfold gamedirAt
  cases hv : (exec (handle blake2b) s xs).updateGamedir.view t a with
  | none => rfl
  | some e =>
    obtain ⟨ys, y, zs, d, hxs, hlast, -⟩ :=
      savedLast_of_lookup h0 xs (TimedHashMap.view_eq_some.1 hv).1
    exact absurd hlast (h ys y zs d hxs)

/-! ## Other addresses -/

/-- Two packets that differ at most in the text of a query, of another address than `a`. -/
def SameBut (a : Addr) (z z' : Packet Addr) : Prop :=
  z = z' ∨ z.peer ≠ a ∧ z'.peer = z.peer ∧ z'.env = z.env ∧
    QueryServers.header.isPrefixOf z.src = true ∧ QueryServers.header.isPrefixOf z'.src = true

/-- Two states that an address cannot tell apart by the directory it is answered with. -/
structure Alike (cfg : MasterConfig) (a : Addr) (t : RelativeTime) (s s' : MasterServer Addr Ip) :
    Prop where
  left : Configured cfg s
  right : Configured cfg s'
  limits : s.clientRateLimit = s'.clientRateLimit
  timeout : s.updateGamedir.timeout = s'.updateGamedir.timeout
  view : s.updateGamedir.view t a = s'.updateGamedir.view t a

namespace Alike

variable {cfg : MasterConfig} {t : RelativeTime} {z z' : Packet Addr}

omit [AddrExt Addr Ip] [DecidableEq Ip] in
theorem cfg_eq (h : Alike cfg a t s s') : s.cfg = s'.cfg := h.left.cfg_eq.trans h.right.cfg_eq.symm

omit [AddrExt Addr Ip] [DecidableEq Ip] in
theorem symm (h : Alike cfg a t s s') : Alike cfg a t s' s :=
  ⟨h.right, h.left, h.limits.symm, h.timeout.symm, h.view.symm⟩

/-- The rate limit reads its own map and the configuration. -/
theorem allowed (h : Alike cfg a t s s') (env : Env Addr) (peer : Addr) :
    (s.allowGameRequest env peer).1 = (s'.allowGameRequest env peer).1 ∧
      (s.allowGameRequest env peer).2.clientRateLimit =
        (s'.allowGameRequest env peer).2.clientRateLimit := by
  unfold allowGameRequest
  rw [h.cfg_eq, h.limits]
  split_ifs
  · dsimp only
    split_ifs <;> exact ⟨rfl, rfl⟩
  · exact ⟨rfl, h.limits⟩

theorem answers {msg : GetServerInfo} (h : Alike cfg a t s s') (hz : Answers s z msg) :
    Answers s' z msg := ⟨hz.decoded, (h.allowed z.env z.peer).1 ▸ hz.allowed⟩

theorem saves (h : Alike cfg a t s s') (hz : Saves s z d) : Saves s' z d := by
  obtain ⟨q, hq, hv, hd⟩ := hz.query
  refine ⟨(h.allowed z.env z.peer).1 ▸ hz.allowed, q, hq, ?_, hd⟩
  unfold isQueryServersValid at hv ⊢
  rwa [← h.cfg_eq]

theorem spares (h : Alike cfg a t s s') (hz : Spares s z) : Spares s' z :=
  ⟨fun msg hm => hz.notAnswers msg (h.symm.answers hm), fun d hd => hz.notSaves d (h.symm.saves hd)⟩

theorem clientRateLimit (h : Alike cfg a t s s') (hz : SameBut a z z') :
    (s.handle blake2b z).clientRateLimit = (s'.handle blake2b z').clientRateLimit := by
  rw [clientRateLimit_handle, clientRateLimit_handle]
  rcases hz with rfl | ⟨-, hpeer, henv, hq, hq'⟩
  · rw [(h.allowed z.env z.peer).2, h.limits]
  · have hgame : ∀ {src : Bytes}, QueryServers.header.isPrefixOf src = true →
        isGameRequest src = true := fun h => Bool.or_eq_true_iff.2 (Or.inl h)
    rw [if_pos (hgame hq), if_pos (hgame hq'), hpeer, henv, (h.allowed z.env z.peer).2]

/-- The packets of the address itself do the same in both states. -/
theorem view_same (h : Alike cfg a t s s') (ht : ∀ i, z.env.now i ≤ t) :
    (s.handle blake2b z).updateGamedir.view t a = (s'.handle blake2b z).updateGamedir.view t a := by
  by_cases ha : z.peer = a
  · rcases updateGamedir_handle blake2b s z with ⟨hs, hu⟩ | ⟨⟨msg, hm⟩, hu⟩ | ⟨d, hd, hu⟩ <;> rw [hu]
    · rw [updateGamedir_of_spares (h.spares hs), h.view]
    · rw [updateGamedir_of_answers (h.answers hm), TimedHashMap.view_remove,
        TimedHashMap.view_remove, ha, Function.update_self, Function.update_self]
    · rw [updateGamedir_of_saves (h.saves hd), TimedHashMap.view_insert (ht 3),
        TimedHashMap.view_insert (ht 3), h.timeout, ha, Function.update_self, Function.update_self]
  · rw [view_of_ne ha ht, view_of_ne ha ht, h.view]

theorem step (h : Alike cfg a t s s') (hz : SameBut a z z') (ht : ∀ i, z.env.now i ≤ t) :
    Alike cfg a t (s.handle blake2b z) (s'.handle blake2b z') := by
  refine ⟨h.left.handle z, h.right.handle z', h.clientRateLimit hz, ?_, ?_⟩
  · rw [timeout_updateGamedir, timeout_updateGamedir, h.timeout]
  · rcases hz with rfl | ⟨ha, hpeer, henv, -, -⟩
    · exact h.view_same ht
    · rw [view_of_ne ha ht, view_of_ne (hpeer ▸ ha) (henv ▸ ht), h.view]

theorem run (h : Alike cfg a t s s') {xs xs' : List (Packet Addr)}
    (hxs : List.Forall₂ (SameBut a) xs xs') (ht : ∀ z ∈ xs, ∀ i, z.env.now i ≤ t) :
    Alike cfg a t (exec (handle blake2b) s xs) (exec (handle blake2b) s' xs') := by
  induction hxs generalizing s s' with
  | nil => exact h
  | cons hz _ ih =>
    exact ih (h.step hz (ht _ List.mem_cons_self)) fun z hz => ht z (List.mem_cons_of_mem _ hz)

end Alike

/-- A request for server information is answered with the requested protocol, the configured map
and title, and the game directory of the last rejected query of its sender, which is kept for five
seconds and answered once. Whatever queries other addresses had sent, the reply would be the
same. -/
theorem update_message (blake2b : HashConfig → Bytes → Bytes) (cfg : MasterConfig)
    (hmap : IsMapStr cfg.client.updateMap) (htitle : IsMapStr cfg.client.updateTitle)
    (sock updateAddr : SocketAddr) (xs : List (Packet Addr)) (x : Packet Addr)
    (msg : GetServerInfo) :
    let run := exec (handle blake2b) (init cfg sock updateAddr : MasterServer Addr Ip)
    let reply := fun gamedir => (updateMessage cfg msg gamedir)
    Answers (run xs) x msg →
    ∃ gamedir,
      (run xs).handlePacket blake2b x.env x.peer x.src = .reply (run (xs ++ [x]))
        (respond x.env ((reply gamedir).encode (mtu Addr)) x.peer) ∧
      (∀ packet, (reply gamedir).encode (mtu Addr) = .ok packet →
        GetServerInfoResponse.decode packet = .ok (reply gamedir)) ∧
      (∀ ys y zs d, xs = ys ++ y :: zs → SavedLast run x.peer ys y zs d →
        -- the clock has not run back since
        (∀ z ∈ y :: zs, ∀ i, z.env.now i ≤ x.env.now 2) →
        gamedir = if (x.env.now 2).durationSince (y.env.now 2) < 5000 then d.bytes
          else ascii "valve") ∧
      ((∀ ys y zs d, xs = ys ++ y :: zs → ¬ SavedLast run x.peer ys y zs d) →
        gamedir = ascii "valve") ∧
      ∀ xs', List.Forall₂ (SameBut x.peer) xs xs' →
        (∀ z ∈ xs, ∀ i, z.env.now i ≤ x.env.now 2) →
        (run xs').handlePacket blake2b x.env x.peer x.src = .reply (run (xs' ++ [x]))
          (respond x.env ((reply gamedir).encode (mtu Addr)) x.peer) := by
  intro run reply hx
  have hcfg : ∀ xs, Configured cfg (run xs) := (configured_init cfg sock updateAddr).run
  have hreply : ∀ xs, Answers (run xs) x msg →
      (run xs).handlePacket blake2b x.env x.peer x.src = .reply (run (xs ++ [x])) (respond x.env
        ((reply ((run xs).gamedirAt (x.env.now 2) x.peer)).encode (mtu Addr)) x.peer) := by
    intro xs h
    have hrun : run (xs ++ [x]) = (run xs).handle blake2b x := by
      show exec _ _ (xs ++ [x]) = _
      rw [exec_append, exec_singleton]
    rw [handlePacket_answers h, (hcfg xs).cfg_eq, hrun]
  refine ⟨(run xs).gamedirAt (x.env.now 2) x.peer, hreply xs hx, ?_, ?_, ?_, ?_⟩
  · intro packet hpacket
    refine GetServerInfoResponse.decode_of_encode (carried_updateMessage hmap htitle msg ?_) hpacket
    exact isMapStr_gamedirAt (s := init cfg sock updateAddr) rfl xs _
  · rintro ys y zs d rfl hlast hclock
    have htime : (init cfg sock updateAddr : MasterServer Addr Ip).updateGamedir.timeout.toNat *
        1000 = 5000 := by
      have hfive : (5 : UInt32).toNat = 5 := rfl
      show (5 : UInt32).toNat * 1000 = 5000
      rw [hfive]
    rw [← htime]
    exact gamedirAt_of_savedLast hlast hclock
  · exact gamedirAt_default (s := init cfg sock updateAddr) rfl _
  · intro xs' hxs' hclock
    have halike : Alike cfg x.peer (x.env.now 2) (run xs) (run xs') := by
      refine Alike.run ⟨configured_init cfg sock updateAddr, configured_init cfg sock updateAddr,
        rfl, rfl, rfl⟩ hxs' hclock
    have hsame : (run xs).gamedirAt (x.env.now 2) x.peer =
        (run xs').gamedirAt (x.env.now 2) x.peer := by
      unfold gamedirAt
      rw [halike.view]
    rw [hsame]
    exact hreply xs' (halike.answers hx)

/-- A client of an unknown version sends its query and asks for the information a second later. -/
theorem update_message_half_life :
    let A : SocketAddrV4 := ⟨⟨⟨[10, 0, 0, 2], rfl⟩⟩, 27005⟩
    let y : Packet SocketAddrV4 := ⟨.steady ⟨0⟩ fun _ => 0, A,
      [0x31, 0xff] ++ ascii "0.0.0.0:0" ++ [0] ++ ascii "\\gamedir\\hl" ++ [0]⟩
    let x : Packet SocketAddrV4 := ⟨.steady ⟨125⟩ fun _ => 0, A,
      [0xff, 0xff, 0xff, 0xff] ++ ascii "info 49"⟩
    let s := exec (handle fun _ _ => [])
      (init {} (.v4 A) (.v4 A) : MasterServer SocketAddrV4 Ipv4Addr) [y]
    ∃ packet, (s.handlePacket (fun _ _ => []) x.env x.peer x.src).sent = [⟨A, packet⟩] ∧
      GetServerInfoResponse.decode packet = .ok (updateMessage {} ⟨49⟩ (ascii "hl")) := by
  intro A y x s
  let hl : StrArr gamedirMaxSize := ⟨ascii "hl", by decide, by decide⟩
  obtain ⟨gamedir, hreply, hdecode, hlast, -, -⟩ := update_message (fun _ _ => []) {}
    (by decide) (by decide) (.v4 A) (.v4 A) [y] x ⟨49⟩ ⟨by decide +kernel, by decide +kernel⟩
  have hsaved : Saves (init {} (.v4 A) (.v4 A) : MasterServer SocketAddrV4 Ipv4Addr) y hl :=
    ⟨by decide +kernel, ⟨default, ascii "0.0.0.0:0", { (default : Filter) with
      gamedir := some (ascii "hl") }⟩, by decide +kernel, by decide +kernel, rfl⟩
  obtain rfl : gamedir = ascii "hl" := by
    refine (hlast [] y [] hl rfl ⟨rfl, hsaved, by simp⟩ ?_).trans (if_pos (by decide +kernel))
    simp only [List.mem_singleton, forall_eq]
    exact fun _ => show (⟨0⟩ : RelativeTime) ≤ ⟨125⟩ by decide
  have hencode : (updateMessage {} ⟨49⟩ (ascii "hl")).encode (AddrExt.mtu SocketAddrV4) =
      .ok (updateMessage {} ⟨49⟩ (ascii "hl")).wire := by
    rw [GetServerInfoResponse.encode_eq, if_pos (by decide +kernel)]
  refine ⟨_, ?_, hdecode _ hencode⟩
  rw [hreply, hencode]
  rfl

end Xash3d.MasterServer
