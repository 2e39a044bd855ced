import Xash3d.Master.Servers

/-!
# Registration

A game server asks for a challenge and answers it with a `ServerAdd`. What a packet can do to the
challenge of an address is `challenge_created` and `challenge_kept`.

* `registration_authenticated`: a server is added only for a challenge that was issued to its
  address, is not expired and was not consumed before.
* `registration_undisturbed`: a server that answers its challenge in time is added, whatever other
  packets come in between.
-/

namespace Xash3d.MasterServer

open Lib AddrExt

variable {Addr Ip : Type} [AddrExt Addr Ip] [DecidableEq Addr] [DecidableEq Ip]
  {blake2b : HashConfig → Bytes → Bytes} {s s' : MasterServer Addr Ip} {x : Packet Addr}
  {A : Addr} {e : Timed UInt32}

/-! ## Challenges -/

/-- The challenge a packet is answered with: the valid one of its sender, or a new one. -/
def challengeFor (s : MasterServer Addr Ip) (x : Packet Addr) : Timed UInt32 :=
  (s.challenges.view (x.env.now 0) x.peer).getD ⟨x.env.now 1, x.env.rng 0⟩

/-- A request for a challenge from an address without a valid one: `e` is issued to it. -/
structure Issues (s : MasterServer Addr Ip) (x : Packet Addr) (A : Addr) (e : Timed UInt32) :
    Prop where
  peer : x.peer = A
  decoded : ∃ msg, Challenge.decode x.src = .ok msg
  vacant : s.challenges.view (x.env.now 0) A = none
  entry : e = ⟨x.env.now 1, x.env.rng 0⟩

/-- A request for a challenge is answered with it. -/
theorem handlePacket_challenge_eq {msg : Challenge} (h : Challenge.decode x.src = .ok msg) :
    s.handlePacket blake2b x.env x.peer x.src = .reply (s.handle blake2b x) (sendTo x.env
      (ChallengeResponse.wire ⟨(s.challengeFor x).value, msg.serverChallenge⟩) x.peer) := by
  have hstate : s.handle blake2b x = (s.serverChallengeAdd x.env x.peer).2 := by
    unfold handle
    rw [handlePacket_challenge h, state_handleServerChallenge]
  have hvalue : (s.serverChallengeAdd x.env x.peer).1 = (s.challengeFor x).value :=
    congrArg Timed.value (TimedHashMap.orInsert_fst _ _ _ _ _)
  rw [hstate, handlePacket_challenge h, ← hvalue]
  show Outcome.reply (s.serverChallengeAdd x.env x.peer).2
    (respond x.env (ChallengeResponse.encode 32 ⟨_, msg.serverChallenge⟩) x.peer) = _
  rw [ChallengeResponse.encode_eq]
  rfl

/-- The challenges after a registration. -/
theorem challenges_registered (s : MasterServer Addr Ip) (x : Packet Addr) (msg : ServerAdd) :
    (s.registered x msg).challenges = (s.challenges.remove x.peer (x.env.now 1)).2 := by
  unfold registered
  rw [addServer_frame]

/-- A registration consumes its challenge. -/
theorem lookup_challenges_registered (s : MasterServer Addr Ip) (x : Packet Addr)
    (msg : ServerAdd) : (s.registered x msg).challenges.lookup x.peer = none := by
  rw [challenges_registered, TimedHashMap.lookup_remove, Function.update_self]

/-- What a packet can do to the challenges. -/
theorem challenges_effect (h : Effect blake2b s x s') :
    s'.challenges = s.challenges ∨
    (∃ msg, Challenge.decode x.src = .ok msg) ∧ s'.challenges =
      (s.challenges.orInsert x.peer (x.env.now 0) (x.env.now 1) (x.env.rng 0)).2 ∨
    (s.challenges.view (x.env.now 1) x.peer = none ∨ ∃ msg e, Registers s x msg e) ∧
      s'.challenges = (s.challenges.remove x.peer (x.env.now 1)).2 := by
  cases h with
  | none => exact Or.inl rfl
  | challenge msg hd => exact Or.inr (Or.inl ⟨⟨msg, hd⟩, rfl⟩)
  | expired msg hd hr => exact Or.inr (Or.inr ⟨Or.inl hr, rfl⟩)
  | add msg e hr => exact Or.inr (Or.inr ⟨Or.inr ⟨msg, e, hr⟩, challenges_registered s x msg⟩)
  | game gamedirs filtered nat hg => exact Or.inl rfl
  | adminChallenge hd ha => exact Or.inl rfl
  | adminCommand e msg hx =>
    unfold executed
    rw [adminCommand_frame]
    exact Or.inl rfl
  | adminRefused e msg hx => exact Or.inl rfl

/-- The challenge of an address was there before the packet, or is issued by it. -/
theorem challenge_created (he : Effect blake2b s x s') (h : s'.challenges.lookup A = some e) :
    s.challenges.lookup A = some e ∨ Issues s x A e := by
  rcases challenges_effect he with hc | ⟨hd, hc⟩ | ⟨-, hc⟩
  · rw [hc] at h
    exact Or.inl h
  · rw [hc] at h
    by_cases hA : A = x.peer
    · subst hA
      rw [TimedHashMap.lookup_orInsert_self] at h
      cases hv : s.challenges.view (x.env.now 0) x.peer with
      | none =>
        rw [hv] at h
        exact Or.inr ⟨rfl, hd, hv, (Option.some.inj h).symm⟩
      | some e' =>
        rw [hv] at h
        exact Or.inl ((TimedHashMap.view_eq_some.1 hv).1.trans h)
    · have hs := (TimedHashMap.sweep_orInsert _ _ _ _ _).eq_some h
      rw [Function.update_of_ne hA] at hs
      exact Or.inl hs
  · rw [hc, TimedHashMap.lookup_remove] at h
    by_cases hA : A = x.peer
    · rw [hA, Function.update_self] at h
      cases h
    · rw [Function.update_of_ne hA] at h
      exact Or.inl h

/-- A valid challenge stays until its address registers with it. -/
theorem challenge_kept (he : Effect blake2b s x s') (h : s.challenges.lookup A = some e)
    (halive : ∀ i, e.isValid (x.env.now i) s.challenges.timeout = true)
    (hreg : x.peer = A → ∀ msg e', ¬ Registers s x msg e') :
    s'.challenges.lookup A = some e := by
  have hview : ∀ i, s.challenges.view (x.env.now i) A = some e := fun i =>
    TimedHashMap.view_eq_some.2 ⟨h, halive i⟩
  rcases challenges_effect he with hc | ⟨-, hc⟩ | ⟨hr, hc⟩
  · rw [hc]
    exact h
  · rw [hc]
    by_cases hA : A = x.peer
    · subst hA
      rw [TimedHashMap.lookup_orInsert_self, hview 0]
      rfl
    · refine (TimedHashMap.sweep_orInsert _ _ _ _ _).eq_some_of_alive ?_ (halive 0)
      rw [Function.update_of_ne hA]
      exact h
  · rw [hc, TimedHashMap.lookup_remove]
    by_cases hA : A = x.peer
    · exfalso
      rcases hr with hnone | ⟨msg, e', hr⟩
      · rw [← hA, hview 1] at hnone
        cases hnone
      · exact hreg hA.symm msg e' hr
    · rw [Function.update_of_ne hA]
      exact h

/-! ## Registration is authenticated -/

/-- A valid challenge was issued to its address by an earlier packet, and no registration has
consumed it since. -/
theorem challenge_provenance (s : MasterServer Addr Ip) (h0 : s.challenges.lookup A = none)
    (xs : List (Packet Addr)) (h : (exec (handle blake2b) s xs).challenges.lookup A = some e) :
    ∃ ys y zs, xs = ys ++ y :: zs ∧ Issues (exec (handle blake2b) s ys) y A e ∧
      ∀ p z q, zs = p ++ z :: q → z.peer = A →
        ∀ msg e', ¬ Registers (exec (handle blake2b) s (ys ++ y :: p)) z msg e' := by
  let look (s : MasterServer Addr Ip) := s.challenges.lookup A
  let keeps (s : MasterServer Addr Ip) (x : Packet Addr) (_ : Timed UInt32) : Prop :=
    x.peer = A → ∀ msg e', ¬ Registers s x msg e'
  have hstep : ∀ (s : MasterServer Addr Ip) x e, look (s.handle blake2b x) = some e →
      Issues s x A e ∨ look s = some e ∧ keeps s x e := by
    intro s x e hl
    rcases challenge_created (handle_effect blake2b s x) hl with h | h
    · refine Or.inr ⟨h, ?_⟩
      intro hpeer msg e' hr
      subst hpeer
      have hnone := lookup_challenges_registered s x msg
      rw [← handle_of_registers hr] at hnone
      exact absurd (hnone.symm.trans hl) (by simp)
    · exact Or.inl h
  exact exec_provenance look h0 hstep xs e h

/-- A server is added or replaced only by a registration from its address that carries the number
of a challenge issued to the address, within the timeout of the challenge and for the first time.
Every other packet leaves its entry as it is, unless the entry is expired or gets banned. -/
theorem registration_authenticated (blake2b : HashConfig → Bytes → Bytes) (cfg : MasterConfig)
    (sock updateAddr : SocketAddr) (xs : List (Packet Addr)) (x : Packet Addr) :
    let run := fun xs => exec (handle blake2b) (init cfg sock updateAddr : MasterServer Addr Ip) xs
    let s := run xs
    let s' := s.handle blake2b x
    (∀ A, (∀ msg e, ¬ (x.peer = A ∧ Registers s x msg e)) →
      s'.servers.lookup A = s.servers.lookup A ∨ Leaves blake2b s s' x A) ∧
    ∀ msg e, Registers s x msg e →
      ((∃ i, s'.servers.lookup x.peer = some ⟨x.env.now i, .new msg⟩) ∨
        Leaves blake2b s s' x x.peer) ∧
      ServerAdd.decode x.src = .ok msg ∧ ¬ msg.version < cfg.server.minVersion ∧
      ∃ ys y zs, xs = ys ++ y :: zs ∧ Issues (run ys) y x.peer e ∧
        (∃ m : Challenge, (run ys).handlePacket blake2b y.env y.peer y.src =
          .reply (run (ys ++ [y])) (sendTo y.env
            (ChallengeResponse.wire ⟨msg.challenge, m.serverChallenge⟩) x.peer)) ∧
        (x.env.now 1).durationSince (y.env.now 1) < cfg.server.timeout.challenge.toNat * 1000 ∧
        ∀ p z q, zs = p ++ z :: q → z.peer = x.peer →
          ∀ msg' e', ¬ Registers (run (ys ++ y :: p)) z msg' e' := by
  intro run s s'
  have hcfg : Configured cfg s := (configured_init cfg sock updateAddr).run xs
  refine ⟨fun A hA => lookup_servers (handle_effect blake2b s x) hA, ?_⟩
  intro msg e hr
  have hs' : s' = s.registered x msg := handle_of_registers hr
  refine ⟨?_, hr.decoded, hcfg.cfg_eq ▸ hr.version, ?_⟩
  · have hself := lookup_addServer_self x.env { s with
      challenges := (s.challenges.remove x.peer (x.env.now 1)).2 } x.peer (.new msg)
    rw [hs']
    exact hself.imp_right fun h => ⟨h.1, Or.inl h.2⟩
  · obtain ⟨hl, hv⟩ := TimedHashMap.view_eq_some.1 hr.unexpired
    obtain ⟨ys, y, zs, rfl, hy, hzs⟩ := challenge_provenance (init cfg sock updateAddr) rfl xs hl
    refine ⟨ys, y, zs, rfl, hy, ?_, ?_, hzs⟩
    · obtain ⟨m, hm⟩ := hy.decoded
      have hfor : (challengeFor (run ys) y).value = msg.challenge := by
        unfold challengeFor
        rw [hy.peer, hy.vacant, hr.challenge, hy.entry]
        rfl
      refine ⟨m, ?_⟩
      rw [handlePacket_challenge_eq hm, hfor, hy.peer]
      show _ = Outcome.reply (exec _ _ (ys ++ [y])) _
      rw [exec_append, exec_singleton]
    · rw [hcfg.challenges, Timed.isValid_iff, hy.entry] at hv
      exact hv

/-- A server registers with the challenge that its request was answered with. -/
theorem registration_authenticated_handshake :
    let A : SocketAddrV4 := ⟨⟨⟨[10, 0, 0, 1], rfl⟩⟩, 27015⟩
    let y : Packet SocketAddrV4 := ⟨.steady ⟨0⟩ fun _ => 7, A, [0x71, 0xff]⟩
    let x : Packet SocketAddrV4 := ⟨.steady ⟨125⟩ fun _ => 8, A,
      ascii "0\n\\protocol\\49\\challenge\\7\\version\\0.21\n"⟩
    let msg : ServerAdd := { (default : ServerAdd) with
      protocol := 49, challenge := 7, version := .new 0 21 }
    let s : MasterServer SocketAddrV4 Ipv4Addr := init {} (.v4 A) (.v4 A)
    Registers (s.handle (fun _ _ => []) y) x msg ⟨⟨0⟩, 7⟩ ∧ Issues s y A ⟨⟨0⟩, 7⟩ := by
  intro A y x msg s
  have hreg : Registers (s.handle (fun _ _ => []) y) x msg ⟨⟨0⟩, 7⟩ :=
    ⟨by decide +kernel, by decide +kernel, by decide +kernel, rfl, by decide +kernel⟩
  refine ⟨hreg, ?_⟩
  obtain ⟨-, -, -, ys, z, zs, hsplit, hissues, -⟩ :=
    (registration_authenticated (fun _ _ => []) {} (.v4 A) (.v4 A) [y] x).2 msg _ hreg
  rcases ys with _ | ⟨_, ys⟩
  · obtain ⟨rfl, -⟩ := List.cons.inj hsplit
    exact hissues
  · simp at hsplit

/-! ## Registration is not disturbed -/

/-- A registration of the address `A` with the number `c` that is not dropped. -/
structure Presents (cfg : MasterConfig) (s : MasterServer Addr Ip) (x : Arrival Addr) (A : Addr)
    (c : UInt32) (msg : ServerAdd) : Prop where
  sender : x.sender = wrap A
  unblocked : ip A ∉ s.blocklist
  decoded : ServerAdd.decode x.src = .ok msg
  version : ¬ msg.version < cfg.server.minVersion
  challenge : msg.challenge = c

/-- A valid challenge stays over a turn of the loop that presents no registration with it. -/
theorem challenge_kept_step {cfg : MasterConfig} (hcfg : Configured cfg s) {x : Arrival Addr}
    (h : s.challenges.lookup A = some e)
    (halive : ∀ i, e.isValid (x.env.now i) cfg.server.timeout.challenge = true)
    (hx : ∀ msg, ¬ Presents cfg s x A e.value msg) :
    (s.step blake2b x).challenges.lookup A = some e := by
  rcases step_cases blake2b s x with hs | ⟨peer, hp, hb, hs⟩ <;> rw [hs]
  · exact h
  · refine challenge_kept (handle_effect blake2b s _) h (hcfg.challenges ▸ halive) ?_
    rintro rfl msg e' hr
    obtain rfl : e = e' :=
      Option.some.inj (h.symm.trans (TimedHashMap.view_eq_some.1 hr.entry).1)
    exact hx msg ⟨hp, hb, hr.decoded, hcfg.cfg_eq ▸ hr.version, hr.challenge⟩

/-- It stays over a run. -/
theorem challenge_kept_run {cfg : MasterConfig} (hcfg : Configured cfg s)
    (h : s.challenges.lookup A = some e) (zs : List (Arrival Addr))
    (halive : ∀ z ∈ zs, ∀ i, e.isValid (z.env.now i) cfg.server.timeout.challenge = true)
    (hzs : ∀ p z q, zs = p ++ z :: q → ∀ msg,
      ¬ Presents cfg (exec (step blake2b) s p) z A e.value msg) :
    (exec (step blake2b) s zs).challenges.lookup A = some e := by
  induction zs using List.reverseRecOn with
  | nil => exact h
  | append_singleton zs z ih =>
    rw [exec_append, exec_singleton]
    refine challenge_kept_step (hcfg.loop zs) (ih ?_ ?_) (halive z (by simp)) (hzs zs z [] rfl)
    · exact fun z' hz' => halive z' (by simp [hz'])
    · intro p z' q hq msg
      exact hzs p z' (q ++ [z]) (by simp [hq]) msg

/-- A registration with a valid challenge adds the server, unless its address has no entry and its
IP address has enough servers. -/
theorem lookup_registered {cfg : MasterConfig} (hcfg : Configured cfg s) {msg : ServerAdd}
    {t : RelativeTime} (ht : ∀ i, x.env.now i = t) (hserver : 0 < cfg.server.timeout.server.toNat)
    (hcap : (∃ e, s.servers.view t x.peer = some e) ∨
      (s.serversOf t (ip x.peer)).length < cfg.server.maxServersPerIp.toNat) :
    (s.registered x msg).servers.lookup x.peer = some ⟨t, .new msg⟩ := by
  set s₁ : MasterServer Addr Ip :=
    { s with challenges := (s.challenges.remove x.peer (x.env.now 1)).2 } with hs₁
  show (s₁.addServer x.env x.peer (.new msg)).servers.lookup x.peer = _
  rcases addServer_cases x.env s₁ x.peer (.new msg) with ⟨-, h⟩ | ⟨hv, ⟨hc, h⟩ | ⟨-, h⟩⟩ <;> rw [h]
  · rw [TimedHashMap.lookup_entryInsert, Function.update_self, ht]
  · exfalso
    rw [ht] at hv hc
    rcases hcap with ⟨e, he⟩ | hcap
    · rw [he] at hv
      cases hv
    · have hcap' : (s₁.serversOf t (ip x.peer)).length < s₁.cfg.server.maxServersPerIp.toNat := by
        rw [show s₁.cfg = cfg from hcfg.cfg_eq]
        exact hcap
      rw [ht, countServers_entry s₁ x.peer le_rfl, ge_iff_le, UInt16.le_iff_toNat_le,
        toNat_countServers (hcap'.trans s₁.cfg.server.maxServersPerIp.toNat_lt)] at hc
      exact absurd hc (not_le.2 hcap')
  · refine (TimedHashMap.sweep_insert _ _ _ _ _).eq_some_of_alive ?_ ?_
    · rw [Function.update_self, ht]
    · have htime : (s₁.servers.entry x.peer (x.env.now 2)).2.timeout = cfg.server.timeout.server :=
        TimedHashMap.timeout_entry.trans hcfg.servers
      rw [htime, ht]
      exact Timed.isValid_self t _ hserver

section Loop

variable {y : Arrival Addr} {m : Challenge}

/-- A request for a challenge that is not dropped is answered. -/
theorem receive_challenge (hy : y.sender = wrap A) (hb : ip A ∉ s.blocklist)
    (hd : Challenge.decode y.src = .ok m) :
    s.receive blake2b y.env y.sender y.src = .reply (s.step blake2b y) (sendTo y.env
      (ChallengeResponse.wire ⟨(s.challengeFor ⟨y.env, A, y.src⟩).value, m.serverChallenge⟩) A) := by
  have hstep : s.step blake2b y = s.handle blake2b ⟨y.env, A, y.src⟩ := by
    unfold step
    rw [receive_eq hy hb]
    rfl
  rw [hstep, receive_eq hy hb]
  exact handlePacket_challenge_eq (x := ⟨y.env, A, y.src⟩) hd

/-- The challenge it is answered with is kept. -/
theorem lookup_step_challenge (hy : y.sender = wrap A) (hb : ip A ∉ s.blocklist)
    (hd : Challenge.decode y.src = .ok m) :
    (s.step blake2b y).challenges.lookup A = some (s.challengeFor ⟨y.env, A, y.src⟩) := by
  have hstep : s.step blake2b y = (s.serverChallengeAdd y.env A).2 := by
    unfold step
    rw [receive_eq hy hb, handlePacket_challenge hd, state_handleServerChallenge]
  rw [hstep]
  exact TimedHashMap.lookup_orInsert_self _ _ _ _ _

/-- It stays over the turns of the loop that come before its timeout. -/
theorem challenge_of_request {cfg : MasterConfig} (hcfg : Configured cfg s) (hy : y.sender = wrap A)
    (hb : ip A ∉ s.blocklist) (hd : Challenge.decode y.src = .ok m)
    (hfor : s.challengeFor ⟨y.env, A, y.src⟩ = e) (zs : List (Arrival Addr))
    (halive : ∀ z ∈ zs, ∀ i, e.isValid (z.env.now i) cfg.server.timeout.challenge = true)
    (hzs : ∀ p z q, zs = p ++ z :: q → ∀ msg,
      ¬ Presents cfg (exec (step blake2b) s (y :: p)) z A e.value msg) :
    (exec (step blake2b) s (y :: zs)).challenges.lookup A = some e := by
  have hput : (s.step blake2b y).challenges.lookup A = some e := by
    rw [lookup_step_challenge hy hb hd, hfor]
  rw [exec_cons]
  exact challenge_kept_run (hcfg.loop [y]) hput zs halive hzs

/-- A registration with a valid challenge is carried out. -/
theorem step_of_presents {cfg : MasterConfig} (hcfg : Configured cfg s) {msg : ServerAdd}
    (hp : Presents cfg s y A e.value msg) (he : ∀ i, s.challenges.view (y.env.now i) A = some e) :
    s.step blake2b y = s.registered ⟨y.env, A, y.src⟩ msg := by
  have hreg : Registers s ⟨y.env, A, y.src⟩ msg e :=
    ⟨hp.decoded, hcfg.cfg_eq.symm ▸ hp.version, he 0, hp.challenge, he 1⟩
  unfold step
  rw [receive_eq hp.sender hp.unblocked]
  exact handle_of_registers hreg

end Loop

/-- A challenge that an address got is given to it again while it is valid, and a registration
with it adds the server, whatever packets came in between. The exceptions are that the address is
banned, or that it has no valid entry and its IP address has enough servers. -/
theorem registration_undisturbed (blake2b : HashConfig → Bytes → Bytes) (cfg : MasterConfig)
    (hserver : 1 ≤ cfg.server.timeout.server) (sock updateAddr : SocketAddr)
    (xs zs : List (Arrival Addr)) (y x : Arrival Addr) (A : Addr) (m : Challenge) :
    let run := fun xs => exec (step blake2b) (init cfg sock updateAddr : MasterServer Addr Ip) xs
    let s := run (xs ++ y :: zs)
    let t := fun z : Arrival Addr => z.env.now 0
    -- every packet is handled at one clock reading
    (∀ z ∈ y :: zs ++ [x], ∀ i, z.env.now i = t z) →
    -- a request of the address for a challenge is answered with a new number
    y.sender = wrap A → ip A ∉ (run xs).blocklist → Challenge.decode y.src = .ok m →
    (run xs).challenges.view (t y) A = none →
    -- all packets since then are handled within the timeout of the challenge
    (∀ z ∈ zs ++ [x], (t z).durationSince (t y) < cfg.server.timeout.challenge.toNat * 1000) →
    -- none of them registers the address with the number
    (∀ p z q, zs = p ++ z :: q → ∀ msg,
      ¬ Presents cfg (run (xs ++ y :: p)) z A (y.env.rng 0) msg) →
    (run xs).receive blake2b y.env y.sender y.src = .reply ((run xs).step blake2b y)
      (sendTo y.env (ChallengeResponse.wire ⟨y.env.rng 0, m.serverChallenge⟩) A) ∧
    (∀ m', x.sender = wrap A → ip A ∉ s.blocklist → Challenge.decode x.src = .ok m' →
      s.receive blake2b x.env x.sender x.src = .reply (s.step blake2b x) (sendTo x.env
        (ChallengeResponse.wire ⟨y.env.rng 0, m'.serverChallenge⟩) A)) ∧
    ∀ msg, Presents cfg s x A (y.env.rng 0) msg →
      (s.step blake2b x).servers.lookup A = some ⟨t x, .new msg⟩ ∨
      s.servers.view (t x) A = none ∧
        cfg.server.maxServersPerIp.toNat ≤ (s.serversOf (t x) (ip A)).length := by
  intro run s t hnow hy hban hdec hvac hperiod hfirst
  have hcfg : Configured cfg s := (configured_init cfg sock updateAddr).loop _
  have hfor : (run xs).challengeFor ⟨y.env, A, y.src⟩ = ⟨t y, y.env.rng 0⟩ := by
    unfold challengeFor
    show ((run xs).challenges.view (y.env.now 0) A).getD ⟨y.env.now 1, y.env.rng 0⟩ = _
    rw [hvac, hnow y (by simp) 1]
    rfl
  have halive : ∀ z ∈ zs ++ [x], ∀ i, (⟨t y, y.env.rng 0⟩ : Timed UInt32).isValid (z.env.now i)
      cfg.server.timeout.challenge = true := by
    intro z hz i
    rw [Timed.isValid_iff, hnow z (by simp_all) i]
    exact hperiod z hz
  -- the challenge is there after the first request, and stays
  have hrun : ∀ p, run (xs ++ y :: p) = exec (step blake2b) (run xs) (y :: p) :=
    fun p => exec_append xs (y :: p)
  have hkept : s.challenges.lookup A = some ⟨t y, y.env.rng 0⟩ := by
    show (run (xs ++ y :: zs)).challenges.lookup A = _
    rw [hrun]
    refine challenge_of_request ((configured_init cfg sock updateAddr).loop xs) hy hban hdec hfor zs
      (fun z hz => halive z (List.mem_append_left [x] hz)) ?_
    intro p z q hq msg hp
    rw [← hrun] at hp
    exact hfirst p z q hq msg hp
  have hview : ∀ i, s.challenges.view (x.env.now i) A = some ⟨t y, y.env.rng 0⟩ := by
    intro i
    refine TimedHashMap.view_eq_some.2 ⟨hkept, ?_⟩
    rw [hcfg.challenges]
    exact halive x (by simp) i
  refine ⟨?_, ?_, ?_⟩
  · rw [receive_challenge hy hban hdec, hfor]
  · intro m' hx hb hm'
    rw [receive_challenge hx hb hm']
    unfold challengeFor
    rw [hview 0]
    rfl
  · intro msg hp
    rw [step_of_presents hcfg hp hview]
    by_cases hcap : (∃ e, s.servers.view (t x) A = some e) ∨
        (s.serversOf (t x) (ip A)).length < cfg.server.maxServersPerIp.toNat
    · exact Or.inl (lookup_registered hcfg (x := ⟨x.env, A, x.src⟩) (hnow x (by simp))
        (UInt32.le_iff_toNat_le.1 hserver) hcap)
    · push Not at hcap
      refine Or.inr ⟨?_, hcap.2⟩
      cases hv : s.servers.view (t x) A with
      | none => rfl
      | some e => exact absurd hv (hcap.1 e)

/-- A handshake: the challenge is requested at the start and presented a second later. -/
theorem registration_undisturbed_handshake :
    let A : SocketAddrV4 := ⟨⟨⟨[10, 0, 0, 1], rfl⟩⟩, 27015⟩
    let B : SocketAddrV4 := ⟨⟨⟨[10, 0, 0, 2], rfl⟩⟩, 27015⟩
    let packet (t : RelativeTime) (number : UInt32) (sender : SocketAddrV4) (src : Bytes) :
        Arrival SocketAddrV4 := ⟨.steady t fun _ => number, .v4 sender, src⟩
    let y := packet ⟨0⟩ 7 A [0x71, 0xff]
    let wrong := packet ⟨40⟩ 8 A (ascii "0\n\\protocol\\49\\challenge\\9\\version\\0.21\n")
    let other := packet ⟨80⟩ 9 B [0x71, 0xff]
    let x := packet ⟨125⟩ 10 A (ascii "0\n\\protocol\\49\\challenge\\7\\version\\0.21\n")
    let msg : ServerAdd := { (default : ServerAdd) with
      protocol := 49, challenge := 7, version := .new 0 21 }
    let s := exec (step fun _ _ => [])
      (init {} (.v4 A) (.v4 A) : MasterServer SocketAddrV4 Ipv4Addr) [y, wrong, other]
    (s.step (fun _ _ => []) x).servers.lookup A = some ⟨⟨125⟩, .new msg⟩ := by
  intro A B packet y wrong other x msg s
  have hwrong : ServerAdd.decode wrong.src = .ok { msg with challenge := 9 } := by decide +kernel
  have hfirst : ∀ p z q, [wrong, other] = p ++ z :: q → ∀ msg', ¬ Presents {}
      (exec (step fun _ _ => []) (init {} (.v4 A) (.v4 A) : MasterServer SocketAddrV4 Ipv4Addr)
        ([] ++ y :: p)) z A 7 msg' := by
    intro p z q hsplit msg' hp
    have hz : z = wrong ∨ z = other := by
      have hmem : z ∈ [wrong, other] := hsplit ▸ List.mem_append_right p List.mem_cons_self
      simpa using hmem
    rcases hz with rfl | rfl
    · obtain rfl := Except.ok.inj (hp.decoded.symm.trans hwrong)
      exact absurd hp.challenge (by decide)
    · exact absurd (SocketAddr.v4.inj hp.sender) (by decide)
  have hreg := (registration_undisturbed (fun _ _ => []) {} (by decide) (.v4 A) (.v4 A) []
    [wrong, other] y x A ⟨none⟩ (by simp [packet, y, wrong, other, x, Env.steady]) rfl
    (by simp [exec, init]) (by decide +kernel) rfl (by decide +kernel) hfirst).2.2 msg
    ⟨rfl, by decide +kernel, by decide +kernel, by decide, rfl⟩
  refine hreg.resolve_right ?_
  rintro ⟨-, hfull⟩
  revert hfull
  decide +kernel

end Xash3d.MasterServer
