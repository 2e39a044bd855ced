import Xash3d.Master.Servers

/-!
# Admin authority

An admin asks for a pair of challenges and answers it with a command. `admin_authority` says that
a command is executed only for the last pair issued to its IP address, within the timeout and once,
and that a wrong hash locks the IP address out.

The pair a command is compared with is what `adminChallenges` holds for its IP address:
`adminIssues_of_lookup` says where it comes from. The lockout is an entry of `adminLimit` that no
packet takes away before its timeout (`limit_kept`).
-/

namespace Xash3d.MasterServer

open Lib AddrExt

variable {Addr Ip : Type} [AddrExt Addr Ip] [DecidableEq Addr] [DecidableEq Ip]
  {blake2b : HashConfig → Bytes → Bytes} {s s' : MasterServer Addr Ip} {x : Packet Addr}
  {P : Ip} {e : Timed (UInt32 × UInt32)} {msg : AdminCommand}

/-! ## Pairs of challenges -/

/-- A request for a pair that is answered: `e` is issued to the IP address. -/
structure AdminIssues (s : MasterServer Addr Ip) (x : Packet Addr) (P : Ip)
    (e : Timed (UInt32 × UInt32)) : Prop where
  ip : ip x.peer = P
  decoded : AdminChallenge.decode x.src = .ok ⟨⟩
  allowed : s.adminLimit.view (x.env.now 0) P = none
  entry : e = ⟨x.env.now 1, (x.env.rng 0, x.env.rng 1)⟩

/-- The packet makes the server execute a command of the IP address. -/
def ExecutesFrom (blake2b : HashConfig → Bytes → Bytes) (s : MasterServer Addr Ip)
    (x : Packet Addr) (P : Ip) : Prop :=
  ip x.peer = P ∧ ∃ e msg, Executes blake2b s x e msg

omit [DecidableEq Addr] in
theorem isPrefixOf_of_adminIssues (h : AdminIssues s x P e) :
    AdminChallenge.header.isPrefixOf x.src = true := by
  have hd := h.decoded
  unfold AdminChallenge.decode at hd
  split_ifs at hd with hsrc
  rw [hsrc]
  decide

/-- The answer to a request. -/
theorem handlePacket_adminIssues (h : AdminIssues s x P e) :
    s.handlePacket blake2b x.env x.peer x.src = .reply (s.handle blake2b x)
      (sendTo x.env (AdminChallengeResponse.wire ⟨e.value.1, e.value.2⟩) x.peer) := by
  obtain ⟨rfl, hd, ha, rfl⟩ := h
  have heq : s.handlePacket blake2b x.env x.peer x.src = s.handleAdminChallenge x.env x.peer :=
    handle_of_adminChallenge hd ha
  have hstate : s.handle blake2b x = (s.adminChallengeAdd x.env x.peer).2 := by
    unfold handle
    rw [heq, state_handleAdminChallenge]
  rw [hstate, heq]
  show Outcome.reply (s.adminChallengeAdd x.env x.peer).2
    (respond x.env (AdminChallengeResponse.encode 64 ⟨x.env.rng 0, x.env.rng 1⟩) x.peer) = _
  rw [AdminChallengeResponse.encode_eq]
  rfl

/-- The pairs after a request that is answered. -/
theorem adminChallenges_of_issues (h : AdminIssues s x P e) :
    (s.handle blake2b x).adminChallenges =
      s.adminChallenges.insert P e.value (x.env.now 1) (x.env.now 2) := by
  obtain ⟨rfl, hd, ha, rfl⟩ := h
  unfold handle
  rw [handle_of_adminChallenge hd ha, state_handleAdminChallenge]
  rfl

omit [DecidableEq Addr] in
/-- The pairs after a command is executed. -/
theorem adminChallenges_executed (s : MasterServer Addr Ip) (x : Packet Addr)
    (msg : AdminCommand) : ∃ t, (s.executed x msg).adminChallenges =
      (s.adminChallenges.remove (ip x.peer) t).2 := by
  unfold executed
  rw [adminCommand_frame]
  exact ⟨x.env.now (2 + (msg.command.splitOn 32).length), rfl⟩

/-- What a packet can do to the pairs. -/
theorem adminChallenges_effect (h : Effect blake2b s x s') :
    s'.adminChallenges = s.adminChallenges ∨
    (∃ e, AdminIssues s x (ip x.peer) e ∧ s'.adminChallenges =
      s.adminChallenges.insert (ip x.peer) e.value (x.env.now 1) (x.env.now 2)) ∨
    ExecutesFrom blake2b s x (ip x.peer) ∧
      ∃ t, s'.adminChallenges = (s.adminChallenges.remove (ip x.peer) t).2 := by
  cases h with
  | none => exact Or.inl rfl
  | challenge msg hd => exact Or.inl rfl
  | expired msg hd hr => exact Or.inl rfl
  | add msg e hr =>
    unfold registered
    rw [addServer_frame]
    exact Or.inl rfl
  | game gamedirs filtered nat hg => exact Or.inl rfl
  | adminChallenge hd ha => exact Or.inr (Or.inl ⟨_, ⟨rfl, hd, ha, rfl⟩, rfl⟩)
  | adminCommand e msg hx =>
    exact Or.inr (Or.inr ⟨⟨rfl, e, msg, hx⟩, adminChallenges_executed s x msg⟩)
  | adminRefused e msg hx => exact Or.inl rfl

/-- The pair of an IP address after a packet is issued by it, or was there before; the packet then
neither issues another one nor has its command executed. -/
theorem adminChallenge_created (h : (s.handle blake2b x).adminChallenges.lookup P = some e) :
    AdminIssues s x P e ∨ s.adminChallenges.lookup P = some e ∧
      (∀ e', ¬ AdminIssues s x P e') ∧ ¬ ExecutesFrom blake2b s x P := by
  by_cases hi : ∃ e', AdminIssues s x P e'
  · obtain ⟨e', hi⟩ := hi
    rw [adminChallenges_of_issues hi] at h
    have hs := (TimedHashMap.sweep_insert _ _ _ _ _).eq_some h
    rw [Function.update_self] at hs
    have he : e = e' := by
      rw [← Option.some.inj hs, hi.entry]
    exact Or.inl (he ▸ hi)
  have hno : ¬ ExecutesFrom blake2b s x P := by
    rintro ⟨rfl, e', msg, hx⟩
    obtain ⟨t, ht⟩ := adminChallenges_executed s x msg
    rw [handle_of_executes hx, ht, TimedHashMap.lookup_remove, Function.update_self] at h
    cases h
  refine Or.inr ⟨?_, not_exists.1 hi, hno⟩
  rcases adminChallenges_effect (handle_effect blake2b s x) with hc | ⟨e', hi', hc⟩ | ⟨hx, t, hc⟩
  · rwa [hc] at h
  · have hP : P ≠ ip x.peer := by
      rintro rfl
      exact hi ⟨e', hi'⟩
    rw [hc] at h
    have hs := (TimedHashMap.sweep_insert _ _ _ _ _).eq_some h
    rwa [Function.update_of_ne hP] at hs
  · have hP : P ≠ ip x.peer := by
      rintro rfl
      exact hno hx
    rwa [hc, TimedHashMap.lookup_remove, Function.update_of_ne hP] at h

/-- The pair of an IP address was issued to it by an earlier packet. Since then no other pair was
issued to it, and no command of it executed. -/
theorem adminIssues_of_lookup (s : MasterServer Addr Ip)
    (h0 : s.adminChallenges.lookup P = none) (xs : List (Packet Addr))
    (h : (exec (handle blake2b) s xs).adminChallenges.lookup P = some e) :
    ∃ ys y zs, xs = ys ++ y :: zs ∧ AdminIssues (exec (handle blake2b) s ys) y P e ∧
      ∀ p z q, zs = p ++ z :: q →
        (∀ e', ¬ AdminIssues (exec (handle blake2b) s (ys ++ y :: p)) z P e') ∧
        ¬ ExecutesFrom blake2b (exec (handle blake2b) s (ys ++ y :: p)) z P :=
  exec_provenance (fun s : MasterServer Addr Ip => s.adminChallenges.lookup P) h0
    (fun _ _ _ hl => adminChallenge_created hl) xs e h

/-! ## The lockout -/

/-- What a packet can do to the lockouts. -/
theorem adminLimit_effect (h : Effect blake2b s x s') :
    s'.adminLimit = s.adminLimit ∨ s.adminLimit.view (x.env.now 0) (ip x.peer) = none ∧
      s'.adminLimit = s.adminLimit.insert (ip x.peer) () (x.env.now 2) (x.env.now 3) := by
  cases h with
  | none => exact Or.inl rfl
  | challenge msg hd => exact Or.inl rfl
  | expired msg hd hr => exact Or.inl rfl
  | add msg e hr =>
    unfold registered
    rw [addServer_frame]
    exact Or.inl rfl
  | game gamedirs filtered nat hg => exact Or.inl rfl
  | adminChallenge hd ha => exact Or.inl rfl
  | adminCommand e msg hx =>
    unfold executed
    rw [adminCommand_frame]
    exact Or.inl rfl
  | adminRefused e msg hx => exact Or.inr ⟨hx.notLimited, rfl⟩

/-- A lockout stays until its timeout. -/
theorem limit_kept {l : Timed Unit} (he : Effect blake2b s x s')
    (h : s.adminLimit.lookup P = some l)
    (halive : ∀ i, l.isValid (x.env.now i) s.adminLimit.timeout = true) :
    s'.adminLimit.lookup P = some l := by
  rcases adminLimit_effect he with hc | ⟨hv, hc⟩
  · rw [hc]
    exact h
  · have hP : P ≠ ip x.peer := by
      rintro rfl
      rw [TimedHashMap.view_eq_some.2 ⟨h, halive 0⟩] at hv
      cases hv
    rw [hc]
    refine (TimedHashMap.sweep_insert _ _ _ _ _).eq_some_of_alive ?_ (halive 3)
    rw [Function.update_of_ne hP]
    exact h

theorem limit_kept_run {cfg : MasterConfig} {l : Timed Unit} (hcfg : Configured cfg s)
    (h : s.adminLimit.lookup P = some l) (zs : List (Packet Addr))
    (halive : ∀ z ∈ zs, ∀ i, l.isValid (z.env.now i) cfg.server.timeout.admin = true) :
    (exec (handle blake2b) s zs).adminLimit.lookup P = some l := by
  induction zs using List.reverseRecOn with
  | nil => exact h
  | append_singleton zs z ih =>
    rw [exec_append, exec_singleton]
    have hkept := ih fun z' hz' => halive z' (by simp [hz'])
    have hcfg' : Configured cfg (exec (handle blake2b) s zs) := hcfg.run zs
    exact limit_kept (handle_effect blake2b _ z) hkept (hcfg'.adminLimit ▸ halive z (by simp))

omit [DecidableEq Addr] in
/-- A refused command locks its IP address out. -/
theorem lookup_lockedOut (s : MasterServer Addr Ip) (x : Packet Addr)
    (halive : (⟨x.env.now 2, ()⟩ : Timed Unit).isValid (x.env.now 3) s.adminLimit.timeout = true) :
    (s.lockedOut x).adminLimit.lookup (ip x.peer) = some ⟨x.env.now 2, ()⟩ := by
  refine (TimedHashMap.sweep_insert s.adminLimit (ip x.peer) () (x.env.now 2)
    (x.env.now 3)).eq_some_of_alive ?_ halive
  rw [Function.update_self]

/-- It stays locked out over the packets that come before the timeout. -/
theorem limit_of_refused {cfg : MasterConfig} (hcfg : Configured cfg s) {w : Packet Addr}
    {e : Timed (UInt32 × UInt32)} {msg : AdminCommand} (hw : Refused blake2b s w e msg)
    (q : List (Packet Addr))
    (halive : ∀ z ∈ w :: q, ∀ i, (⟨w.env.now 2, ()⟩ : Timed Unit).isValid (z.env.now i)
      cfg.server.timeout.admin = true) :
    (exec (handle blake2b) s (w :: q)).adminLimit.lookup (ip w.peer) = some ⟨w.env.now 2, ()⟩ := by
  rw [exec_cons, handle_of_refused hw]
  have hcfg' : Configured cfg (s.lockedOut w) := by
    rw [← handle_of_refused hw]
    exact hcfg.run [w]
  refine limit_kept_run hcfg' (lookup_lockedOut s w ?_) q fun z hz =>
    halive z (List.mem_cons_of_mem w hz)
  rw [hcfg.adminLimit]
  exact halive w List.mem_cons_self 3

/-- While a lockout is valid no command of its IP address is looked at. -/
theorem handlePacket_of_limit {l : Timed Unit} (h : s.adminLimit.lookup (ip x.peer) = some l)
    (halive : l.isValid (x.env.now 0) s.adminLimit.timeout = true)
    (hp : AdminCommand.header.isPrefixOf x.src = true) :
    s.handlePacket blake2b x.env x.peer x.src = .fail s .adminRateLimit := by
  refine handlePacket_adminLimited hp ?_
  unfold allowAdminRequest
  rw [TimedHashMap.get_eq_view, TimedHashMap.view_eq_some.2 ⟨h, halive⟩]
  rfl

/-! ## Admin authority -/

/-- A packet that executes no command bans nothing, and takes away only expired servers. -/
theorem handle_of_not_executes (hx : ¬ ExecutesFrom blake2b s x (ip x.peer)) :
    (s.handle blake2b x).blocklist = s.blocklist ∧
      ∀ A, (∀ msg e, ¬ (x.peer = A ∧ Registers s x msg e)) →
        (s.handle blake2b x).servers.lookup A = s.servers.lookup A ∨
          (s.handle blake2b x).servers.lookup A = none ∧
            ∃ i, s.servers.view (x.env.now i) A = none := by
  have heff := handle_effect blake2b s x
  constructor
  · generalize s.handle blake2b x = s' at heff ⊢
    cases heff with
    | add msg e hr =>
      unfold registered
      rw [addServer_frame]
    | adminCommand e msg h => exact absurd ⟨rfl, e, msg, h⟩ hx
    | _ => rfl
  · intro A hA
    refine (lookup_servers heff hA).imp_right ?_
    rintro ⟨hnone, hexpired | ⟨⟨e, msg, h⟩, -⟩⟩
    · exact ⟨hnone, hexpired⟩
    · exact absurd ⟨rfl, e, msg, h⟩ hx

/-- A command is executed only behind the last pair of challenges that was issued to its IP
address, within the timeout of the pair and once, and with the hash of an admin for it. A second
command takes another pair. A command with the right challenge and the hash of no admin locks its
IP address out. -/
theorem admin_authority (blake2b : HashConfig → Bytes → Bytes) (cfg : MasterConfig)
    (sock updateAddr : SocketAddr) (xs : List (Packet Addr)) (x : Packet Addr) :
    let run := fun xs => exec (handle blake2b) (init cfg sock updateAddr : MasterServer Addr Ip) xs
    let s := run xs
    let s' := s.handle blake2b x
    let P := ip x.peer
    -- nothing but an executed command bans, or takes away a server that is not expired
    (¬ ExecutesFrom blake2b s x P → s'.blocklist = s.blocklist ∧
      ∀ A, (∀ msg e, ¬ (x.peer = A ∧ Registers s x msg e)) →
        s'.servers.lookup A = s.servers.lookup A ∨
          s'.servers.lookup A = none ∧ ∃ i, s.servers.view (x.env.now i) A = none) ∧
    (∀ e msg, Executes blake2b s x e msg →
      s' = (s.adminCommand x.env msg.command).adminChallengeRemove x.peer
        (x.env.now (2 + (msg.command.splitOn 32).length)) ∧
      AdminCommand.decodeWithHashLen cfg.hash.len x.src = .ok msg ∧
      s.adminLimit.view (x.env.now 0) P = none ∧ msg.masterChallenge = e.value.1 ∧
      (∃ i ∈ cfg.adminList, msg.hash = blake2b cfg.hash (i.password ++ u32Le e.value.2)) ∧
      ∃ ys y zs, xs = ys ++ y :: zs ∧ AdminIssues (run ys) y P e ∧
        (run ys).handlePacket blake2b y.env y.peer y.src = .reply (run (ys ++ [y]))
          (sendTo y.env (AdminChallengeResponse.wire ⟨e.value.1, e.value.2⟩) y.peer) ∧
        (x.env.now 1).durationSince (y.env.now 1) < cfg.server.timeout.challenge.toNat * 1000 ∧
        ∀ p z q, zs = p ++ z :: q → (∀ e', ¬ AdminIssues (run (ys ++ y :: p)) z P e') ∧
          ¬ ExecutesFrom blake2b (run (ys ++ y :: p)) z P) ∧
    -- between two commands of an IP address the pair of the second one is issued
    (∀ e msg, Executes blake2b s x e msg → ∀ p z q e' msg', xs = p ++ z :: q → ip z.peer = P →
      Executes blake2b (run p) z e' msg' → ∃ p' y q', q = p' ++ y :: q' ∧
        AdminIssues (run (p ++ z :: p')) y P e ∧ (z.src = x.src → e.value.1 = e'.value.1)) ∧
    -- the lockout
    ∀ p w q e msg, xs = p ++ w :: q → Refused blake2b (run p) w e msg → ip w.peer = P →
      (∀ z ∈ w :: q ++ [x], ∀ i,
        (z.env.now i).durationSince (w.env.now 2) < cfg.server.timeout.admin.toNat * 1000) →
      AdminCommand.header.isPrefixOf x.src = true →
      s.handlePacket blake2b x.env x.peer x.src = .fail s .adminRateLimit := by
  intro run s s' P
  have hcfg : ∀ xs, Configured cfg (run xs) := (configured_init cfg sock updateAddr).run
  -- the pair of an executed command
  have hissued : ∀ e msg, Executes blake2b s x e msg → ∃ ys y zs, xs = ys ++ y :: zs ∧
      AdminIssues (run ys) y P e ∧ ∀ p z q, zs = p ++ z :: q →
        (∀ e', ¬ AdminIssues (run (ys ++ y :: p)) z P e') ∧
        ¬ ExecutesFrom blake2b (run (ys ++ y :: p)) z P := fun e msg hx =>
    adminIssues_of_lookup (init cfg sock updateAddr) rfl xs (TimedHashMap.view_eq_some.1 hx.entry).1
  refine ⟨handle_of_not_executes, ?_, ?_, ?_⟩
  · intro e msg hx
    have hadmin := hx.admin
    have hdecoded := hx.decoded
    have hvalid := (TimedHashMap.view_eq_some.1 hx.entry).2
    obtain ⟨ys, y, zs, rfl, hy, hzs⟩ := hissued e msg hx
    rw [(hcfg _).cfg_eq] at hadmin hdecoded
    rw [(hcfg _).adminChallenges, Timed.isValid_iff, hy.entry] at hvalid
    refine ⟨handle_of_executes hx, hdecoded, hx.notLimited, hx.challenge.symm, hadmin, ys, y, zs,
      rfl, hy, ?_, hvalid, hzs⟩
    rw [handlePacket_adminIssues hy]
    show Outcome.reply _ _ = Outcome.reply (exec _ _ (ys ++ [y])) _
    rw [exec_append, exec_singleton]
  · intro e msg hx p z q e' msg' hxs hz hx'
    have hfrom : ExecutesFrom blake2b (run p) z P := ⟨hz, e', msg', hx'⟩
    obtain ⟨ys, y, zs, rfl, hy, hzs⟩ := hissued e msg hx
    rcases append_cons_eq_append_cons hxs.symm with ⟨p', rfl, rfl⟩ | ⟨rfl, rfl, rfl⟩ | ⟨p', rfl, rfl⟩
    · refine ⟨p', y, zs, rfl, hy, ?_⟩
      intro hsrc
      have hdecoded := hx.decoded
      have hdecoded' := hx'.decoded
      rw [(hcfg _).cfg_eq] at hdecoded hdecoded'
      rw [hsrc, hdecoded] at hdecoded'
      rw [hx.challenge, Except.ok.inj hdecoded', hx'.challenge]
    · exact absurd (isPrefixOf_of_adminIssues hy) hx'.notRequest
    · exact absurd hfrom (hzs p' z q rfl).2
  · rintro p w q e msg rfl hw hP hclock hp
    have halive : ∀ z ∈ w :: q ++ [x], ∀ i, (⟨w.env.now 2, ()⟩ : Timed Unit).isValid
        (z.env.now i) cfg.server.timeout.admin = true := fun z hz i =>
      (Timed.isValid_iff _ _ _).2 (hclock z hz i)
    have hkept : s.adminLimit.lookup P = some ⟨w.env.now 2, ()⟩ := by
      show (exec (handle blake2b) _ (p ++ w :: q)).adminLimit.lookup P = _
      rw [exec_append, ← hP]
      exact limit_of_refused (hcfg p) hw q fun z hz => halive z (List.mem_append_left [x] hz)
    refine handlePacket_of_limit hkept ?_ hp
    rw [(hcfg _).adminLimit]
    exact halive x (by simp) 0

/-- With a hash that does not depend on the second challenge a command is executed again when its
first challenge is issued again, though the pair is another one. -/
theorem command_replayed :
    let blake2b : HashConfig → Bytes → Bytes := fun _ _ => [0]
    let host : SocketAddrV4 := ⟨⟨⟨[10, 0, 0, 1], rfl⟩⟩, 27010⟩
    let cfg : MasterConfig := { hash := { len := 1 }, adminList := [⟨ascii "admin", ascii "pass"⟩] }
    let request (c : UInt32) : Packet SocketAddrV4 :=
      ⟨.steady ⟨0⟩ fun n => if n = 0 then 7 else c, host, AdminChallenge.header⟩
    let command : Packet SocketAddrV4 :=
      ⟨.steady ⟨0⟩ fun _ => 0, host, ascii "admin" ++ [7, 0, 0, 0, 0] ++ ascii "ban 10.0.0.2"⟩
    let run xs := exec (handle blake2b)
      (init cfg (.v4 host) (.v4 host) : MasterServer SocketAddrV4 Ipv4Addr) xs
    let msg : AdminCommand := ⟨7, [0], ascii "ban 10.0.0.2"⟩
    Executes blake2b (run [request 1]) command ⟨⟨0⟩, (7, 1)⟩ msg ∧
      Executes blake2b (run [request 1, command, request 2]) command ⟨⟨0⟩, (7, 2)⟩ msg ∧
      (∀ e, ¬ AdminIssues (run [request 1]) command host.ip e) ∧
      ∀ e, AdminIssues (run [request 1, command]) (request 2) host.ip e → e.value = (7, 2) := by
  intro blake2b host cfg request command run msg
  have hfirst : ∀ e, ¬ AdminIssues (run [request 1]) command host.ip e := fun e h =>
    absurd (isPrefixOf_of_adminIssues h) (by decide)
  have hsecond : ∀ e, AdminIssues (run [request 1, command]) (request 2) host.ip e →
      e.value = (7, 2) := fun e h => congrArg Timed.value h.entry
  refine ⟨⟨⟨?_, ?_, ?_, ?_, ?_, ?_⟩, ?_⟩, ⟨⟨?_, ?_, ?_, ?_, ?_, ?_⟩, ?_⟩, hfirst, hsecond⟩ <;>
    decide +kernel

end Xash3d.MasterServer
