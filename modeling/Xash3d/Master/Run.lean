import Xash3d.Lib.Run
import Xash3d.Master.MasterServer

/-!
# Runs of a master server

`handle` is the state after a packet. `Effect` lists everything a packet can do to the state, with
the guards it passed (`handle_effect`): the invariants of runs are case distinctions on it.
`handlePacket_challenge`, `handlePacket_serverAdd`, … say where a decoded packet goes.
-/

namespace Xash3d

open Lib AddrExt

namespace MasterServer

variable {Addr Ip : Type} [AddrExt Addr Ip] [DecidableEq Addr] [DecidableEq Ip]

/-- A request that counts towards the rate limit of its sender. -/
def isGameRequest (src : Bytes) : Bool :=
  QueryServers.header.isPrefixOf src || GetServerInfo.header.isPrefixOf src

section Dispatch

variable {blake2b : HashConfig → Bytes → Bytes} {env : Env Addr} {s : MasterServer Addr Ip}
  {peer : Addr} {src : Bytes}

theorem handlePacket_challenge {msg : Challenge} (h : Challenge.decode src = .ok msg) :
    s.handlePacket blake2b env peer src = s.handleServerChallenge env peer msg := by
  unfold handlePacket
  rw [if_pos (isPrefixOf_of_run h), h]
  rfl

theorem handlePacket_serverAdd {msg : ServerAdd} (h : ServerAdd.decode src = .ok msg) :
    s.handlePacket blake2b env peer src = s.handleServerAdd env peer msg := by
  have hp := isPrefixOf_of_run h
  unfold handlePacket
  rw [if_neg (not_isPrefixOf (by decide) hp), if_pos hp, h]
  rfl

/-- A query for servers goes through the rate limit first. -/
theorem handlePacket_queryServers (hp : QueryServers.header.isPrefixOf src = true) :
    s.handlePacket blake2b env peer src =
      handleAllowed (s.allowGameRequest env peer).1 (s.allowGameRequest env peer).2
        (handleDecoded (s.allowGameRequest env peer).2 (QueryServers.decode src)
          ((s.allowGameRequest env peer).2.handleGameQueryServers env peer)) := by
  unfold handlePacket
  rw [if_neg (not_isPrefixOf (by decide) hp), if_neg (not_isPrefixOf (by decide) hp),
    if_neg (not_isPrefixOf (by decide) hp), if_pos hp]

/-- So does a request for the information of the master server. -/
theorem handlePacket_getServerInfo (hp : GetServerInfo.header.isPrefixOf src = true) :
    s.handlePacket blake2b env peer src =
      handleAllowed (s.allowGameRequest env peer).1 (s.allowGameRequest env peer).2
        (handleDecoded (s.allowGameRequest env peer).2 (GetServerInfo.decode src)
          ((s.allowGameRequest env peer).2.handleGameGetServerInfo env peer)) := by
  unfold handlePacket
  rw [if_neg (not_isPrefixOf (by decide) hp), if_neg (not_isPrefixOf (by decide) hp),
    if_neg (not_isPrefixOf (by decide) hp), if_neg (not_isPrefixOf (by decide) hp), if_pos hp]

/-- An admin packet of either kind is refused while its sender is locked out. -/
theorem handlePacket_adminLimited (hp : AdminCommand.header.isPrefixOf src = true) {e : Error}
    (he : s.allowAdminRequest env peer = .error e) :
    s.handlePacket blake2b env peer src = .fail s e := by
  unfold handlePacket
  rw [if_neg (not_isPrefixOf (by decide) hp), if_neg (not_isPrefixOf (by decide) hp),
    if_neg (not_isPrefixOf (by decide) hp), if_neg (not_isPrefixOf (by decide) hp),
    if_neg (not_isPrefixOf (by decide) hp), if_pos hp, he]
  split <;> rfl

end Dispatch

/-! ## What a packet does -/

/-- A packet from an address of the server's family. -/
structure Packet (Addr : Type) where
  env : Env Addr
  peer : Addr
  src : Bytes

variable (blake2b : HashConfig → Bytes → Bytes)

/-- The state after a packet. -/
def handle (s : MasterServer Addr Ip) (x : Packet Addr) : MasterServer Addr Ip :=
  (s.handlePacket blake2b x.env x.peer x.src).state

/-- The packet is a registration that passes every check, with the challenge entry `e`. -/
structure Registers (s : MasterServer Addr Ip) (x : Packet Addr) (msg : ServerAdd)
    (e : Timed UInt32) : Prop where
  decoded : ServerAdd.decode x.src = .ok msg
  version : ¬ msg.version < s.cfg.server.minVersion
  entry : s.challenges.view (x.env.now 0) x.peer = some e
  challenge : msg.challenge = e.value
  unexpired : s.challenges.view (x.env.now 1) x.peer = some e

/-- The packet passes every check of an admin command, for an entry and a message. -/
structure Authorised (s : MasterServer Addr Ip) (x : Packet Addr)
    (e : Timed (UInt32 × UInt32)) (msg : AdminCommand) : Prop where
  header : AdminCommand.header.isPrefixOf x.src = true
  /-- The longer header of a challenge request is tried first. -/
  notRequest : ¬ AdminChallenge.header.isPrefixOf x.src = true
  notLimited : s.adminLimit.view (x.env.now 0) (ip x.peer) = none
  decoded : AdminCommand.decodeWithHashLen s.cfg.hash.len x.src = .ok msg
  entry : s.adminChallenges.view (x.env.now 1) (ip x.peer) = some e
  challenge : e.value.1 = msg.masterChallenge

/-- The packet makes the server execute its command: its hash is the one of a configured admin. -/
structure Executes (s : MasterServer Addr Ip) (x : Packet Addr) (e : Timed (UInt32 × UInt32))
    (msg : AdminCommand) : Prop extends Authorised s x e msg where
  admin : ∃ i ∈ s.cfg.adminList, msg.hash = blake2b s.cfg.hash (i.password ++ u32Le e.value.2)

/-- The packet has the right challenge of a command and the hash of no admin. -/
structure Refused (s : MasterServer Addr Ip) (x : Packet Addr) (e : Timed (UInt32 × UInt32))
    (msg : AdminCommand) : Prop extends Authorised s x e msg where
  noAdmin : ∀ i ∈ s.cfg.adminList, msg.hash ≠ blake2b s.cfg.hash (i.password ++ u32Le e.value.2)

/-- The state after a packet whose command is executed. -/
def executed (s : MasterServer Addr Ip) (x : Packet Addr) (msg : AdminCommand) :
    MasterServer Addr Ip :=
  (s.adminCommand x.env msg.command).adminChallengeRemove x.peer
    (x.env.now (2 + (msg.command.splitOn 32).length))

/-- The state after a packet that locks its sender out. -/
def lockedOut (s : MasterServer Addr Ip) (x : Packet Addr) : MasterServer Addr Ip :=
  { s with adminLimit := s.adminLimit.insert (ip x.peer) () (x.env.now 2) (x.env.now 3) }

/-- The state after a registration: its challenge is consumed, then the server is added. -/
def registered (s : MasterServer Addr Ip) (x : Packet Addr) (msg : ServerAdd) :
    MasterServer Addr Ip :=
  { s with challenges := (s.challenges.remove x.peer (x.env.now 1)).2 }.addServer
    x.env x.peer (.new msg)

/-- What a packet can do to the state. -/
inductive Effect (s : MasterServer Addr Ip) (x : Packet Addr) : MasterServer Addr Ip → Prop
  | none : Effect s x s
  | challenge (msg : Challenge) (h : Challenge.decode x.src = .ok msg) :
    Effect s x (s.serverChallengeAdd x.env x.peer).2
  /-- A registration whose challenge expires between its two clock readings. -/
  | expired (msg : ServerAdd) (h : ServerAdd.decode x.src = .ok msg)
      (hr : s.challenges.view (x.env.now 1) x.peer = Option.none) :
    Effect s x { s with challenges := (s.challenges.remove x.peer (x.env.now 1)).2 }
  | add (msg : ServerAdd) (e : Timed UInt32) (h : Registers s x msg e) :
    Effect s x (s.registered x msg)
  | game (gamedirs : TimedHashMap Addr (StrArr gamedirMaxSize)) (filtered nat : List Addr)
      (h : isGameRequest x.src = true) :
    Effect s x { s with
      clientRateLimit := (s.allowGameRequest x.env x.peer).2.clientRateLimit
      updateGamedir := gamedirs
      filteredServers := filtered
      filteredServersNat := nat }
  | adminChallenge (h : AdminChallenge.decode x.src = .ok ⟨⟩)
      (ha : s.adminLimit.view (x.env.now 0) (ip x.peer) = Option.none) :
    Effect s x (s.adminChallengeAdd x.env x.peer).2
  | adminCommand (e : Timed (UInt32 × UInt32)) (msg : AdminCommand)
      (h : Executes blake2b s x e msg) : Effect s x (s.executed x msg)
  | adminRefused (e : Timed (UInt32 × UInt32)) (msg : AdminCommand)
      (h : Refused blake2b s x e msg) : Effect s x (s.lockedOut x)

section Handlers

variable {blake2b} {s : MasterServer Addr Ip} {x : Packet Addr}

omit [DecidableEq Addr] in
/-- The rate limit changes its own map only. -/
theorem allowGameRequest_snd (env : Env Addr) (s : MasterServer Addr Ip) (peer : Addr) :
    (s.allowGameRequest env peer).2 =
      { s with clientRateLimit := (s.allowGameRequest env peer).2.clientRateLimit } := by
  unfold allowGameRequest
  split_ifs with h
  · dsimp only
    split_ifs <;> rfl
  · rfl

omit [AddrExt Addr Ip] [DecidableEq Ip] in
theorem state_handleServerChallenge (env : Env Addr) (peer : Addr) (msg : Challenge) :
    (s.handleServerChallenge env peer msg).state = (s.serverChallengeAdd env peer).2 :=
  Outcome.state_reply _ _

omit [DecidableEq Addr] in
theorem state_handleAdminChallenge (env : Env Addr) (peer : Addr) :
    (s.handleAdminChallenge env peer).state = (s.adminChallengeAdd env peer).2 :=
  Outcome.state_reply _ _

omit [DecidableEq Ip] in
/-- A query changes the saved game directories or the scratch lists. -/
theorem state_handleGameQueryServers (env : Env Addr) (s : MasterServer Addr Ip) (peer : Addr)
    (query : QueryServers Filter) : ∃ gamedirs filtered nat,
    (s.handleGameQueryServers env peer query).state = { s with
      updateGamedir := gamedirs, filteredServers := filtered, filteredServersNat := nat } := by
  unfold handleGameQueryServers saveClientGamedir
  dsimp only
  by_cases hv : (!s.isQueryServersValid query) = true
  · rw [if_pos hv, Outcome.state_reply]
    split
    · exact ⟨_, _, _, rfl⟩
    · split <;> exact ⟨_, _, _, rfl⟩
  · rw [if_neg hv]
    split
    · exact ⟨_, _, _, rfl⟩
    · rw [Outcome.state_reply]
      exact ⟨_, _, _, rfl⟩

omit [DecidableEq Ip] in
theorem state_handleGameGetServerInfo (env : Env Addr) (s : MasterServer Addr Ip) (peer : Addr)
    (msg : GetServerInfo) : ∃ gamedirs,
    (s.handleGameGetServerInfo env peer msg).state = { s with updateGamedir := gamedirs } :=
  ⟨_, Outcome.state_reply _ _⟩

omit [DecidableEq Addr] in
theorem allowAdminRequest_ok {env : Env Addr} {peer : Addr} :
    s.allowAdminRequest env peer = .ok () ↔ s.adminLimit.view (env.now 0) (ip peer) = none := by
  unfold allowAdminRequest
  rw [TimedHashMap.get_eq_view]
  cases s.adminLimit.view (env.now 0) (ip peer) <;> simp

/-- A refused or undecodable packet leaves the state as it was. -/
theorem effect_fail (e : Error) :
    Effect blake2b s x (Outcome.fail s e : Outcome _ Addr).state := .none

omit [AddrExt Addr Ip] [DecidableEq Ip] in
theorem serverChallengeGet_eq (env : Env Addr) (s : MasterServer Addr Ip) (addr : Addr) :
    s.serverChallengeGet env addr = (s.challenges.view (env.now 0) addr).map Timed.value := rfl

/-- A registration consumes its challenge before the server is added. -/
theorem effect_serverAdd {msg : ServerAdd} (h : ServerAdd.decode x.src = .ok msg) :
    Effect blake2b s x (s.handleServerAdd x.env x.peer msg).state := by
  unfold handleServerAdd
  rw [serverChallengeGet_eq]
  split_ifs with hv
  · exact .none
  · cases hg : s.challenges.view (x.env.now 0) x.peer with
    | none => exact .none
    | some e =>
      dsimp only [Option.map_some]
      split_ifs with hc hr
      · exact .none
      · rw [TimedHashMap.remove_fst, Option.isSome_iff_exists] at hr
        obtain ⟨e', hr⟩ := hr
        have heq : e' = e := Option.some.inj <|
          (TimedHashMap.view_eq_some.1 hr).1.symm.trans (TimedHashMap.view_eq_some.1 hg).1
        exact .add msg e ⟨h, hv, hg, not_ne_iff.1 hc, heq ▸ hr⟩
      · rw [TimedHashMap.remove_fst, Option.not_isSome_iff_eq_none] at hr
        exact .expired msg h hr

/-- A registration that passes every check is carried out. -/
theorem handle_of_registers {msg : ServerAdd} {e : Timed UInt32} (h : Registers s x msg e) :
    s.handle blake2b x = s.registered x msg := by
  unfold handle
  rw [handlePacket_serverAdd h.decoded]
  unfold handleServerAdd
  rw [if_neg h.version, serverChallengeGet_eq, h.entry]
  dsimp only [Option.map_some]
  rw [if_neg (not_ne_iff.2 h.challenge), TimedHashMap.remove_fst, h.unexpired]
  rfl

/-- A game request changes its counter, the saved game directories and the scratch lists. -/
theorem handle_gameRequest (blake2b : HashConfig → Bytes → Bytes) (s : MasterServer Addr Ip)
    (hg : isGameRequest x.src = true) :
    ∃ gamedirs filtered nat, s.handle blake2b x = { s with
      clientRateLimit := (s.allowGameRequest x.env x.peer).2.clientRateLimit
      updateGamedir := gamedirs
      filteredServers := filtered
      filteredServersNat := nat } := by
  have hallowed : ∀ outcome : Outcome (MasterServer Addr Ip) Addr,
      (∃ gamedirs filtered nat, outcome.state = { (s.allowGameRequest x.env x.peer).2 with
        updateGamedir := gamedirs, filteredServers := filtered, filteredServersNat := nat }) →
      ∃ gamedirs filtered nat, (handleAllowed (s.allowGameRequest x.env x.peer).1
        (s.allowGameRequest x.env x.peer).2 outcome).state = { s with
          clientRateLimit := (s.allowGameRequest x.env x.peer).2.clientRateLimit
          updateGamedir := gamedirs
          filteredServers := filtered
          filteredServersNat := nat } := by
    rintro outcome ⟨gamedirs, filtered, nat, h⟩
    have hsnd := allowGameRequest_snd x.env s x.peer
    cases (s.allowGameRequest x.env x.peer).1 with
    | error e => exact ⟨_, _, _, hsnd⟩
    | ok _ =>
      refine ⟨gamedirs, filtered, nat, h.trans ?_⟩
      rw [hsnd]
  unfold handle
  rcases Bool.or_eq_true_iff.1 hg with hp | hp
  · rw [handlePacket_queryServers hp]
    refine hallowed _ ?_
    cases QueryServers.decode x.src with
    | error e => exact ⟨_, _, _, rfl⟩
    | ok q => exact state_handleGameQueryServers _ _ _ _
  · rw [handlePacket_getServerInfo hp]
    refine hallowed _ ?_
    cases GetServerInfo.decode x.src with
    | error e => exact ⟨_, _, _, rfl⟩
    | ok msg =>
      obtain ⟨gamedirs, h⟩ := state_handleGameGetServerInfo x.env
        (s.allowGameRequest x.env x.peer).2 x.peer msg
      exact ⟨gamedirs, _, _, h⟩

omit [DecidableEq Addr] in
/-- The handler of a command whose challenge is right. -/
theorem handleAdminCommand_of_authorised {e : Timed (UInt32 × UInt32)} {msg : AdminCommand}
    (h : Authorised s x e msg) : (s.handleAdminCommand blake2b x.env x.peer msg).state =
      if (findAdmin blake2b s.cfg e.value.2 msg.hash).isSome then s.executed x msg
      else s.lockedOut x := by
  unfold handleAdminCommand
  rw [TimedHashMap.get_eq_view, h.entry]
  dsimp only
  rw [if_neg (not_ne_iff.2 h.challenge)]
  cases findAdmin blake2b s.cfg e.value.2 msg.hash <;> rfl

theorem findAdmin_isSome {cfg : MasterConfig} {c : UInt32} {hash : Bytes} :
    (findAdmin blake2b cfg c hash).isSome = true ↔
      ∃ i ∈ cfg.adminList, hash = blake2b cfg.hash (i.password ++ u32Le c) := by
  unfold findAdmin
  rw [List.find?_isSome]
  simp

/-- A command is executed, or its sender locked out, only behind every check. -/
theorem effect_adminCommand {msg : AdminCommand} (hp : AdminCommand.header.isPrefixOf x.src = true)
    (hn : ¬ AdminChallenge.header.isPrefixOf x.src = true)
    (ha : s.allowAdminRequest x.env x.peer = .ok ())
    (h : AdminCommand.decodeWithHashLen s.cfg.hash.len x.src = .ok msg) :
    Effect blake2b s x (s.handleAdminCommand blake2b x.env x.peer msg).state := by
  cases he : s.adminChallenges.view (x.env.now 1) (ip x.peer) with
  | none =>
    unfold handleAdminCommand
    rw [TimedHashMap.get_eq_view, he]
    exact .none
  | some e =>
    by_cases hm : e.value.1 = msg.masterChallenge
    · have hauth : Authorised s x e msg := ⟨hp, hn, allowAdminRequest_ok.1 ha, h, he, hm⟩
      rw [handleAdminCommand_of_authorised hauth]
      split_ifs with hf
      · exact .adminCommand e msg ⟨hauth, findAdmin_isSome.1 hf⟩
      · refine .adminRefused e msg ⟨hauth, ?_⟩
        intro i hi heq
        exact hf (findAdmin_isSome.2 ⟨i, hi, heq⟩)
    · unfold handleAdminCommand
      rw [TimedHashMap.get_eq_view, he]
      dsimp only
      rw [if_pos hm]
      exact .none

/-- A packet with the right challenge of a command is executed or refused. -/
theorem handle_of_authorised {e : Timed (UInt32 × UInt32)} {msg : AdminCommand}
    (h : Authorised s x e msg) : s.handle blake2b x =
      if (findAdmin blake2b s.cfg e.value.2 msg.hash).isSome then s.executed x msg
      else s.lockedOut x := by
  have hp := h.header
  rw [← handleAdminCommand_of_authorised h]
  unfold handle handlePacket
  rw [if_neg (not_isPrefixOf (by decide) hp), if_neg (not_isPrefixOf (by decide) hp),
    if_neg (not_isPrefixOf (by decide) hp), if_neg (not_isPrefixOf (by decide) hp),
    if_neg (not_isPrefixOf (by decide) hp), if_neg h.notRequest, if_pos hp,
    allowAdminRequest_ok.2 h.notLimited, h.decoded]
  rfl

theorem handle_of_executes {e : Timed (UInt32 × UInt32)} {msg : AdminCommand}
    (h : Executes blake2b s x e msg) : s.handle blake2b x = s.executed x msg := by
  rw [handle_of_authorised h.toAuthorised, if_pos (findAdmin_isSome.2 h.admin)]

theorem handle_of_refused {e : Timed (UInt32 × UInt32)} {msg : AdminCommand}
    (h : Refused blake2b s x e msg) : s.handle blake2b x = s.lockedOut x := by
  rw [handle_of_authorised h.toAuthorised, if_neg]
  intro hf
  obtain ⟨i, hi, heq⟩ := findAdmin_isSome.1 hf
  exact h.noAdmin i hi heq

/-- An answered challenge request. -/
theorem handle_of_adminChallenge (h : AdminChallenge.decode x.src = .ok ⟨⟩)
    (ha : s.adminLimit.view (x.env.now 0) (ip x.peer) = none) :
    s.handlePacket blake2b x.env x.peer x.src = s.handleAdminChallenge x.env x.peer := by
  have hsrc : x.src = AdminChallenge.header := by
    unfold AdminChallenge.decode at h
    split_ifs at h with heq
    exact heq
  have hp : AdminChallenge.header.isPrefixOf x.src = true := by
    rw [hsrc]
    decide
  unfold handlePacket
  rw [if_neg (not_isPrefixOf (by decide) hp), if_neg (not_isPrefixOf (by decide) hp),
    if_neg (not_isPrefixOf (by decide) hp), if_neg (not_isPrefixOf (by decide) hp),
    if_neg (not_isPrefixOf (by decide) hp), if_pos hp, allowAdminRequest_ok.2 ha, h]
  rfl

end Handlers

/-- A packet does nothing to the state but what `Effect` lists. -/
theorem handle_effect (s : MasterServer Addr Ip) (x : Packet Addr) :
    Effect blake2b s x (s.handle blake2b x) := by
  by_cases hg : isGameRequest x.src = true
  · obtain ⟨gamedirs, filtered, nat, h⟩ := handle_gameRequest blake2b s hg
    rw [h]
    exact .game gamedirs filtered nat hg
  obtain ⟨h4, h5⟩ := not_or.1 (mt Bool.or_eq_true_iff.2 hg)
  unfold handle handlePacket
  split_ifs with h1 h2 h3 h6 h7
  · cases h : Challenge.decode x.src with
    | error e => exact effect_fail _
    | ok msg =>
      show Effect blake2b s x (s.handleServerChallenge x.env x.peer msg).state
      rw [state_handleServerChallenge]
      exact .challenge msg h
  · cases h : ServerAdd.decode x.src with
    | error e => exact effect_fail _
    | ok msg => exact effect_serverAdd h
  · cases ServerRemove.decode x.src <;> exact .none
  · cases ha : s.allowAdminRequest x.env x.peer with
    | error e => exact effect_fail _
    | ok _ =>
      cases h : AdminChallenge.decode x.src with
      | error e => exact effect_fail _
      | ok msg =>
        show Effect blake2b s x (s.handleAdminChallenge x.env x.peer).state
        rw [state_handleAdminChallenge]
        exact .adminChallenge h (allowAdminRequest_ok.1 ha)
  · cases ha : s.allowAdminRequest x.env x.peer with
    | error e => exact effect_fail _
    | ok _ =>
      cases h : AdminCommand.decodeWithHashLen s.cfg.hash.len x.src with
      | error e => exact effect_fail _
      | ok msg => exact effect_adminCommand h7 h6 ha h
  · exact effect_fail _

/-! ## Frames -/

section Frames

variable {blake2b} {s s' : MasterServer Addr Ip} {x : Packet Addr}

/-- Adding a server changes the servers only. -/
theorem addServer_frame (env : Env Addr) (s : MasterServer Addr Ip) (addr : Addr)
    (server : ServerInfo) : s.addServer env addr server =
      { s with servers := (s.addServer env addr server).servers } := by
  unfold addServer
  rcases s.servers.entry addr (env.now 2) with ⟨e | e, servers⟩
  · dsimp only
    split_ifs <;> rfl
  · rfl

omit [DecidableEq Addr] [DecidableEq Ip] in
/-- Operations that change the servers and the blocklist only. -/
theorem forEachIp_frame {op : MasterServer Addr Ip → Ip → RelativeTime → MasterServer Addr Ip}
    (hop : ∀ s i t, op s i t =
      { s with servers := (op s i t).servers, blocklist := (op s i t).blocklist })
    (now : ℕ → RelativeTime) (args : List Bytes) : ∀ (n : ℕ) (s : MasterServer Addr Ip),
    forEachIp op now n args s = { s with
      servers := (forEachIp op now n args s).servers
      blocklist := (forEachIp op now n args s).blocklist } := by
  induction args with
  | nil => exact fun _ _ => rfl
  | cons arg args ih =>
    intro n s
    rw [forEachIp]
    split
    · rename_i i _
      rw [ih, hop]
    · exact ih _ _

omit [DecidableEq Addr] in
theorem banIp_frame (s : MasterServer Addr Ip) (i : Ip) (now : RelativeTime) :
    s.banIp i now =
      { s with servers := (s.banIp i now).servers, blocklist := (s.banIp i now).blocklist } := by
  unfold banIp
  split_ifs <;> rfl

omit [DecidableEq Addr] in
/-- A command changes the servers and the blocklist only. -/
theorem adminCommand_frame (env : Env Addr) (s : MasterServer Addr Ip) (cmd : Bytes) :
    s.adminCommand env cmd = { s with
      servers := (s.adminCommand env cmd).servers
      blocklist := (s.adminCommand env cmd).blocklist } := by
  unfold adminCommand
  split
  · rfl
  · split_ifs
    · exact forEachIp_frame banIp_frame _ _ _ _
    · exact forEachIp_frame (fun _ _ _ => rfl) _ _ _ _
    · rfl

/-- The three ways of adding a server: its entry is replaced, it is rejected because its IP address
has enough servers, or it is inserted. -/
theorem addServer_cases (env : Env Addr) (s : MasterServer Addr Ip) (addr : Addr)
    (server : ServerInfo) :
    (∃ e, s.servers.view (env.now 2) addr = some e) ∧ (s.addServer env addr server).servers =
      (s.servers.entry addr (env.now 2)).2.entryInsert addr ⟨env.now 3, server⟩ ∨
    s.servers.view (env.now 2) addr = none ∧
      ({ s with servers := (s.servers.entry addr (env.now 2)).2 }.countServers (env.now 3) (ip addr) ≥
        s.cfg.server.maxServersPerIp ∧
        (s.addServer env addr server).servers = (s.servers.entry addr (env.now 2)).2 ∨
      ¬ { s with servers := (s.servers.entry addr (env.now 2)).2 }.countServers (env.now 3) (ip addr) ≥
        s.cfg.server.maxServersPerIp ∧
        (s.addServer env addr server).servers =
          (s.servers.entry addr (env.now 2)).2.insert addr server (env.now 4) (env.now 5)) := by
  have hf := TimedHashMap.entry_fst s.servers addr (env.now 2)
  unfold addServer
  generalize s.servers.entry addr (env.now 2) = r at hf ⊢
  rcases r with ⟨e | e, m⟩ <;> dsimp only at hf ⊢ <;> rw [← hf]
  · refine Or.inr ⟨rfl, ?_⟩
    split_ifs with h
    · exact Or.inl ⟨h, rfl⟩
    · exact Or.inr ⟨h, rfl⟩
  · exact Or.inl ⟨⟨e, rfl⟩, rfl⟩

theorem timeout_addServer (env : Env Addr) (s : MasterServer Addr Ip) (addr : Addr)
    (server : ServerInfo) :
    (s.addServer env addr server).servers.timeout = s.servers.timeout := by
  rcases addServer_cases env s addr server with ⟨-, h⟩ | ⟨-, ⟨-, h⟩ | ⟨-, h⟩⟩ <;> rw [h]
  · exact TimedHashMap.timeout_entry
  · exact TimedHashMap.timeout_entry
  · exact TimedHashMap.timeout_insert.trans TimedHashMap.timeout_entry

omit [DecidableEq Addr] [DecidableEq Ip] in
theorem timeout_forEachIp {op : MasterServer Addr Ip → Ip → RelativeTime → MasterServer Addr Ip}
    (hop : ∀ s i t, (op s i t).servers.timeout = s.servers.timeout) (now : ℕ → RelativeTime)
    (args : List Bytes) : ∀ (n : ℕ) (s : MasterServer Addr Ip),
    (forEachIp op now n args s).servers.timeout = s.servers.timeout := by
  induction args with
  | nil => exact fun _ _ => rfl
  | cons arg args ih =>
    intro n s
    rw [forEachIp]
    split
    · exact (ih _ _).trans (hop _ _ _)
    · exact ih _ _

omit [DecidableEq Addr] in
theorem timeout_banIp (s : MasterServer Addr Ip) (i : Ip) (now : RelativeTime) :
    (s.banIp i now).servers.timeout = s.servers.timeout := by
  unfold banIp
  split_ifs
  · rfl
  · exact TimedHashMap.timeout_retain _

omit [DecidableEq Addr] in
theorem timeout_adminCommand (env : Env Addr) (s : MasterServer Addr Ip) (cmd : Bytes) :
    (s.adminCommand env cmd).servers.timeout = s.servers.timeout := by
  unfold adminCommand
  split
  · rfl
  · split_ifs
    · exact timeout_forEachIp timeout_banIp _ _ _ _
    · refine timeout_forEachIp ?_ _ _ _ _
      exact fun _ _ _ => rfl
    · rfl

end Frames

/-! ## Runs under a fixed configuration -/

/-- The configuration is `cfg`, and the maps have its timeouts. -/
structure Configured (cfg : MasterConfig) (s : MasterServer Addr Ip) : Prop where
  cfg_eq : s.cfg = cfg
  challenges : s.challenges.timeout = cfg.server.timeout.challenge
  servers : s.servers.timeout = cfg.server.timeout.server
  adminChallenges : s.adminChallenges.timeout = cfg.server.timeout.challenge
  adminLimit : s.adminLimit.timeout = cfg.server.timeout.admin
  clientRateLimit : s.clientRateLimit.timeout = 1

/-- The readings of the clock never go back, neither within a packet nor between packets. -/
def NonDecreasing (xs : List (Packet Addr)) : Prop :=
  (∀ x ∈ xs, Monotone x.env.now) ∧ xs.Pairwise fun x y => ∀ i j, x.env.now i ≤ y.env.now j

/-- No reading of a run is later than `t`. -/
def Until (xs : List (Packet Addr)) (t : RelativeTime) : Prop := ∀ x ∈ xs, ∀ i, x.env.now i ≤ t

omit [DecidableEq Addr] in
theorem NonDecreasing.init {xs : List (Packet Addr)} {x : Packet Addr}
    (h : NonDecreasing (xs ++ [x])) :
    NonDecreasing xs ∧ Monotone x.env.now ∧ ∀ i, Until xs (x.env.now i) := by
  obtain ⟨hm, hp⟩ := h
  rw [List.pairwise_append] at hp
  refine ⟨⟨fun y hy => hm y (by simp [hy]), hp.1⟩, hm x (by simp), ?_⟩
  intro i y hy j
  exact hp.2.2 y hy x (by simp) j i

section Runs

variable {blake2b} {cfg : MasterConfig} {s s' : MasterServer Addr Ip} {x : Packet Addr}

omit [AddrExt Addr Ip] [DecidableEq Addr] [DecidableEq Ip] in
theorem configured_init (cfg : MasterConfig) (sock updateAddr : SocketAddr) :
    Configured cfg (init cfg sock updateAddr : MasterServer Addr Ip) :=
  ⟨rfl, rfl, rfl, rfl, rfl, rfl⟩

omit [DecidableEq Addr] in
theorem timeout_allowGameRequest (env : Env Addr) (s : MasterServer Addr Ip) (peer : Addr) :
    (s.allowGameRequest env peer).2.clientRateLimit.timeout = s.clientRateLimit.timeout := by
  unfold allowGameRequest
  split_ifs
  · dsimp only
    split_ifs <;> exact TimedHashMap.timeout_orInsert
  · rfl

theorem Configured.effect (h : Configured cfg s) (he : Effect blake2b s x s') :
    Configured cfg s' := by
  obtain ⟨hc, h1, h2, h3, h4, h5⟩ := h
  cases he with
  | none => exact ⟨hc, h1, h2, h3, h4, h5⟩
  | challenge msg hd => exact ⟨hc, TimedHashMap.timeout_orInsert.trans h1, h2, h3, h4, h5⟩
  | expired msg hd hr => exact ⟨hc, h1, h2, h3, h4, h5⟩
  | add msg e hr =>
    unfold registered
    rw [addServer_frame]
    exact ⟨hc, h1, (timeout_addServer _ _ _ _).trans h2, h3, h4, h5⟩
  | game gamedirs filtered nat hg =>
    exact ⟨hc, h1, h2, h3, h4, (timeout_allowGameRequest _ _ _).trans h5⟩
  | adminChallenge hd ha => exact ⟨hc, h1, h2, TimedHashMap.timeout_insert.trans h3, h4, h5⟩
  | adminCommand e msg hx =>
    unfold executed
    rw [adminCommand_frame]
    exact ⟨hc, h1, (timeout_adminCommand _ _ _).trans h2, h3, h4, h5⟩
  | adminRefused e msg hx => exact ⟨hc, h1, h2, h3, TimedHashMap.timeout_insert.trans h4, h5⟩

theorem Configured.handle (h : Configured cfg s) (x : Packet Addr) :
    Configured cfg (s.handle blake2b x) := h.effect (handle_effect blake2b s x)

theorem Configured.run (h : Configured cfg s) (xs : List (Packet Addr)) :
    Configured cfg (exec (MasterServer.handle blake2b) s xs) := by
  induction xs generalizing s with
  | nil => exact h
  | cons x xs ih => exact ih (h.handle x)

end Runs

/-! ## The receive loop -/

/-- A packet from any address. -/
structure Arrival (Addr : Type) where
  env : Env Addr
  sender : SocketAddr
  src : Bytes

/-- The state after a turn of the receive loop. -/
def step (s : MasterServer Addr Ip) (x : Arrival Addr) : MasterServer Addr Ip :=
  (s.receive blake2b x.env x.sender x.src).state

section Loop

variable {blake2b} {s : MasterServer Addr Ip} {x : Arrival Addr} {peer : Addr}

/-- A packet from an address that is not blocked is handled. -/
theorem receive_eq (hp : x.sender = wrap peer) (hb : ip peer ∉ s.blocklist) :
    s.receive blake2b x.env x.sender x.src = s.handlePacket blake2b x.env peer x.src := by
  unfold receive
  rw [hp, extract_wrap]
  exact if_neg (by simpa [isBlocked] using hb)

/-- A turn of the loop drops the packet or handles it. -/
theorem step_cases (blake2b : HashConfig → Bytes → Bytes) (s : MasterServer Addr Ip)
    (x : Arrival Addr) :
    s.step blake2b x = s ∨ ∃ peer, x.sender = wrap peer ∧ ip peer ∉ s.blocklist ∧
      s.step blake2b x = s.handle blake2b ⟨x.env, peer, x.src⟩ := by
  unfold step
  cases he : (extract x.sender : Option Addr) with
  | none =>
    unfold receive
    rw [he]
    exact Or.inl rfl
  | some peer =>
    have hp : x.sender = wrap peer := (extract_eq_some.1 he).symm
    by_cases hb : ip peer ∈ s.blocklist
    · refine Or.inl ?_
      unfold receive
      rw [he]
      dsimp only
      rw [if_pos (by simpa [isBlocked] using hb)]
      rfl
    · refine Or.inr ⟨peer, hp, hb, ?_⟩
      rw [receive_eq hp hb]
      rfl

/-- A run of the receive loop is a run of the packets it did not drop. -/
theorem exec_step_eq (blake2b : HashConfig → Bytes → Bytes) (s : MasterServer Addr Ip)
    (xs : List (Arrival Addr)) :
    ∃ ys : List (Packet Addr), exec (step blake2b) s xs = exec (handle blake2b) s ys := by
  induction xs generalizing s with
  | nil => exact ⟨[], rfl⟩
  | cons x xs ih =>
    rcases step_cases blake2b s x with h | ⟨peer, -, -, h⟩
    · obtain ⟨ys, hys⟩ := ih s
      exact ⟨ys, by rw [exec_cons, h, hys]⟩
    · obtain ⟨ys, hys⟩ := ih (s.handle blake2b ⟨x.env, peer, x.src⟩)
      exact ⟨⟨x.env, peer, x.src⟩ :: ys, by rw [exec_cons, h, hys, exec_cons]⟩

theorem Configured.loop {cfg : MasterConfig} (h : Configured cfg s) (xs : List (Arrival Addr)) :
    Configured cfg (exec (MasterServer.step blake2b) s xs) := by
  obtain ⟨ys, hys⟩ := exec_step_eq blake2b s xs
  rw [hys]
  exact h.run ys

end Loop

end MasterServer

end Xash3d
