import Xash3d.Master.Admin
import Xash3d.Master.Query

/-!
# Bans

`Event` is a turn of the receive loop or a reload of the configuration. No event leaves a server of
a banned IP address in the map of servers (`noneBanned_run`): a ban removes the servers of its IP
address, and the loop drops every packet that could add one.

What a command does to the blocklist is `mem_blocklist_bans` and `mem_blocklist_unbans`;
`banned_not_listed` puts the two together.
-/

namespace Xash3d.MasterServer

open Lib AddrExt

variable {Addr Ip : Type} [AddrExt Addr Ip] [DecidableEq Addr] [DecidableEq Ip]
  {blake2b : HashConfig → Bytes → Bytes} {s : MasterServer Addr Ip} {A : Addr} {i : Ip}

/-! ## Commands -/

/-- The IP address is among the arguments of a command. -/
def Named (Addr : Type) {Ip : Type} [AddrExt Addr Ip] (args : List Bytes) (i : Ip) : Prop :=
  ∃ arg ∈ args, ipFromStr Addr arg = some i

omit [DecidableEq Addr] [DecidableEq Ip] in
theorem named_cons {arg : Bytes} {args : List Bytes} :
    Named Addr (arg :: args) i ↔ ipFromStr Addr arg = some i ∨ Named Addr args i := by
  simp only [Named, List.mem_cons, exists_eq_or_imp]

omit [DecidableEq Addr] in
theorem mem_blocklist_banIp (s : MasterServer Addr Ip) (j : Ip) (t : RelativeTime) :
    i ∈ (s.banIp j t).blocklist ↔ i = j ∨ i ∈ s.blocklist := by
  unfold banIp
  split_ifs with hj
  · constructor
    · exact Or.inr
    · rintro (rfl | h)
      · exact hj
      · exact h
  · exact Finset.mem_insert

omit [DecidableEq Addr] in
/-- A ban command bans its arguments. -/
theorem mem_blocklist_bans (now : ℕ → RelativeTime) (args : List Bytes) :
    ∀ (n : ℕ) (s : MasterServer Addr Ip), i ∈ (forEachIp banIp now n args s).blocklist ↔
      Named Addr args i ∨ i ∈ s.blocklist := by
  induction args with
  | nil =>
    intro n s
    simp [forEachIp, Named]
  | cons arg args ih =>
    intro n s
    rw [forEachIp, named_cons]
    cases hj : (ipFromStr Addr arg : Option Ip) with
    | none => simp [ih]
    | some j =>
      dsimp only
      rw [ih, mem_blocklist_banIp, Option.some_inj, eq_comm]
      tauto

omit [DecidableEq Addr] in
/-- An unban command lifts the bans of its arguments. -/
theorem mem_blocklist_unbans (now : ℕ → RelativeTime) (args : List Bytes) :
    ∀ (n : ℕ) (s : MasterServer Addr Ip), i ∈ (forEachIp unbanIp now n args s).blocklist ↔
      ¬ Named Addr args i ∧ i ∈ s.blocklist := by
  induction args with
  | nil =>
    intro n s
    simp [forEachIp, Named]
  | cons arg args ih =>
    intro n s
    rw [forEachIp, named_cons]
    cases hj : (ipFromStr Addr arg : Option Ip) with
    | none => simp [ih]
    | some j =>
      dsimp only
      rw [ih, Option.some_inj, eq_comm]
      show _ ∧ i ∈ s.blocklist.erase j ↔ _
      rw [Finset.mem_erase]
      tauto

/-- The server executes a command with a name and arguments. -/
def ExecutesCommand (blake2b : HashConfig → Bytes → Bytes) (s : MasterServer Addr Ip)
    (x : Packet Addr) (name : Bytes) (args : List Bytes) : Prop :=
  ∃ e msg, Executes blake2b s x e msg ∧ msg.command.splitOn 32 = name :: args

section Packets

variable {x : Packet Addr} {name : Bytes} {args : List Bytes}

/-- A command changes the ban of an IP address only if it names it. -/
theorem mem_blocklist_command (h : ExecutesCommand blake2b s x name args) (i : Ip) :
    i ∈ (s.handle blake2b x).blocklist ↔ name = ascii "ban" ∧ Named Addr args i ∨
      i ∈ s.blocklist ∧ ¬ (name = ascii "unban" ∧ Named Addr args i) := by
  obtain ⟨e, msg, hx, hsplit⟩ := h
  rw [handle_of_executes hx]
  show i ∈ (s.adminCommand x.env msg.command).blocklist ↔ _
  unfold adminCommand
  rw [hsplit]
  dsimp only
  have hne : ascii "ban" ≠ ascii "unban" := by decide
  split_ifs with h1 h2
  · rw [mem_blocklist_bans, h1]
    simp [hne]
  · rw [mem_blocklist_unbans, h2]
    simp [hne.symm, and_comm]
  · simp [h1, h2]

/-- A command takes away the servers it bans, and expired ones. -/
theorem lookup_command (h : ExecutesCommand blake2b s x name args) (A : Addr) :
    (s.handle blake2b x).servers.lookup A = s.servers.lookup A ∨
      (s.handle blake2b x).servers.lookup A = none ∧
        ((∃ j, s.servers.view (x.env.now j) A = none) ∨
          name = ascii "ban" ∧ Named Addr args (ip A)) := by
  have hmem := mem_blocklist_command h (ip A)
  obtain ⟨e, msg, hx, hsplit⟩ := h
  rw [handle_of_executes hx] at hmem ⊢
  refine (lookup_executed s x msg A).imp_right ?_
  rintro ⟨hnone, hexpired | ⟨hnot, hin⟩⟩
  · exact ⟨hnone, Or.inl hexpired⟩
  · refine ⟨hnone, Or.inr ?_⟩
    rcases hmem.1 hin with hban | ⟨hold, -⟩
    · exact hban
    · exact absurd hold hnot

/-- What a packet does to the ban of an IP address. -/
theorem blocklist_handle (blake2b : HashConfig → Bytes → Bytes) (s : MasterServer Addr Ip)
    (x : Packet Addr) :
    (s.handle blake2b x).blocklist = s.blocklist ∨
      ∃ name args, ExecutesCommand blake2b s x name args := by
  by_cases hx : ExecutesFrom blake2b s x (ip x.peer)
  · obtain ⟨-, e, msg, hx⟩ := hx
    refine Or.inr ?_
    cases hsplit : msg.command.splitOn 32 with
    | nil => exact absurd hsplit (List.splitOn_ne_nil _ _)
    | cons name args => exact ⟨name, args, e, msg, hx, hsplit⟩
  · exact Or.inl (handle_of_not_executes hx).1

/-! ## No banned servers -/

/-- No server has a banned IP address. -/
def NoneBanned (s : MasterServer Addr Ip) : Prop :=
  ∀ A e, s.servers.lookup A = some e → ip A ∉ s.blocklist

theorem NoneBanned.banIp (h : NoneBanned s) (i : Ip) (t : RelativeTime) :
    NoneBanned (s.banIp i t) := by
  unfold MasterServer.banIp
  split_ifs with hi
  · exact h
  · intro A e he
    have hret : (s.servers.retain t fun addr v => if ip addr ≠ i then some v else none).lookup A =
      some e := he
    rw [TimedHashMap.lookup_retain] at hret
    obtain ⟨e', hl, he'⟩ := Option.bind_eq_some_iff.1 hret
    split_ifs at he' with hv hA
    · show ip A ∉ insert i s.blocklist
      rw [Finset.mem_insert]
      exact not_or.2 ⟨hA, h A e' hl⟩
    · cases he'

theorem NoneBanned.bans (now : ℕ → RelativeTime) (args : List Bytes) :
    ∀ (n : ℕ) (s : MasterServer Addr Ip), NoneBanned s →
      NoneBanned (forEachIp MasterServer.banIp now n args s) := by
  induction args with
  | nil => exact fun _ _ h => h
  | cons arg args ih =>
    intro n s h
    rw [forEachIp]
    split
    · exact ih _ _ (h.banIp _ _)
    · exact ih _ _ h

theorem NoneBanned.unbans (h : NoneBanned s) (now : ℕ → RelativeTime) (n : ℕ) (args : List Bytes) :
    NoneBanned (forEachIp unbanIp now n args s) := by
  intro A e he
  rw [servers_unbans] at he
  rw [mem_blocklist_unbans]
  exact fun hA => h A e he hA.2

theorem NoneBanned.adminCommand (h : NoneBanned s) (env : Env Addr) (cmd : Bytes) :
    NoneBanned (s.adminCommand env cmd) := by
  unfold MasterServer.adminCommand
  split
  · exact h
  · split_ifs
    · exact NoneBanned.bans _ _ _ _ h
    · exact h.unbans _ _ _
    · exact h

/-- A packet of an address that is not banned leaves no banned server. -/
theorem NoneBanned.handle (h : NoneBanned s) (hpeer : ip x.peer ∉ s.blocklist) :
    NoneBanned (s.handle blake2b x) := by
  have heff := handle_effect blake2b s x
  generalize s.handle blake2b x = s' at heff ⊢
  cases heff with
  | add msg e hr =>
    set s₁ : MasterServer Addr Ip :=
      { s with challenges := (s.challenges.remove x.peer (x.env.now 1)).2 } with hs₁
    show NoneBanned (s₁.addServer x.env x.peer (.new msg))
    intro A e' he'
    have hb : (s₁.addServer x.env x.peer (.new msg)).blocklist = s.blocklist := by
      rw [addServer_frame]
    rw [hb]
    by_cases hA : A = x.peer
    · rw [hA]
      exact hpeer
    · rcases lookup_addServer_ne x.env s₁ (.new msg) hA with hsame | ⟨hnone, -⟩
      · exact h A e' (hsame ▸ he')
      · rw [hnone] at he'
        cases he'
  | adminCommand e msg hx => exact h.adminCommand x.env msg.command
  | _ => exact h

end Packets

/-! ## Events -/

/-- A packet that arrives, or a reload of the configuration. -/
inductive Event (Addr : Type) where
  | arrival (x : Arrival Addr)
  | reload (host : Host) (cfg : MasterConfig)

/-- The state after an event. -/
def turn (blake2b : HashConfig → Bytes → Bytes) (s : MasterServer Addr Ip) :
    Event Addr → MasterServer Addr Ip
  | .arrival x => s.step blake2b x
  | .reload host cfg => (s.updateConfig host cfg).1

/-- The server executes a command with a name and arguments. -/
def Commands (blake2b : HashConfig → Bytes → Bytes) (s : MasterServer Addr Ip) :
    Event Addr → Bytes → List Bytes → Prop
  | .arrival x, name, args => ∃ peer, x.sender = wrap peer ∧ ip peer ∉ s.blocklist ∧
      ExecutesCommand blake2b s ⟨x.env, peer, x.src⟩ name args
  | .reload _ _, _, _ => False

omit [AddrExt Addr Ip] [DecidableEq Addr] [DecidableEq Ip] in
/-- A reload fails, perhaps after binding a socket, or takes over a configuration, perhaps after
forgetting all servers. -/
theorem updateConfig_cases (host : Host) (s : MasterServer Addr Ip) (cfg : MasterConfig) :
    (∃ sock, (s.updateConfig host cfg).1 = { s with sock }) ∨
      ∃ addr, (s.updateConfig host cfg).1 = s.setConfig host cfg addr ∨
        ∃ sock, (s.updateConfig host cfg).1 =
          ({ s with sock } : MasterServer Addr Ip).clear.setConfig host cfg addr := by
  unfold updateConfig
  by_cases h1 : (!host.localAddr) = true
  · rw [if_pos h1]
    exact Or.inl ⟨_, rfl⟩
  rw [if_neg h1]
  dsimp only
  by_cases h2 : (s.sock.isIpv4 != (SocketAddr.new cfg.server.ip cfg.server.port).isIpv4) = true
  · rw [if_pos h2]
    exact Or.inl ⟨_, rfl⟩
  rw [if_neg h2]
  by_cases h3 : s.sock ≠ SocketAddr.new cfg.server.ip cfg.server.port
  · rw [if_pos h3]
    cases host.bind (SocketAddr.new cfg.server.ip cfg.server.port) with
    | none => exact Or.inl ⟨_, rfl⟩
    | some sock =>
      dsimp only
      split_ifs
      · exact Or.inl ⟨_, rfl⟩
      · exact Or.inr ⟨_, Or.inr ⟨sock, rfl⟩⟩
  · rw [if_neg h3]
    exact Or.inr ⟨_, Or.inl rfl⟩

omit [AddrExt Addr Ip] [DecidableEq Ip] in
/-- A reload forgets the servers or keeps them; the blocklist stays. -/
theorem updateConfig_frame (host : Host) (s : MasterServer Addr Ip) (cfg : MasterConfig) :
    (s.updateConfig host cfg).1.blocklist = s.blocklist ∧
      ∀ A e, (s.updateConfig host cfg).1.servers.lookup A = some e →
        s.servers.lookup A = some e := by
  rcases updateConfig_cases host s cfg with ⟨sock, h⟩ | ⟨addr, h | ⟨sock, h⟩⟩ <;> rw [h]
  · exact ⟨rfl, fun _ _ h => h⟩
  · exact ⟨rfl, fun _ _ h => h⟩
  · exact ⟨rfl, fun _ _ h => nomatch h⟩

section Events

variable {x : Event Addr} {name : Bytes} {args : List Bytes}

/-- An event handles a packet of an address that is not banned, or leaves the blocklist as it is
and adds no server. -/
theorem turn_cases (blake2b : HashConfig → Bytes → Bytes) (s : MasterServer Addr Ip)
    (x : Event Addr) :
    (∃ y peer, x = .arrival y ∧ y.sender = wrap peer ∧ ip peer ∉ s.blocklist ∧
      s.turn blake2b x = s.handle blake2b ⟨y.env, peer, y.src⟩) ∨
    (s.turn blake2b x).blocklist = s.blocklist ∧
      ∀ A e, (s.turn blake2b x).servers.lookup A = some e → s.servers.lookup A = some e := by
  cases x with
  | arrival y =>
    rcases step_cases blake2b s y with h | ⟨peer, hp, hb, h⟩
    · refine Or.inr ?_
      show (s.step blake2b y).blocklist = _ ∧ ∀ A e, (s.step blake2b y).servers.lookup A = _ → _
      rw [h]
      exact ⟨rfl, fun _ _ h => h⟩
    · exact Or.inl ⟨y, peer, rfl, hp, hb, h⟩
  | reload host cfg => exact Or.inr (updateConfig_frame host s cfg)

theorem NoneBanned.turn (h : NoneBanned s) (x : Event Addr) :
    NoneBanned (s.turn blake2b x) := by
  rcases turn_cases blake2b s x with ⟨y, peer, -, -, hb, ht⟩ | ⟨hblock, hservers⟩
  · rw [ht]
    exact h.handle hb
  · intro A e he
    rw [hblock]
    exact h A e (hservers A e he)

theorem noneBanned_run (blake2b : HashConfig → Bytes → Bytes) (cfg : MasterConfig)
    (sock updateAddr : SocketAddr) (xs : List (Event Addr)) :
    NoneBanned (exec (turn blake2b) (init cfg sock updateAddr : MasterServer Addr Ip) xs) := by
  refine exec_kept (G := fun _ _ => True) (fun s x _ h => h.turn x) ?_ xs fun _ _ _ _ => trivial
  intro A e he
  cases he

/-- A command that is executed is a packet that is handled. -/
theorem Commands.handle (h : Commands blake2b s x name args) : ∃ y : Packet Addr,
    ExecutesCommand blake2b s y name args ∧ s.turn blake2b x = s.handle blake2b y ∧
      ∃ z, x = .arrival z ∧ y.env = z.env := by
  cases x with
  | reload host cfg => exact False.elim h
  | arrival z =>
    obtain ⟨peer, hp, hb, hc⟩ := h
    refine ⟨⟨z.env, peer, z.src⟩, hc, ?_, z, rfl, rfl⟩
    show (s.receive blake2b z.env z.sender z.src).state = _
    rw [receive_eq hp hb]
    rfl

/-- A banned IP address stays banned unless a command lifts the ban. -/
theorem banned_turn (hi : i ∈ s.blocklist)
    (h : ∀ args, Commands blake2b s x (ascii "unban") args → ¬ Named Addr args i) :
    i ∈ (s.turn blake2b x).blocklist := by
  rcases turn_cases blake2b s x with ⟨y, peer, rfl, hp, hb, ht⟩ | ⟨hblock, -⟩
  · rw [ht]
    rcases blocklist_handle blake2b s ⟨y.env, peer, y.src⟩ with hsame | ⟨name, args, hc⟩
    · rwa [hsame]
    · refine (mem_blocklist_command hc i).2 (Or.inr ⟨hi, ?_⟩)
      rintro ⟨rfl, hnamed⟩
      exact h args ⟨peer, hp, hb, hc⟩ hnamed
  · rwa [hblock]

/-- A packet holds the update address, for a query that is rejected. -/
def Rejects (s : MasterServer Addr Ip) (src packet : Bytes) : Prop :=
  ∃ query, QueryServers.decode src = .ok query ∧ s.isQueryServersValid query = false ∧
    packet = fakePage query.filter.key s.updateAddr

/-- What is sent for a query: the update address, a page of servers a reader sees, or an
announcement to one of them. -/
theorem mem_sent_receive (x : Arrival Addr) (hq : QueryServers.header.isPrefixOf x.src = true)
    {d : Datagram Addr} (hd : d ∈ (s.receive blake2b x.env x.sender x.src).sent) :
    Rejects s x.src d.packet ∨
      (∃ (key : Option UInt32) (part : List Addr), d.packet = page key part ∧
        ∀ A ∈ part, ∃ e, s.servers.view (x.env.now 2) A = some e) ∨
      d.packet = (ClientAnnounce.mk x.sender).wire ∧
        ∃ e, s.servers.view (x.env.now 2) d.dest = some e := by
  cases hx : (extract x.sender : Option Addr) with
  | none =>
    unfold receive at hd
    rw [hx] at hd
    cases hd
  | some peer =>
    have hp : x.sender = wrap peer := (extract_eq_some.1 hx).symm
    by_cases hb : ip peer ∈ s.blocklist
    · unfold receive at hd
      rw [hx] at hd
      dsimp only at hd
      rw [if_pos (by simpa [isBlocked] using hb)] at hd
      cases hd
    rw [receive_eq hp hb, handlePacket_queryServers hq] at hd
    have hsnd := allowGameRequest_snd x.env s peer
    cases ha : (s.allowGameRequest x.env peer).1 with
    | error e =>
      rw [ha] at hd
      cases hd
    | ok _ =>
      rw [ha] at hd
      cases hq' : QueryServers.decode x.src with
      | error e =>
        rw [hq'] at hd
        cases hd
      | ok query =>
        rw [hq', hsnd] at hd
        rw [hp]
        rcases mem_sent_query hd with ⟨hinvalid, rfl⟩ | ⟨part, rfl, hpart⟩ | ⟨A, e, rfl, hv⟩
        · exact Or.inl ⟨query, hq', hinvalid, rfl⟩
        · exact Or.inr (Or.inl ⟨_, part, rfl, hpart⟩)
        · exact Or.inr (Or.inr ⟨rfl, e, hv⟩)

/-- What is sent for a query lists, and announces to, no server of a banned IP address. -/
theorem query_lists_none (h : NoneBanned s) (hi : i ∈ s.blocklist) (x : Arrival Addr)
    (hq : QueryServers.header.isPrefixOf x.src = true) {d : Datagram Addr}
    (hd : d ∈ (s.receive blake2b x.env x.sender x.src).sent) :
    Rejects s x.src d.packet ∨
      (∃ (key : Option UInt32) (part : List Addr), d.packet = page key part ∧
        ∀ A ∈ part, ip A ≠ i) ∨
      d.packet = (ClientAnnounce.mk x.sender).wire ∧ ip d.dest ≠ i := by
  have hserver : ∀ A t e, s.servers.view t A = some e → ip A ≠ i := by
    rintro A t e hv rfl
    exact h A e (TimedHashMap.view_eq_some.1 hv).1 hi
  rcases mem_sent_receive x hq hd with hfake | ⟨key, part, hpage, hpart⟩ | ⟨hann, e, hv⟩
  · exact Or.inl hfake
  · refine Or.inr (Or.inl ⟨key, part, hpage, ?_⟩)
    intro A hA
    obtain ⟨e, hv⟩ := hpart A hA
    exact hserver A _ e hv
  · exact Or.inr (Or.inr ⟨hann, hserver _ _ e hv⟩)

end Events

/-- No server of a banned IP address is kept. From a ban to the command that lifts it the IP address
is banned, and no query lists a server of it: a rejected one lists the update address only. A
command leaves the bans of the IP addresses it does not name, and their servers that are not
expired. -/
theorem banned_not_listed (blake2b : HashConfig → Bytes → Bytes) (cfg : MasterConfig)
    (sock updateAddr : SocketAddr) (xs : List (Event Addr)) :
    let run := fun xs => exec (turn blake2b) (init cfg sock updateAddr : MasterServer Addr Ip) xs
    let s := run xs
    (∀ A e, s.servers.lookup A = some e → ip A ∉ s.blocklist) ∧
    (∀ p z q args i, xs = p ++ z :: q → Commands blake2b (run p) z (ascii "ban") args →
      Named Addr args i →
      (∀ p' z' q', q = p' ++ z' :: q' → ∀ args',
        Commands blake2b (run (p ++ z :: p')) z' (ascii "unban") args' → ¬ Named Addr args' i) →
      i ∈ s.blocklist ∧ ∀ x : Arrival Addr, QueryServers.header.isPrefixOf x.src = true →
        ∀ d ∈ (s.receive blake2b x.env x.sender x.src).sent,
          Rejects s x.src d.packet ∨
          (∃ (key : Option UInt32) (part : List Addr), d.packet = page key part ∧
            ∀ A ∈ part, ip A ≠ i) ∨
          d.packet = (ClientAnnounce.mk x.sender).wire ∧ ip d.dest ≠ i) ∧
    ∀ (x : Arrival Addr) name args, Commands blake2b s (.arrival x) name args →
      (∀ i, i ∈ (s.step blake2b x).blocklist ↔ name = ascii "ban" ∧ Named Addr args i ∨
        i ∈ s.blocklist ∧ ¬ (name = ascii "unban" ∧ Named Addr args i)) ∧
      ∀ A, ¬ Named Addr args (ip A) →
        (s.step blake2b x).servers.lookup A = s.servers.lookup A ∨
          (s.step blake2b x).servers.lookup A = none ∧
            ∃ j, s.servers.view (x.env.now j) A = none := by
  intro run s
  have hnone : NoneBanned s := noneBanned_run blake2b cfg sock updateAddr xs
  refine ⟨hnone, ?_, ?_⟩
  · intro p z q args i hxs hban hnamed hlift
    have hi : i ∈ s.blocklist := by
      obtain ⟨y, hc, ht, -⟩ := hban.handle
      have hstart : i ∈ ((run p).turn blake2b z).blocklist := by
        rw [ht]
        exact (mem_blocklist_command hc i).2 (Or.inl ⟨rfl, hnamed⟩)
      have hrun : ∀ p', run (p ++ z :: p') = exec (turn blake2b) ((run p).turn blake2b z) p' := by
        intro p'
        show exec _ _ (p ++ z :: p') = _
        rw [exec_append, exec_cons]
      show i ∈ (run xs).blocklist
      rw [hxs, hrun]
      refine exec_kept (Q := fun s : MasterServer Addr Ip => i ∈ s.blocklist)
        (fun s x h hi => banned_turn hi h) hstart q ?_
      intro p' z' q' hq args' hc'
      exact hlift p' z' q' hq args' (by rwa [hrun])
    exact ⟨hi, fun x hq d hd => query_lists_none hnone hi x hq hd⟩
  · intro x name args hc
    obtain ⟨y, hy, ht, z, hz, henv⟩ := hc.handle
    cases hz
    have hstep : s.step blake2b x = s.handle blake2b y := ht
    rw [hstep, ← henv]
    refine ⟨fun i => mem_blocklist_command hy i, ?_⟩
    intro A hA
    rcases lookup_command hy A with h | ⟨h, hexpired | ⟨-, hnamed⟩⟩
    · exact Or.inl h
    · exact Or.inr ⟨h, hexpired⟩
    · exact absurd hnamed hA

/-- An admin bans an IP address. -/
theorem banned_not_listed_ban :
    let admin : SocketAddrV4 := ⟨⟨⟨[10, 0, 0, 2], rfl⟩⟩, 5000⟩
    let banned : Ipv4Addr := ⟨⟨[10, 0, 0, 3], rfl⟩⟩
    let cfg : MasterConfig := { hash := { len := 1 }, adminList := [⟨ascii "admin", ascii "pass"⟩] }
    let request : Event SocketAddrV4 :=
      .arrival ⟨.steady ⟨0⟩ fun _ => 7, .v4 admin, AdminChallenge.header⟩
    let command : Event SocketAddrV4 := .arrival ⟨.steady ⟨125⟩ fun _ => 0, .v4 admin,
      ascii "admin" ++ [7, 0, 0, 0, 0] ++ ascii "ban 10.0.0.3"⟩
    (exec (turn fun _ _ => [0])
      (init cfg (.v4 admin) (.v4 admin) : MasterServer SocketAddrV4 Ipv4Addr)
      [request, command]).isBlocked banned = true := by
  intro admin banned cfg request command
  have hban : Commands (fun _ _ => [0]) (exec (turn fun _ _ => [0])
      (init cfg (.v4 admin) (.v4 admin) : MasterServer SocketAddrV4 Ipv4Addr) [request]) command
      (ascii "ban") [ascii "10.0.0.3"] := by
    refine ⟨admin, rfl, by decide +kernel, ⟨⟨0⟩, (7, 7)⟩, ⟨7, [0], ascii "ban 10.0.0.3"⟩,
      ⟨⟨?_, ?_, ?_, ?_, ?_, ?_⟩, ?_⟩, ?_⟩ <;> decide +kernel
  have hnamed : Named SocketAddrV4 [ascii "10.0.0.3"] banned :=
    ⟨_, List.mem_cons_self, by decide +kernel⟩
  -- the run is kept as a variable, so that it is not evaluated
  have hblocked : ∀ xs, xs = [request, command] → (exec (turn fun _ _ => [0])
      (init cfg (.v4 admin) (.v4 admin) : MasterServer SocketAddrV4 Ipv4Addr) xs).isBlocked banned =
        true := by
    intro xs hxs
    obtain ⟨-, hall, -⟩ := banned_not_listed (fun _ _ => [0]) cfg (.v4 admin) (.v4 admin) xs
    have hbanned := hall [request] command [] _ banned hxs hban hnamed fun p z q hq => by simp at hq
    exact decide_eq_true hbanned.1
  exact hblocked _ rfl

end Xash3d.MasterServer
