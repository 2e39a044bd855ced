import Xash3d.Master.Replies
import Xash3d.Master.StatsThread

/-!
# What the statistics count

`calls` are the operations on the statistics that a turn of a master server makes, and `Happens` says
what the events that it counts stand for (`mem_calls`). `counted_happened` puts the server together
with the thread of the statistics: whatever the order of their operations, no event is counted or
printed that did not happen, and none is missed while the statistics stay enabled.
-/

namespace Xash3d.MasterServer

open Lib AddrExt

variable {T Addr Ip : Type} [AddrExt Addr Ip] [DecidableEq Addr] [DecidableEq Ip]

/-! ## The calls -/

/-- The calls of `handleServerAdd`: the server is counted even if it is not added, as there are enough
of its IP address. -/
def serverAddCalls (env : Env Addr) (s : MasterServer Addr Ip) (peer : Addr) (msg : ServerAdd) :
    List (StatsThread.Step T) :=
  if msg.version < s.cfg.server.minVersion then []
  else match s.serverChallengeGet env peer with
    | none => []
    | some challenge =>
      if msg.challenge ≠ challenge then []
      else
        let (removed, challenges) := s.challenges.remove peer (env.now 1)
        let s := { s with challenges }
        if removed.isSome then
          [.event .serverAdd, .serversCount (s.addServer env peer (.new msg)).servers.len]
        else []

/-- The calls of `handlePacket`. -/
def packetCalls (env : Env Addr) (s : MasterServer Addr Ip) (peer : Addr) (src : Bytes) :
    List (StatsThread.Step T) :=
  if Challenge.header.isPrefixOf src then []
  else if ServerAdd.header.isPrefixOf src then
    match ServerAdd.decode src with
    | .ok msg => s.serverAddCalls env peer msg
    | .error _ => []
  else if ServerRemove.header.isPrefixOf src then
    match ServerRemove.decode src with
    | .ok _ => [.event .serverDel]
    | .error _ => []
  else if QueryServers.header.isPrefixOf src then
    match (s.allowGameRequest env peer).1, QueryServers.decode src with
    | .ok _, .ok _ => [.event .queryServers]
    | _, _ => []
  else []

/-- The calls of a turn of the receive loop. -/
def receiveCalls (blake2b : HashConfig → Bytes → Bytes) (env : Env Addr) (s : MasterServer Addr Ip)
    (sender : SocketAddr) (src : Bytes) : List (StatsThread.Step T) :=
  match extract sender with
  | none => []
  | some peer =>
    if s.isBlocked (ip peer) then []
    else s.packetCalls env peer src ++
      match (s.handlePacket blake2b env peer src).result with
      | .ok _ => []
      | .error _ => [.event .error]

/-- The calls of `updateConfig`. -/
def updateConfigCalls (host : Host) (s : MasterServer Addr Ip) (cfg : MasterConfig)
    (stat : StatConfig) : List (StatsThread.Step T) :=
  if !host.localAddr then []
  else
    let addr := SocketAddr.new cfg.server.ip cfg.server.port
    if s.sock.isIpv4 != addr.isIpv4 then []
    else if s.sock ≠ addr then
      match host.bind addr with
      | none => []
      | some _ =>
        if !host.setReadTimeout then []
        else StatsThread.fields.map .clear ++ [.updateConfig stat]
    else [.updateConfig stat]

/-- An event, with all of the configuration that a reload takes over. -/
inductive Turn (Addr : Type) where
  | arrival (x : Arrival Addr)
  | reload (host : Host) (cfg : MasterConfig) (stat : StatConfig)

def Turn.event : Turn Addr → Event Addr
  | .arrival x => .arrival x
  | .reload host cfg _ => .reload host cfg

/-- The state after a turn. -/
def afterTurn (blake2b : HashConfig → Bytes → Bytes) (s : MasterServer Addr Ip) (z : Turn Addr) :
    MasterServer Addr Ip := s.turn blake2b z.event

def calls (blake2b : HashConfig → Bytes → Bytes) (s : MasterServer Addr Ip) :
    Turn Addr → List (StatsThread.Step T)
  | .arrival x => s.receiveCalls blake2b x.env x.sender x.src
  | .reload host cfg stat => s.updateConfigCalls host cfg stat

/-- The calls of a run. -/
def runCalls (blake2b : HashConfig → Bytes → Bytes) :
    MasterServer Addr Ip → List (Turn Addr) → List (StatsThread.Step T) :=
  emitted (afterTurn blake2b) (calls blake2b)

/-! ## What the calls stand for -/

/-- What a packet is counted for: a registration that presents its challenge, a removal by anyone, a
query that the rate limit allows, or an error. -/
def Counts (blake2b : HashConfig → Bytes → Bytes) (s : MasterServer Addr Ip) (x : Packet Addr) :
    StatsEvent → Prop
  | .serverAdd => ∃ msg e, Registers s x msg e
  | .serverDel => ∃ msg, ServerRemove.decode x.src = .ok msg
  | .queryServers => ∃ query, Asks s x query
  | .error => ∃ e, (s.handlePacket blake2b x.env x.peer x.src).result = .error e

/-- An event happens in a turn. -/
def Happens (blake2b : HashConfig → Bytes → Bytes) (e : StatsEvent) (s : MasterServer Addr Ip) :
    Turn Addr → Prop
  | .arrival x => ∃ peer, x.sender = wrap peer ∧ ip peer ∉ s.blocklist ∧
      Counts blake2b s ⟨x.env, peer, x.src⟩ e
  | .reload _ _ _ => False

open Classical in
/-- How often an event happens in a run. -/
noncomputable def happened (blake2b : HashConfig → Bytes → Bytes) (e : StatsEvent) :
    MasterServer Addr Ip → List (Turn Addr) → ℕ :=
  tally (afterTurn blake2b) fun s z => if Happens blake2b e s z then 1 else 0

section Calls

variable {blake2b : HashConfig → Bytes → Bytes} {s : MasterServer Addr Ip} {e : StatsEvent}

theorem mem_serverAddCalls {env : Env Addr} {peer : Addr} {src : Bytes} {msg : ServerAdd}
    (h : ServerAdd.decode src = .ok msg) :
    .event e ∈ (s.serverAddCalls env peer msg : List (StatsThread.Step T)) ↔
      e = .serverAdd ∧ ∃ entry, Registers s ⟨env, peer, src⟩ msg entry := by
  unfold serverAddCalls
  rw [serverChallengeGet_eq]
  split_ifs with hversion
  · refine iff_of_false List.not_mem_nil ?_
    rintro ⟨-, entry, hr⟩
    exact hr.version hversion
  · cases hentry : s.challenges.view (env.now 0) peer with
    | none =>
      refine iff_of_false List.not_mem_nil ?_
      rintro ⟨-, entry, hr⟩
      cases hentry.symm.trans hr.entry
    | some entry =>
      dsimp only [Option.map_some]
      split_ifs with hchallenge hremoved
      · refine iff_of_false List.not_mem_nil ?_
        rintro ⟨-, entry', hr⟩
        have heq : entry = entry' := Option.some.inj (hentry.symm.trans hr.entry)
        exact hchallenge (heq ▸ hr.challenge)
      · rw [TimedHashMap.remove_fst, Option.isSome_iff_exists] at hremoved
        obtain ⟨entry', hremoved⟩ := hremoved
        have heq : entry' = entry := Option.some.inj <|
          (TimedHashMap.view_eq_some.1 hremoved).1.symm.trans
            (TimedHashMap.view_eq_some.1 hentry).1
        have hr : Registers s ⟨env, peer, src⟩ msg entry :=
          ⟨h, hversion, hentry, not_ne_iff.1 hchallenge, heq ▸ hremoved⟩
        simpa using fun _ => ⟨entry, hr⟩
      · rw [TimedHashMap.remove_fst, Option.not_isSome_iff_eq_none] at hremoved
        refine iff_of_false List.not_mem_nil ?_
        rintro ⟨-, entry', hr⟩
        cases hremoved.symm.trans hr.unexpired

/-- Only the calls under the header of registrations count one. -/
theorem serverAdd_mem_packetCalls {x : Packet Addr} :
    .event .serverAdd ∈ (s.packetCalls x.env x.peer x.src : List (StatsThread.Step T)) ↔
      ∃ msg entry, Registers s x msg entry := by
  unfold packetCalls
  by_cases hp : ServerAdd.header.isPrefixOf x.src = true
  · rw [if_neg (not_isPrefixOf (by decide) hp), if_pos hp]
    cases hd : ServerAdd.decode x.src with
    | error err =>
      refine iff_of_false List.not_mem_nil ?_
      rintro ⟨msg, entry, hr⟩
      cases hd.symm.trans hr.decoded
    | ok msg =>
      refine (mem_serverAddCalls hd).trans ?_
      constructor
      · rintro ⟨-, entry, hr⟩
        exact ⟨msg, entry, hr⟩
      · rintro ⟨msg', entry, hr⟩
        obtain rfl : msg = msg' := Except.ok.inj (hd.symm.trans hr.decoded)
        exact ⟨rfl, entry, hr⟩
  · refine iff_of_false ?_ ?_
    · rw [if_neg hp]
      split_ifs
      · exact List.not_mem_nil
      · split <;> simp
      · split <;> simp
      · exact List.not_mem_nil
    · rintro ⟨msg, entry, hr⟩
      exact hp (isPrefixOf_of_run hr.decoded)

theorem serverDel_mem_packetCalls {x : Packet Addr} :
    .event .serverDel ∈ (s.packetCalls x.env x.peer x.src : List (StatsThread.Step T)) ↔
      ∃ msg, ServerRemove.decode x.src = .ok msg := by
  unfold packetCalls
  by_cases hp : ServerRemove.header.isPrefixOf x.src = true
  · rw [if_neg (not_isPrefixOf (by decide) hp), if_neg (not_isPrefixOf (by decide) hp), if_pos hp]
    cases hd : ServerRemove.decode x.src with
    | error err =>
      refine iff_of_false List.not_mem_nil ?_
      rintro ⟨msg, h⟩
      cases h
    | ok msg => exact iff_of_true List.mem_cons_self ⟨msg, rfl⟩
  · refine iff_of_false ?_ ?_
    · rw [if_neg hp]
      split_ifs
      · exact List.not_mem_nil
      · cases hd : ServerAdd.decode x.src with
        | error err => exact List.not_mem_nil
        | ok msg =>
          intro h
          cases ((mem_serverAddCalls hd).1 h).1
      · split <;> simp
      · exact List.not_mem_nil
    · rintro ⟨msg, h⟩
      exact hp (isPrefixOf_of_run h)

theorem queryServers_mem_packetCalls {x : Packet Addr} :
    .event .queryServers ∈ (s.packetCalls x.env x.peer x.src : List (StatsThread.Step T)) ↔
      ∃ query, Asks s x query := by
  unfold packetCalls
  by_cases hp : QueryServers.header.isPrefixOf x.src = true
  · rw [if_neg (not_isPrefixOf (by decide) hp), if_neg (not_isPrefixOf (by decide) hp),
      if_neg (not_isPrefixOf (by decide) hp), if_pos hp]
    cases hd : QueryServers.decode x.src with
    | error err =>
      refine iff_of_false (by cases (s.allowGameRequest x.env x.peer).1 <;> simp) ?_
      rintro ⟨query, ha⟩
      cases hd.symm.trans ha.decoded
    | ok query =>
      cases ha : (s.allowGameRequest x.env x.peer).1 with
      | error err =>
        refine iff_of_false List.not_mem_nil ?_
        rintro ⟨query', h⟩
        cases ha.symm.trans h.allowed
      | ok u => exact iff_of_true List.mem_cons_self ⟨query, hd, ha⟩
  · refine iff_of_false ?_ ?_
    · rw [if_neg hp]
      split_ifs
      · exact List.not_mem_nil
      · cases hd : ServerAdd.decode x.src with
        | error err => exact List.not_mem_nil
        | ok msg =>
          intro h
          cases ((mem_serverAddCalls hd).1 h).1
      · split <;> simp
      · exact List.not_mem_nil
    · rintro ⟨query, ha⟩
      exact hp (isPrefixOf_of_run ha.decoded)

/-- What a packet is counted for, errors apart. -/
theorem mem_packetCalls {x : Packet Addr} (he : e ≠ .error) :
    .event e ∈ (s.packetCalls x.env x.peer x.src : List (StatsThread.Step T)) ↔
      Counts blake2b s x e := by
  cases e with
  | serverAdd => exact serverAdd_mem_packetCalls
  | serverDel => exact serverDel_mem_packetCalls
  | queryServers => exact queryServers_mem_packetCalls
  | error => exact absurd rfl he

theorem error_notMem_packetCalls {env : Env Addr} {peer : Addr} {src : Bytes} :
    .event .error ∉ (s.packetCalls env peer src : List (StatsThread.Step T)) := by
  unfold packetCalls
  split_ifs
  · exact List.not_mem_nil
  · cases hd : ServerAdd.decode src with
    | error err => exact List.not_mem_nil
    | ok msg =>
      intro h
      cases ((mem_serverAddCalls hd).1 h).1
  · split <;> simp
  · split <;> simp
  · exact List.not_mem_nil

omit [AddrExt Addr Ip] [DecidableEq Addr] [DecidableEq Ip] in
/-- A reload counts nothing. -/
theorem updateConfigCalls_cases (host : Host) (s : MasterServer Addr Ip) (cfg : MasterConfig)
    (stat : StatConfig) : let cs : List (StatsThread.Step T) := s.updateConfigCalls host cfg stat
    cs = [] ∨ cs = [.updateConfig stat] ∨
      (s.updateConfig host cfg).2 = .ok none ∧
        s.sock ≠ SocketAddr.new cfg.server.ip cfg.server.port ∧
        cs = StatsThread.fields.map .clear ++ [.updateConfig stat] := by
  intro cs
  unfold cs updateConfigCalls updateConfig
  split
  · exact Or.inl rfl
  · dsimp only
    split
    · exact Or.inl rfl
    · split
      · cases host.bind (SocketAddr.new cfg.server.ip cfg.server.port) with
        | none => exact Or.inl rfl
        | some sock =>
          dsimp only
          split
          · exact Or.inl rfl
          · exact Or.inr (Or.inr ⟨rfl, ‹_›, rfl⟩)
      · exact Or.inr (Or.inl rfl)

omit [AddrExt Addr Ip] [DecidableEq Addr] [DecidableEq Ip] in
theorem event_notMem_updateConfigCalls {host : Host} {cfg : MasterConfig} {stat : StatConfig} :
    .event e ∉ (s.updateConfigCalls host cfg stat : List (StatsThread.Step T)) := by
  rcases updateConfigCalls_cases (T := T) host s cfg stat with h | h | ⟨-, -, h⟩ <;> rw [h] <;> simp

/-- The calls of a turn are for what happens in it. -/
theorem mem_calls {z : Turn Addr} :
    .event e ∈ (calls blake2b s z : List (StatsThread.Step T)) ↔ Happens blake2b e s z := by
  cases z with
  | reload host cfg stat => exact iff_of_false event_notMem_updateConfigCalls id
  | arrival x =>
    unfold calls Happens receiveCalls
    dsimp only
    cases hx : (extract x.sender : Option Addr) with
    | none =>
      refine iff_of_false List.not_mem_nil ?_
      rintro ⟨peer, hp, -⟩
      rw [hp, extract_wrap] at hx
      cases hx
    | some peer =>
      have hp : x.sender = wrap peer := (extract_eq_some.1 hx).symm
      have hpeer : (∃ peer', x.sender = wrap peer' ∧ ip peer' ∉ s.blocklist ∧
          Counts blake2b s ⟨x.env, peer', x.src⟩ e) ↔
          ip peer ∉ s.blocklist ∧ Counts blake2b s ⟨x.env, peer, x.src⟩ e := by
        constructor
        · rintro ⟨peer', hp', h⟩
          rw [hp', extract_wrap] at hx
          obtain rfl := Option.some.inj hx
          exact h
        · exact fun h => ⟨peer, hp, h⟩
      rw [hpeer]
      dsimp only
      by_cases hb : ip peer ∈ s.blocklist
      · have hblocked : s.isBlocked (ip peer) = true := decide_eq_true hb
        rw [if_pos hblocked]
        exact iff_of_false List.not_mem_nil fun h => h.1 hb
      · have hblocked : ¬ s.isBlocked (ip peer) = true := by simpa [isBlocked] using hb
        rw [if_neg hblocked, List.mem_append, and_iff_right hb]
        by_cases he : e = .error
        · subst he
          rw [or_iff_right error_notMem_packetCalls]
          unfold Counts
          cases (s.handlePacket blake2b x.env peer x.src).result <;> simp
        · have hcalls : .event e ∈ (s.packetCalls x.env peer x.src : List (StatsThread.Step T)) ↔
              Counts blake2b s ⟨x.env, peer, x.src⟩ e :=
            mem_packetCalls (x := ⟨x.env, peer, x.src⟩) he
          rw [or_iff_left, hcalls]
          split
          · exact List.not_mem_nil
          · simpa using he

theorem serverAddCalls_cases (env : Env Addr) (s : MasterServer Addr Ip) (peer : Addr)
    (msg : ServerAdd) : let cs : List (StatsThread.Step T) := s.serverAddCalls env peer msg
    cs = [] ∨ ∃ k, cs = [.event .serverAdd, .serversCount k] := by
  intro cs
  unfold cs serverAddCalls
  split
  · exact Or.inl rfl
  · split
    · exact Or.inl rfl
    · split
      · exact Or.inl rfl
      · dsimp only
        split
        · exact Or.inr ⟨_, rfl⟩
        · exact Or.inl rfl

/-- What a packet is counted for comes first, and once. -/
theorem packetCalls_cases (env : Env Addr) (s : MasterServer Addr Ip) (peer : Addr) (src : Bytes) :
    let cs : List (StatsThread.Step T) := s.packetCalls env peer src
    cs = [] ∨ (∃ e, cs = [.event e]) ∨ ∃ e k, cs = [.event e, .serversCount k] := by
  intro cs
  unfold cs packetCalls
  split_ifs
  · exact Or.inl rfl
  · split
    · rename_i msg _
      rcases serverAddCalls_cases (T := T) env s peer msg with h | ⟨k, h⟩
      · exact Or.inl h
      · exact Or.inr (Or.inr ⟨_, k, h⟩)
    · exact Or.inl rfl
  · split
    · exact Or.inr (Or.inl ⟨_, rfl⟩)
    · exact Or.inl rfl
  · split
    · exact Or.inr (Or.inl ⟨_, rfl⟩)
    · exact Or.inl rfl
  · exact Or.inl rfl

theorem count_eq_zero {cs : List (StatsThread.Step T)} (h : .event e ∉ cs) :
    cs.countP (StatsThread.Step.isEvent e) = 0 := by
  refine List.countP_eq_zero.2 fun y hy hevent => h ?_
  cases y with
  | event e' =>
    obtain rfl := of_decide_eq_true hevent
    exact hy
  | serversCount | clear | updateConfig | drop | thread => cases hevent

/-- Nothing is counted twice in a turn. -/
theorem count_calls_le (z : Turn Addr) :
    (calls blake2b s z : List (StatsThread.Step T)).countP (StatsThread.Step.isEvent e) ≤ 1 := by
  cases z with
  | reload host cfg stat =>
    have hnone : .event e ∉ (calls blake2b s (.reload host cfg stat) : List (StatsThread.Step T)) :=
      event_notMem_updateConfigCalls
    rw [count_eq_zero hnone]
    exact Nat.zero_le 1
  | arrival x =>
    unfold calls receiveCalls
    dsimp only
    split
    · exact Nat.zero_le 1
    · rename_i peer _
      split
      · exact Nat.zero_le 1
      · rw [List.countP_append]
        by_cases he : e = .error
        · subst he
          rw [count_eq_zero error_notMem_packetCalls, zero_add]
          split
          · exact Nat.zero_le 1
          · exact List.countP_le_length
        · have hlast : ∀ r : Except Error Unit, (match r with
              | .ok _ => []
              | .error _ => [.event .error] : List (StatsThread.Step T)).countP
                (StatsThread.Step.isEvent e) = 0 := by
            intro r
            cases r with
            | ok _ => rfl
            | error _ => simp [StatsThread.Step.isEvent, Ne.symm he]
          rw [hlast, add_zero]
          rcases packetCalls_cases (T := T) x.env s peer x.src with h | ⟨e', h⟩ | ⟨e', k, h⟩
          · rw [h]
            exact Nat.zero_le 1
          · rw [h]
            exact List.countP_le_length
          · rw [h]
            have hcount : [(.event e' : StatsThread.Step T), .serversCount k].countP
                (StatsThread.Step.isEvent e) =
                [(.event e' : StatsThread.Step T)].countP (StatsThread.Step.isEvent e) := by
              simp [List.countP_cons, StatsThread.Step.isEvent]
            rw [hcount]
            exact List.countP_le_length

open Classical in
/-- The calls of a run count what happens in it. -/
theorem count_runCalls (zs : List (Turn Addr)) :
    (runCalls blake2b s zs : List (StatsThread.Step T)).countP (StatsThread.Step.isEvent e) =
      happened blake2b e s zs := by
  have hturn : ∀ (s : MasterServer Addr Ip) (z : Turn Addr),
      (calls blake2b s z : List (StatsThread.Step T)).countP (StatsThread.Step.isEvent e) =
        if Happens blake2b e s z then 1 else 0 := by
    intro s z
    have hle : (calls blake2b s z : List (StatsThread.Step T)).countP
        (StatsThread.Step.isEvent e) ≤ 1 := count_calls_le z
    split_ifs with h
    · refine hle.antisymm (List.countP_pos_iff.2 ⟨.event e, mem_calls.2 h, ?_⟩)
      exact decide_eq_true rfl
    · exact count_eq_zero (mt mem_calls.1 h)
  unfold runCalls happened
  rw [countP_emitted]
  simp only [hturn]

end Calls

/-! ## Together with the thread -/

/-- A reload that disables the statistics, or moves the server to another socket. -/
def StopsCounting (s : MasterServer Addr Ip) : Turn Addr → Prop
  | .arrival _ => False
  | .reload host cfg stat => stat.interval = 0 ∨
      (s.updateConfig host cfg).2 = .ok none ∧ s.sock ≠ SocketAddr.new cfg.server.ip cfg.server.port

theorem lasts_of_mem_calls {blake2b : HashConfig → Bytes → Bytes} {s : MasterServer Addr Ip}
    {z : Turn Addr} (hz : ¬ StopsCounting s z) {y : StatsThread.Step T}
    (hy : y ∈ calls blake2b s z) : y.Lasts ∧ y ≠ .drop := by
  cases z with
  | reload host cfg stat =>
    obtain ⟨hinterval, hsock⟩ := not_or.1 hz
    rcases updateConfigCalls_cases (T := T) host s cfg stat with h | h | ⟨hok, hne, -⟩
    · replace hy : y ∈ s.updateConfigCalls host cfg stat := hy
      rw [h] at hy
      cases hy
    · replace hy : y ∈ s.updateConfigCalls host cfg stat := hy
      rw [h] at hy
      rw [List.mem_singleton.1 hy]
      exact ⟨hinterval, nofun⟩
    · exact absurd ⟨hok, hne⟩ hsock
  | arrival x =>
    unfold calls receiveCalls at hy
    dsimp only at hy
    split at hy
    · cases hy
    · rename_i peer _
      split at hy
      · cases hy
      · rcases List.mem_append.1 hy with hy | hy
        · rcases packetCalls_cases (T := T) x.env s peer x.src with h | ⟨e, h⟩ | ⟨e, k, h⟩
          · rw [h] at hy
            cases hy
          · rw [h] at hy
            rw [List.mem_singleton.1 hy]
            exact ⟨trivial, nofun⟩
          · rw [h] at hy
            rcases List.mem_cons.1 hy with rfl | hy
            · exact ⟨trivial, nofun⟩
            · rw [List.mem_singleton.1 hy]
              exact ⟨trivial, nofun⟩
        · split at hy
          · cases hy
          · rw [List.mem_singleton.1 hy]
            exact ⟨trivial, nofun⟩

/-- The operations of a server on its statistics and those of the thread, in any order: what is printed
or still to be printed has happened. While no reload stops it, and if fewer than `2 ^ 32` events of the
kind come between two readings of their counter, everything that has happened is printed or still to be
printed, once. -/
theorem counted_happened (blake2b : HashConfig → Bytes → Bytes) (n : NumberFormat T)
    (stat : StatConfig) (s : MasterServer Addr Ip) (zs : List (Turn Addr))
    (xs : List (StatsThread.Step T))
    (hxs : xs.filter (fun x => !x.isThread) = runCalls blake2b s zs) (e : StatsEvent) :
    let w := exec (StatsThread.World.step n) (StatsThread.start stat) xs
    StatsThread.held e w ≤ happened blake2b e s zs ∧
    (stat.interval ≠ 0 →
      (∀ p z q, zs = p ++ z :: q → ¬ StopsCounting (exec (afterTurn blake2b) s p) z) →
      StatsThread.Rare n e (StatsThread.start stat) xs →
      StatsThread.held e w = happened blake2b e s zs) := by
  have hcount : xs.countP (StatsThread.Step.isEvent e) = happened blake2b e s zs := by
    rw [← count_runCalls (T := T), ← hxs, List.countP_filter]
    refine List.countP_congr fun x _ => ?_
    cases x <;> simp [StatsThread.Step.isEvent, StatsThread.Step.isThread]
  refine ⟨hcount ▸ StatsThread.held_le n stat e xs, fun hstat hzs hrare => ?_⟩
  rw [← hcount]
  refine StatsThread.held_counting n stat hstat e xs (fun x hx => ?_) hrare
  cases hthread : x.isThread with
  | true =>
    obtain ⟨elapsed, time, rfl⟩ := StatsThread.exists_thread hthread
    exact ⟨trivial, nofun⟩
  | false =>
    have hmem : x ∈ runCalls blake2b s zs := by
      rw [← hxs]
      exact List.mem_filter.2 ⟨hx, by rw [hthread]; rfl⟩
    obtain ⟨p, z, q, hsplit, hcalls⟩ := exists_of_mem_emitted hmem
    exact lasts_of_mem_calls (hzs p z q hsplit) hcalls

def strayAddr : SocketAddrV4 := ⟨⟨⟨[10, 0, 0, 7], rfl⟩⟩, 27015⟩

/-- A removal by an address that was never there. -/
def strayRemoval : Turn SocketAddrV4 :=
  .arrival ⟨.steady ⟨125⟩ fun _ => 0, .v4 strayAddr, ServerRemove.header⟩

theorem counted_happened_removal :
    happened (fun _ _ => []) .serverDel
      (init {} (.v4 strayAddr) (.v4 strayAddr) : MasterServer SocketAddrV4 Ipv4Addr)
      [strayRemoval] = 1 := by
  have hcalls : runCalls (fun _ _ => [])
      (init {} (.v4 strayAddr) (.v4 strayAddr) : MasterServer SocketAddrV4 Ipv4Addr)
      [strayRemoval] = [(.event .serverDel : StatsThread.Step Unit)] := rfl
  refine ((counted_happened (fun _ _ => []) ⟨fun _ => [], fun _ => [], fun _ _ => []⟩
    { interval := 5 } _ [strayRemoval] [.thread false (), .event .serverDel, .thread true ()]
    (hcalls ▸ rfl) .serverDel).2 (by decide) ?_ (StatsThread.rare_of_countP (by decide))).symm
  intro p z q hz
  rcases p with - | ⟨y, p⟩
  · cases hz
    exact id
  · simp at hz

end Xash3d.MasterServer
