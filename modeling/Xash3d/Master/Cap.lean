import Xash3d.Master.Servers

/-!
# The number of servers of an IP address

`Capped` is the invariant of a run on a clock that does not go back: an IP address never has more
valid entries than `max_servers_per_ip`, so that the 16-bit count is exact. The clock goes back
when it wraps, and entries that were expired become valid again (`cap_exceeded_after_wrap`).
-/

namespace Xash3d.MasterServer

open Lib AddrExt

variable {Addr Ip : Type} [AddrExt Addr Ip] [DecidableEq Addr] [DecidableEq Ip]
  {blake2b : HashConfig → Bytes → Bytes} {cfg : MasterConfig} {s s' : MasterServer Addr Ip}
  {x : Packet Addr} {t t' : RelativeTime}

/-- No IP address has more valid entries than allowed. -/
def Capped (cfg : MasterConfig) (s : MasterServer Addr Ip) (t : RelativeTime) : Prop :=
  ∀ i, (s.serversOf t i).length ≤ cfg.server.maxServersPerIp.toNat

/-- What readers see of the servers only shrinks. -/
theorem Capped.of_view (h : Capped cfg s t)
    (hv : ∀ A, (∃ e, s'.servers.view t' A = some e) → ∃ e, s.servers.view t A = some e) :
    Capped cfg s' t' := fun i => (length_serversOf_le fun A _ => hv A).trans (h i)

theorem Capped.later (h : Capped cfg s t) (ht : t ≤ t') : Capped cfg s t' := by
  refine h.of_view ?_
  rintro A ⟨e, he⟩
  exact ⟨e, TimedHashMap.view_of_le ht he⟩

omit [DecidableEq Addr] in
/-- The count of a capped server is exact. -/
theorem Capped.count (h : Capped cfg s t) (i : Ip) :
    (s.countServers t i).toNat = (s.serversOf t i).length :=
  toNat_countServers ((h i).trans_lt cfg.server.maxServersPerIp.toNat_lt)

/-- Adding a server keeps the cap. -/
theorem Capped.addServer {env : Env Addr} (hcfg : s.cfg = cfg) (h : ∀ i, Capped cfg s (env.now i))
    (hmono : Monotone env.now) (addr : Addr) (server : ServerInfo) (ht : ∀ i, env.now i ≤ t) :
    Capped cfg (s.addServer env addr server) t := by
  have hv : ∀ {t}, env.now 2 ≤ t →
      (s.servers.entry addr (env.now 2)).2.view t = s.servers.view t := TimedHashMap.view_entry
  rcases addServer_cases env s addr server with ⟨⟨e₀, h₀⟩, hs⟩ | ⟨-, ⟨-, hs⟩ | ⟨hc, hs⟩⟩
  · -- the entry is replaced: its address had a valid entry
    refine (h 2).of_view ?_
    rintro A ⟨e, he⟩
    rw [hs, TimedHashMap.view_entryInsert] at he
    by_cases hA : A = addr
    · rw [hA]
      exact ⟨e₀, h₀⟩
    · rw [Function.update_of_ne hA, hv (ht 2)] at he
      exact ⟨e, TimedHashMap.view_of_le (ht 2) he⟩
  · refine (h 2).of_view ?_
    rintro A ⟨e, he⟩
    rw [hs, hv (ht 2)] at he
    exact ⟨e, TimedHashMap.view_of_le (ht 2) he⟩
  · -- the entry is inserted: its IP address had fewer than allowed
    have hother : ∀ A, A ≠ addr → (∃ e, (s.addServer env addr server).servers.view t A = some e) →
        ∃ e, s.servers.view (env.now 3) A = some e := by
      rintro A hA ⟨e, he⟩
      rw [hs, TimedHashMap.view_insert (ht 5), Function.update_of_ne hA, hv (ht 2)] at he
      exact ⟨e, TimedHashMap.view_of_le (ht 3) he⟩
    intro i
    by_cases hi : i = ip addr
    · have hlt : (s.serversOf (env.now 3) i).length < cfg.server.maxServersPerIp.toNat := by
        rw [countServers_entry s addr (hmono (by decide)), ge_iff_le, UInt16.le_iff_toNat_le,
          (h 3).count, hcfg, not_le] at hc
        rw [hi]
        exact hc
      have hsucc := length_serversOf_le_succ (s := s) (t := env.now 3) (i := i)
        fun A hA _ => hother A hA
      exact hsucc.trans hlt
    · refine (length_serversOf_le ?_).trans (h 3 i)
      intro A hA he
      refine hother A ?_ he
      rintro rfl
      exact hi hA.symm

/-- Every packet keeps the cap. -/
theorem Capped.handle (hcfg : s.cfg = cfg) (h : ∀ i, Capped cfg s (x.env.now i))
    (hmono : Monotone x.env.now) (ht : ∀ i, x.env.now i ≤ t) :
    Capped cfg (s.handle blake2b x) t := by
  have hsame : ∀ {s'}, s'.servers = s.servers → Capped cfg s' t := by
    intro s' hs'
    refine (h 0).of_view ?_
    rintro A ⟨e, he⟩
    rw [hs'] at he
    exact ⟨e, TimedHashMap.view_of_le (ht 0) he⟩
  have heff := handle_effect blake2b s x
  generalize s.handle blake2b x = s' at heff ⊢
  cases heff with
  | none => exact hsame rfl
  | challenge msg hd => exact hsame rfl
  | expired msg hd hr => exact hsame rfl
  | add msg e hr =>
    exact Capped.addServer (s := { s with
      challenges := (s.challenges.remove x.peer (x.env.now 1)).2 }) hcfg h hmono x.peer (.new msg) ht
  | game gamedirs filtered nat hg => exact hsame rfl
  | adminChallenge hd ha => exact hsame rfl
  | adminCommand e msg hx =>
    refine (h 0).of_view ?_
    rintro A ⟨e', he'⟩
    obtain ⟨hl, hv⟩ := TimedHashMap.view_eq_some.1 he'
    have htime : (s.executed x msg).servers.timeout = s.servers.timeout :=
      timeout_adminCommand _ _ _
    rcases lookup_executed s x msg A with hsame | ⟨hnone, -⟩
    · refine ⟨e', TimedHashMap.view_of_le (ht 0) (TimedHashMap.view_eq_some.2 ⟨?_, ?_⟩)⟩
      · rw [← hsame, hl]
      · rwa [← htime]
    · rw [hnone] at hl
      cases hl
  | adminRefused e msg hx => exact hsame rfl

theorem capped_run (sock updateAddr : SocketAddr) :
    ∀ xs : List (Packet Addr), NonDecreasing xs → ∀ t, Until xs t →
      Capped cfg (exec (handle blake2b) (init cfg sock updateAddr) xs) t := by
  refine exec_induction NonDecreasing (fun xs s => ∀ t, Until xs t → Capped cfg s t)
    (fun xs x h => h.init.1) ?_ ?_
  · intro t _ i
    exact Nat.zero_le _
  · intro xs x hok h t ht
    obtain ⟨-, hm, hbefore⟩ := hok.init
    have hcfg : Configured cfg (exec (handle blake2b) (init cfg sock updateAddr) xs) :=
      (configured_init cfg sock updateAddr).run xs
    exact Capped.handle hcfg.cfg_eq (fun i => h _ (hbefore i)) hm (ht x (by simp))

/-- On a clock that does not go back an IP address never has more valid servers than allowed, the
count of them is exact, also where a registration makes it, and a registration from an address
with a valid entry is never rejected. -/
theorem servers_capped (blake2b : HashConfig → Bytes → Bytes) (cfg : MasterConfig)
    (sock updateAddr : SocketAddr) (xs : List (Packet Addr)) (x : Packet Addr)
    (hclock : NonDecreasing (xs ++ [x])) :
    let s := exec (handle blake2b) (init cfg sock updateAddr : MasterServer Addr Ip) xs
    (∀ t, Until xs t → ∀ i, (s.serversOf t i).length ≤ cfg.server.maxServersPerIp.toNat ∧
      (s.countServers t i).toNat = (s.serversOf t i).length) ∧
    (∀ A i, ({ s with servers := (s.servers.entry A (x.env.now 2)).2 }.countServers
      (x.env.now 3) i).toNat = (s.serversOf (x.env.now 3) i).length) ∧
    ∀ msg e, Registers s x msg e → (∃ e', s.servers.view (x.env.now 2) x.peer = some e') →
      (s.handle blake2b x).servers.lookup x.peer = some ⟨x.env.now 3, .new msg⟩ := by
  intro s
  obtain ⟨hxs, hm, hbefore⟩ := hclock.init
  have hcap : ∀ t, Until xs t → Capped cfg s t := capped_run sock updateAddr xs hxs
  refine ⟨fun t ht i => ⟨hcap t ht i, (hcap t ht).count i⟩, ?_, ?_⟩
  · intro A i
    rw [countServers_entry s A (hm (by decide))]
    exact (hcap _ (hbefore 3)).count i
  · rintro msg e hr ⟨e', he'⟩
    rw [handle_of_registers hr]
    unfold registered
    rcases addServer_cases x.env { s with
      challenges := (s.challenges.remove x.peer (x.env.now 1)).2 } x.peer (.new msg) with
      ⟨-, h⟩ | ⟨hv, -⟩
    · rw [h, TimedHashMap.lookup_entryInsert, Function.update_self]
    · exact absurd (he'.symm.trans hv) (by simp)

/-- Two servers of an IP address that may have two, and the first of them registers again. -/
theorem servers_capped_full :
    let cfg : MasterConfig := { server := { maxServersPerIp := 2 } }
    let host : Ipv4Addr := ⟨⟨[10, 0, 0, 1], rfl⟩⟩
    let packet (t : RelativeTime) (port : UInt16) (src : Bytes) : Packet SocketAddrV4 :=
      ⟨.steady t fun _ => 7, ⟨host, port⟩, src⟩
    let challenge : Bytes := [0x71, 0xff]
    let add := ascii "0\n\\protocol\\49\\challenge\\7\\version\\0.21\n"
    let msg : ServerAdd := { (default : ServerAdd) with
      protocol := 49, challenge := 7, version := .new 0 21 }
    let x := packet ⟨250⟩ 1 add
    let s := exec (handle fun _ _ => [])
      (init cfg (.v4 ⟨host, 27010⟩) (.v4 ⟨host, 27010⟩) : MasterServer SocketAddrV4 Ipv4Addr)
      [packet ⟨0⟩ 1 challenge, packet ⟨0⟩ 1 add, packet ⟨125⟩ 2 challenge, packet ⟨125⟩ 2 add,
        packet ⟨250⟩ 1 challenge]
    (s.serversOf ⟨250⟩ host).length = 2 ∧ (s.countServers ⟨250⟩ host).toNat = 2 ∧
      (s.handle (fun _ _ => []) x).servers.lookup x.peer = some ⟨⟨250⟩, .new msg⟩ := by
  intro cfg host packet challenge add msg x s
  have hclock : NonDecreasing ([packet ⟨0⟩ 1 challenge, packet ⟨0⟩ 1 add,
      packet ⟨125⟩ 2 challenge, packet ⟨125⟩ 2 add, packet ⟨250⟩ 1 challenge] ++ [x]) := by
    constructor
    · simp [packet, x, Env.steady, Monotone]
    · simp [packet, x, Env.steady]
      decide
  obtain ⟨hcap, -, hagain⟩ := servers_capped (fun _ _ => []) cfg (.v4 ⟨host, 27010⟩)
    (.v4 ⟨host, 27010⟩) _ x hclock
  have hlength : (s.serversOf ⟨250⟩ host).length = 2 := by decide +kernel
  have huntil : Until [packet ⟨0⟩ 1 challenge, packet ⟨0⟩ 1 add, packet ⟨125⟩ 2 challenge,
      packet ⟨125⟩ 2 add, packet ⟨250⟩ 1 challenge] ⟨250⟩ := by
    simp [Until, packet, Env.steady]
    decide
  have hregisters : Registers s x msg ⟨⟨250⟩, 7⟩ :=
    ⟨by decide +kernel, by decide +kernel, by decide +kernel, rfl, by decide +kernel⟩
  refine ⟨hlength, (hcap _ huntil host).2.trans hlength, hagain msg _ hregisters ?_⟩
  exact ⟨⟨⟨0⟩, .new msg⟩, by decide +kernel⟩

/-- The clock wraps, here after more than 17 years. The first server was expired when the second
one registered; after the wrap both are valid. -/
theorem cap_exceeded_after_wrap :
    let cfg : MasterConfig := { server := { maxServersPerIp := 1 } }
    let host : Ipv4Addr := ⟨⟨[10, 0, 0, 1], rfl⟩⟩
    let packet (ms : ℕ) (port : UInt16) (src : Bytes) : Packet SocketAddrV4 :=
      ⟨.steady (.fromMillis ms) fun _ => 7, ⟨host, port⟩, src⟩
    let challenge : Bytes := [0x71, 0xff]
    let add := ascii "0\n\\protocol\\49\\challenge\\7\\version\\0.21\n"
    let wraps := 2 ^ 39
    let xs := [packet (wraps - 400000) 1 challenge, packet (wraps - 400000) 1 add,
      packet (wraps - 50000) 2 challenge, packet (wraps - 50000) 2 add, packet wraps 3 []]
    let s := exec (handle fun _ _ => [])
      (init cfg (.v4 ⟨host, 27010⟩) (.v4 ⟨host, 27010⟩) : MasterServer SocketAddrV4 Ipv4Addr) xs
    ¬ (s.serversOf (.fromMillis wraps) host).length ≤ cfg.server.maxServersPerIp.toNat := by
  decide +kernel

end Xash3d.MasterServer
