import Xash3d.Master.Replies

/-!
# From a handshake to a server list

A game server that answers its challenge in time is listed to the clients that look for it, until its
entry expires: `registered_listed` follows it through the packets in between, whoever they come from.
-/

namespace Xash3d.MasterServer

open Lib AddrExt

variable {Addr Ip : Type} [AddrExt Addr Ip] [DecidableEq Addr] [DecidableEq Ip]
  {blake2b : HashConfig → Bytes → Bytes} {cfg : MasterConfig} {s : MasterServer Addr Ip} {A : Addr}
  {e : Timed ServerInfo}

/-! ## The entry stays -/

/-- A packet that does not touch the entry `e` of an address: it comes before the entry expires, it
does not register the address, and the address is not banned after it. -/
structure Passes (blake2b : HashConfig → Bytes → Bytes) (cfg : MasterConfig)
    (s : MasterServer Addr Ip) (z : Arrival Addr) (A : Addr) (e : Timed ServerInfo) : Prop where
  alive : ∀ i, e.isValid (z.env.now i) cfg.server.timeout.server = true
  unregistered : z.sender = wrap A → ∀ msg c, ¬ Registers s ⟨z.env, A, z.src⟩ msg c
  unbanned : ip A ∉ (s.step blake2b z).blocklist

theorem server_kept_step (hcfg : Configured cfg s) {z : Arrival Addr}
    (h : s.servers.lookup A = some e) (hz : Passes blake2b cfg s z A e) :
    (s.step blake2b z).servers.lookup A = some e := by
  rcases step_cases blake2b s z with hs | ⟨peer, hp, -, hs⟩
  · rw [hs]
    exact h
  · have hunbanned := hz.unbanned
    rw [hs] at hunbanned ⊢
    have hreg : ∀ msg c, ¬ (peer = A ∧ Registers s ⟨z.env, peer, z.src⟩ msg c) := by
      rintro msg c ⟨rfl, hr⟩
      exact hz.unregistered hp msg c hr
    rcases lookup_servers (handle_effect blake2b s ⟨z.env, peer, z.src⟩) hreg with
      hsame | ⟨-, ⟨i, hexpired⟩ | ⟨-, -, hbanned⟩⟩
    · rw [hsame]
      exact h
    · have hview : s.servers.view (z.env.now i) A = some e :=
        TimedHashMap.view_eq_some.2 ⟨h, hcfg.servers ▸ hz.alive i⟩
      cases hexpired.symm.trans hview
    · exact absurd hbanned hunbanned

theorem server_kept_run (hcfg : Configured cfg s) (h : s.servers.lookup A = some e)
    (zs : List (Arrival Addr))
    (hzs : ∀ p z q, zs = p ++ z :: q → Passes blake2b cfg (exec (step blake2b) s p) z A e) :
    (exec (step blake2b) s zs).servers.lookup A = some e := by
  have hstep : ∀ (s : MasterServer Addr Ip) z, Passes blake2b cfg s z A e →
      Configured cfg s ∧ s.servers.lookup A = some e →
      Configured cfg (s.step blake2b z) ∧ (s.step blake2b z).servers.lookup A = some e :=
    fun s z hz hs => ⟨hs.1.loop [z], server_kept_step hs.1 hs.2 hz⟩
  exact (exec_kept hstep ⟨hcfg, h⟩ zs hzs).2

/-! ## A handshake in time -/

/-- The address asks for a challenge with the packet `y`, which is answered with a new number, and
presents that number with the packet `x`, before its timeout and for the first time. There is room
for one more server of its IP address, or the server is there already. -/
structure ShakesHands (blake2b : HashConfig → Bytes → Bytes) (cfg : MasterConfig)
    (s : MasterServer Addr Ip) (y : Arrival Addr) (zs : List (Arrival Addr)) (x : Arrival Addr)
    (A : Addr) (msg : ServerAdd) : Prop where
  sender : y.sender = wrap A
  unblocked : ip A ∉ s.blocklist
  asks : ∃ m, Challenge.decode y.src = .ok m
  vacant : s.challenges.view (y.env.now 0) A = none
  /-- Every packet is handled at one reading of the clock. -/
  now : ∀ z ∈ y :: zs ++ [x], ∀ i, z.env.now i = z.env.now 0
  inTime : ∀ z ∈ zs ++ [x], (z.env.now 0).durationSince (y.env.now 0) <
    cfg.server.timeout.challenge.toNat * 1000
  first : ∀ p z q, zs = p ++ z :: q → ∀ msg',
    ¬ Presents cfg (exec (step blake2b) s (y :: p)) z A (y.env.rng 0) msg'
  presents : Presents cfg (exec (step blake2b) s (y :: zs)) x A (y.env.rng 0) msg
  room : (∃ e, (exec (step blake2b) s (y :: zs)).servers.view (x.env.now 0) A = some e) ∨
    ((exec (step blake2b) s (y :: zs)).serversOf (x.env.now 0) (ip A)).length <
      cfg.server.maxServersPerIp.toNat

/-- A handshake in time adds the server. -/
theorem lookup_of_handshake (hcfg : Configured cfg s) (hserver : 1 ≤ cfg.server.timeout.server)
    {y x : Arrival Addr} {zs : List (Arrival Addr)} {msg : ServerAdd}
    (h : ShakesHands blake2b cfg s y zs x A msg) :
    (exec (step blake2b) s (y :: zs ++ [x])).servers.lookup A = some ⟨x.env.now 0, .new msg⟩ := by
  obtain ⟨m, hm⟩ := h.asks
  have hfor : s.challengeFor ⟨y.env, A, y.src⟩ = ⟨y.env.now 0, y.env.rng 0⟩ := by
    unfold challengeFor
    rw [show s.challenges.view (y.env.now 0) A = none from h.vacant]
    show (⟨y.env.now 1, y.env.rng 0⟩ : Timed UInt32) = _
    rw [h.now y (by simp) 1]
  have halive : ∀ z ∈ zs ++ [x], ∀ i, (⟨y.env.now 0, y.env.rng 0⟩ : Timed UInt32).isValid
      (z.env.now i) cfg.server.timeout.challenge = true := by
    intro z hz i
    rw [Timed.isValid_iff, h.now z (by simp_all) i]
    exact h.inTime z hz
  have hkept := challenge_of_request hcfg h.sender h.unblocked hm hfor zs
    (fun z hz => halive z (List.mem_append_left [x] hz)) h.first
  have hcfg' : Configured cfg (exec (step blake2b) s (y :: zs)) := hcfg.loop _
  have hview : ∀ i, (exec (step blake2b) s (y :: zs)).challenges.view (x.env.now i) A =
      some ⟨y.env.now 0, y.env.rng 0⟩ := by
    intro i
    refine TimedHashMap.view_eq_some.2 ⟨hkept, ?_⟩
    rw [hcfg'.challenges]
    exact halive x (by simp) i
  rw [exec_append, exec_singleton, step_of_presents hcfg' h.presents hview]
  exact lookup_registered hcfg' (x := ⟨x.env, A, x.src⟩) (h.now x (by simp))
    (UInt32.le_iff_toNat_le.1 hserver) h.room

/-! ## A query -/

/-- A query of a client that the master accepts and answers. -/
structure Queries (s : MasterServer Addr Ip) (q : Arrival Addr) (client : Addr)
    (query : QueryServers Filter) (k : UInt32) : Prop where
  sender : q.sender = wrap client
  unblocked : ip client ∉ s.blocklist
  asks : Asks s ⟨q.env, client, q.src⟩ query
  valid : s.isQueryServersValid query = true
  key : query.filter.key = some k
  send : ∀ n, q.env.send n = true

variable (blake2b) in
/-- The client is sent the servers that its query selects, page by page, and is announced to those
of them behind NAT. -/
theorem sent_of_queries {q : Arrival Addr} {client : Addr} {query : QueryServers Filter} {k : UInt32}
    (h : Queries s q client query k) : ∃ (packets : List Bytes) (listed nat : List Addr),
      (s.receive blake2b q.env q.sender q.src).sent = packets.map (⟨client, ·⟩) ++
        nat.map (⟨·, (ClientAnnounce.mk q.sender).wire⟩) ∧
      (∀ p ∈ packets, HasKey k p) ∧
      packets.flatMap (addresses Addr) = listed.map ServerAddress.seen ∧
      listed.Nodup ∧ (∀ A, A ∈ listed ↔ ∃ e, Selects s (q.env.now 2) query A e) ∧
      nat.Nodup ∧ ∀ A, A ∈ nat ↔ ∃ e, Selects s (q.env.now 2) query A e ∧
        e.value.flags.contains FilterFlags.nat = true := by
  have hhandler : s.receive blake2b q.env q.sender q.src =
      (s.allowGameRequest q.env client).2.handleGameQueryServers q.env client query := by
    have hdecoded : QueryServers.decode q.src = .ok query := h.asks.decoded
    have hallowed : (s.allowGameRequest q.env client).1 = .ok () := h.asks.allowed
    rw [receive_eq h.sender h.unblocked, handlePacket_queryServers (isPrefixOf_of_run hdecoded),
      hallowed, hdecoded]
    rfl
  have hselects : ∀ A e, Selects (s.allowGameRequest q.env client).2 (q.env.now 2) query A e ↔
      Selects s (q.env.now 2) query A e := by
    intro A e
    rw [allowGameRequest_snd]
    exact ⟨fun he => ⟨he.unexpired, he.region, he.filter, he.protocol⟩,
      fun he => ⟨he.unexpired, he.region, he.filter, he.protocol⟩⟩
  obtain ⟨s', listed, nat, announced, hout, hnodup, hlisted, hnatNodup, hnat, hoff⟩ :=
    handleGameQueryServers_valid q.env (s.allowGameRequest q.env client).2 client query
      ((isQueryServersValid_allowed q.env s client query).trans h.valid)
  obtain ⟨packets, hpackets, haddr, hlist⟩ := exists_packets Addr k listed
  have hann : (if announced then announcements client nat else []) = announcements client nat := by
    cases announced with
    | true => rfl
    | false =>
      rw [hoff rfl]
      rfl
  refine ⟨packets, listed, nat, ?_, fun p hp => (hpackets p hp).2, haddr, hnodup, ?_, hnatNodup, ?_⟩
  · rw [hhandler, hout, hann, h.key, hlist, ← sends_append, reply_sends q.env _ h.send, h.sender]
    rfl
  · simpa only [hselects] using hlisted
  · simpa only [hselects] using hnat

/-- A server that has shaken hands in time is listed, until its entry expires, to exactly the clients
whose accepted queries ask for a server like it, whatever packets come in between that neither
register its address again nor ban it; and the clients are announced to it if it is behind NAT. -/
theorem registered_listed (blake2b : HashConfig → Bytes → Bytes) (cfg : MasterConfig)
    (hserver : 1 ≤ cfg.server.timeout.server) (sock updateAddr : SocketAddr)
    (xs zs us : List (Arrival Addr)) (y x q : Arrival Addr) (A client : Addr) (msg : ServerAdd)
    (query : QueryServers Filter) (k : UInt32) :
    let run := fun xs => exec (step blake2b) (init cfg sock updateAddr : MasterServer Addr Ip) xs
    let s := run (xs ++ (y :: zs ++ [x]) ++ us)
    ShakesHands blake2b cfg (run xs) y zs x A msg →
    (∀ p z r, us ++ [q] = p ++ z :: r →
      Passes blake2b cfg (run (xs ++ (y :: zs ++ [x]) ++ p)) z A ⟨x.env.now 0, .new msg⟩) →
    Queries s q client query k →
    ∃ (packets : List Bytes) (listed nat : List Addr),
      (s.receive blake2b q.env q.sender q.src).sent = packets.map (⟨client, ·⟩) ++
        nat.map (⟨·, (ClientAnnounce.mk q.sender).wire⟩) ∧
      (∀ p ∈ packets, HasKey k p) ∧
      packets.flatMap (addresses Addr) = listed.map ServerAddress.seen ∧ listed.Nodup ∧
      (A ∈ listed ↔ msg.region = query.region ∧ query.filter.matches (.new msg) = true ∧
        ∀ version, query.filter.clver = some version → version < .new 0 20 → msg.protocol = 48) ∧
      (A ∈ nat ↔ A ∈ listed ∧ (ServerInfo.new msg).flags.contains FilterFlags.nat = true) := by
  intro run s hshake hpass hquery
  have hcfg : Configured cfg (run xs) := (configured_init cfg sock updateAddr).loop xs
  have hrun : ∀ p, run (xs ++ (y :: zs ++ [x]) ++ p) =
      exec (step blake2b) (exec (step blake2b) (run xs) (y :: zs ++ [x])) p := by
    intro p
    show exec _ _ (xs ++ (y :: zs ++ [x]) ++ p) = _
    rw [exec_append, exec_append]
  have hlookup : s.servers.lookup A = some ⟨x.env.now 0, .new msg⟩ := by
    show (run (xs ++ (y :: zs ++ [x]) ++ us)).servers.lookup A = _
    rw [hrun]
    refine server_kept_run (hcfg.loop _) (lookup_of_handshake hcfg hserver hshake) us ?_
    intro p z r hus
    rw [← hrun]
    exact hpass p z (r ++ [q]) (by rw [hus]; simp)
  have hview : s.servers.view (q.env.now 2) A = some ⟨x.env.now 0, .new msg⟩ := by
    refine TimedHashMap.view_eq_some.2 ⟨hlookup, ?_⟩
    have hs : Configured cfg s := (configured_init cfg sock updateAddr).loop _
    rw [hs.servers]
    exact (hpass us q [] rfl).alive 2
  obtain ⟨packets, listed, nat, hsent, hkey, haddr, hnodup, hlisted, -, hnat⟩ :=
    sent_of_queries blake2b hquery
  have honly : ∀ e, Selects s (q.env.now 2) query A e → e = ⟨x.env.now 0, .new msg⟩ :=
    fun e he => Option.some.inj (he.unexpired.symm.trans hview)
  refine ⟨packets, listed, nat, hsent, hkey, haddr, hnodup, ?_, ?_⟩
  · rw [hlisted]
    constructor
    · rintro ⟨e, he⟩
      obtain rfl := honly e he
      exact ⟨he.region, he.filter, he.protocol⟩
    · rintro ⟨hregion, hfilter, hprotocol⟩
      exact ⟨_, hview, hregion, hfilter, hprotocol⟩
  · rw [hnat, hlisted]
    constructor
    · rintro ⟨e, he, hflag⟩
      obtain rfl := honly e he
      exact ⟨⟨_, he⟩, hflag⟩
    · rintro ⟨⟨e, he⟩, hflag⟩
      obtain rfl := honly e he
      exact ⟨_, he, hflag⟩

/-- A server registers within a second, and a client asks for all servers a minute later. -/
theorem registered_listed_one :
    let A : SocketAddrV4 := ⟨⟨⟨[10, 0, 0, 1], rfl⟩⟩, 27015⟩
    let client : SocketAddrV4 := ⟨⟨⟨[10, 0, 0, 2], rfl⟩⟩, 27005⟩
    let y : Arrival SocketAddrV4 := ⟨.steady ⟨0⟩ fun _ => 7, .v4 A, [0x71, 0xff]⟩
    let x : Arrival SocketAddrV4 := ⟨.steady ⟨125⟩ fun _ => 8, .v4 A,
      ascii "0\n\\protocol\\49\\challenge\\7\\version\\0.21\n"⟩
    let q : Arrival SocketAddrV4 := ⟨.steady ⟨7500⟩ fun _ => 9, .v4 client,
      [0x31, 0xff] ++ ascii "0.0.0.0:0" ++ [0] ++ ascii "\\clver\\0.21\\key\\5" ++ [0]⟩
    let s := exec (step fun _ _ => [])
      (init {} (.v4 A) (.v4 A) : MasterServer SocketAddrV4 Ipv4Addr) [y, x]
    ∃ packets : List Bytes, ∃ listed : List SocketAddrV4, ∃ nat : List SocketAddrV4,
      (s.receive (fun _ _ => []) q.env q.sender q.src).sent = packets.map (⟨client, ·⟩) ++
        nat.map (⟨·, (ClientAnnounce.mk q.sender).wire⟩) ∧
      packets.flatMap (addresses SocketAddrV4) = listed.map ServerAddress.seen ∧ A ∈ listed := by
  intro A client y x q s
  let msg : ServerAdd := { (default : ServerAdd) with
    protocol := 49, challenge := 7, version := .new 0 21 }
  let query : QueryServers Filter := ⟨.restOfTheWorld, ascii "0.0.0.0:0",
    { (default : Filter) with clver := some (.new 0 21), key := some 5 }⟩
  have hshake : ShakesHands (fun _ _ => []) {}
      (init {} (.v4 A) (.v4 A) : MasterServer SocketAddrV4 Ipv4Addr) y [] x A msg :=
    { sender := rfl
      unblocked := by decide
      asks := ⟨⟨none⟩, by decide +kernel⟩
      vacant := rfl
      now := by simp [y, x, Env.steady]
      inTime := by decide +kernel
      first := by simp
      presents := ⟨rfl, by decide +kernel, by decide +kernel, by decide, rfl⟩
      room := Or.inr (by decide +kernel) }
  have hquery : Queries s q client query 5 :=
    ⟨rfl, by decide +kernel, ⟨by decide +kernel, by decide +kernel⟩, by decide +kernel, rfl,
      fun _ => rfl⟩
  have hpass : Passes (fun _ _ => []) {} s q A ⟨⟨125⟩, .new msg⟩ := by
    have halive : (⟨⟨125⟩, .new msg⟩ : Timed ServerInfo).isValid ⟨7500⟩ 300 = true := by decide +kernel
    refine ⟨fun _ => halive, fun h => ?_, by decide +kernel⟩
    exact absurd (SocketAddr.v4.inj h) (by decide)
  obtain ⟨packets, listed, nat, hsent, -, haddr, -, hlisted, -⟩ :=
    registered_listed (fun _ _ => []) {} (by decide) (.v4 A) (.v4 A) [] [] [] y x q A client msg
      query 5 hshake (by
        intro p z r hp
        rcases p with _ | ⟨_, p⟩
        · cases hp
          exact hpass
        · simp at hp) hquery
  refine ⟨packets, listed, nat, hsent, haddr, hlisted.2 ⟨by decide, by decide +kernel, ?_⟩⟩
  intro version hv hold
  cases hv
  exact absurd hold (by decide)

end Xash3d.MasterServer
