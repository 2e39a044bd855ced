import Xash3d.Master.AdminDispatch
import Xash3d.Master.Reload
import Xash3d.Master.UpdateMessage

/-!
# Everything a master server sends

`Replies` lists every datagram a packet can make the server send. All but one kind go to the sender
of the packet; an announcement goes to a listed server behind NAT. The entry of such a server, and
the challenge it was registered with, are followed back through a run with reloads
(`added_of_lookup`, `challenged_of_lookup`).

* `sends_to_sender_or_registered`: nobody is sent anything but the senders of packets and the
  servers that have completed a handshake.
* `replies_unanswered`: no master answers what a master sends.
-/

namespace Xash3d.MasterServer

open Lib AddrExt

variable {Addr Ip : Type} [AddrExt Addr Ip] [DecidableEq Addr] [DecidableEq Ip]
  {blake2b : HashConfig → Bytes → Bytes} {s : MasterServer Addr Ip} {x : Packet Addr}

/-! ## What a packet is answered with -/

/-- A packet is a query for servers that passes the rate limit. -/
structure Asks (s : MasterServer Addr Ip) (x : Packet Addr) (query : QueryServers Filter) :
    Prop where
  decoded : QueryServers.decode x.src = .ok query
  allowed : (s.allowGameRequest x.env x.peer).1 = .ok ()

/-- Pages hold exactly the servers that a query selects, each of them once, and none is empty unless
the query selects nothing. -/
structure Pages (s : MasterServer Addr Ip) (now : RelativeTime) (query : QueryServers Filter)
    (parts : List (List Addr)) : Prop where
  nodup : parts.flatten.Nodup
  mem : ∀ A, A ∈ parts.flatten ↔ ∃ e, Selects s now query A e
  empty : [] ∈ parts → parts.flatten = []

/-- A datagram that a packet makes the server send. -/
inductive Replies (s : MasterServer Addr Ip) (x : Packet Addr) : Datagram Addr → Prop
  | challenge (msg : Challenge) (h : Challenge.decode x.src = .ok msg) :
    Replies s x ⟨x.peer, ChallengeResponse.wire ⟨(s.challengeFor x).value, msg.serverChallenge⟩⟩
  /-- One of the pages that hold the servers which a query selects. -/
  | list (query : QueryServers Filter) (h : Asks s x query)
      (hvalid : s.isQueryServersValid query = true) (parts : List (List Addr)) (part : List Addr)
      (hpart : part ∈ parts) (hparts : Pages s (x.env.now 2) query parts)
      (hfits : (page query.filter.key part).length ≤ mtu Addr) :
    Replies s x ⟨x.peer, page query.filter.key part⟩
  /-- The update address, for a query that is rejected. -/
  | fake (query : QueryServers Filter) (h : Asks s x query)
      (hvalid : s.isQueryServersValid query = false) :
    Replies s x ⟨x.peer, fakePage query.filter.key s.updateAddr⟩
  /-- The client is announced to a server behind NAT that its query selects. -/
  | announce (query : QueryServers Filter) (h : Asks s x query)
      (hvalid : s.isQueryServersValid query = true) (A : Addr) (e : Timed ServerInfo)
      (he : Selects s (x.env.now 2) query A e)
      (hnat : e.value.flags.contains FilterFlags.nat = true)
      (hfilter : query.filter.containsFlags FilterFlags.nat ≠ some false) :
    Replies s x ⟨A, (ClientAnnounce.mk (wrap x.peer)).wire⟩
  | info (msg : GetServerInfo) (h : Answers s x msg)
      (hfits : (updateMessage s.cfg msg (s.gamedirAt (x.env.now 2) x.peer)).wire.length ≤ mtu Addr) :
    Replies s x ⟨x.peer, (updateMessage s.cfg msg (s.gamedirAt (x.env.now 2) x.peer)).wire⟩
  | adminChallenge (e : Timed (UInt32 × UInt32)) (h : AdminIssues s x (ip x.peer) e) :
    Replies s x ⟨x.peer, AdminChallengeResponse.wire ⟨e.value.1, e.value.2⟩⟩

section Sent

variable {env : Env Addr} {dest : Addr} {S : Type} {t : S}

omit [DecidableEq Addr] in
theorem sent_sendTo (packet : Bytes) : (Outcome.reply t (sendTo env packet dest)).sent = [] ∨
    (Outcome.reply t (sendTo env packet dest)).sent = [⟨dest, packet⟩] := by
  unfold Outcome.reply
  rcases sendTo_cases env [] packet dest with h | h <;> rw [h]
  · exact Or.inr rfl
  · exact Or.inl rfl

omit [DecidableEq Addr] in
theorem sent_respond (r : Except ProtocolError Bytes) :
    (Outcome.reply t (respond env r dest)).sent = [] ∨
      ∃ packet, r = .ok packet ∧ (Outcome.reply t (respond env r dest)).sent = [⟨dest, packet⟩] := by
  cases r with
  | error e => exact Or.inl rfl
  | ok packet => exact (sent_sendTo packet).imp_right fun h => ⟨packet, rfl, h⟩

end Sent

/-- At most one datagram, of those a packet can be answered with. -/
def Single (s : MasterServer Addr Ip) (x : Packet Addr) (sent : List (Datagram Addr)) : Prop :=
  sent = [] ∨ ∃ d, sent = [d] ∧ Replies s x d

/-- The packet with an update address fits the buffer. -/
theorem length_fakePage_le (Addr : Type) {Ip : Type} [AddrExt Addr Ip] (key : Option UInt32)
    (a : SocketAddr) : (fakePage key a).length ≤ mtu Addr := by
  have hpage : ∀ (S : Type) [ServerAddress S] (a : S), (page key [a]).length ≤ mtu Addr := by
    intro S _ a
    have hroom := room_le_mtu Addr S
    have hheader := QueryServersResponse.length_headerWire_le key
    unfold page QueryServersResponse.pageWire
    rw [List.length_append, List.length_append, QueryServersResponse.length_wires,
      List.length_replicate, List.length_singleton]
    omega
  cases a with
  | v4 a => exact hpage _ a
  | v6 a => exact hpage _ a

/-- What an accepted query makes the server send. -/
theorem replies_of_query {query : QueryServers Filter} (h : Asks s x query) {d : Datagram Addr}
    (hd : d ∈ ((s.allowGameRequest x.env x.peer).2.handleGameQueryServers x.env x.peer query).sent) :
    Replies s x d := by
  have hsame := isQueryServersValid_allowed x.env s x.peer query
  cases hvalid : s.isQueryServersValid query with
  | true =>
    obtain ⟨s', listed, nat, announced, hout, hnodup, hmem, -, hnat, -⟩ :=
      handleGameQueryServers_valid x.env (s.allowGameRequest x.env x.peer).2 x.peer query
        (hsame.trans hvalid)
    have hselects : ∀ A e, Selects (s.allowGameRequest x.env x.peer).2 (x.env.now 2) query A e ↔
        Selects s (x.env.now 2) query A e := by
      intro A e
      rw [allowGameRequest_snd]
      exact ⟨fun he => ⟨he.unexpired, he.region, he.filter, he.protocol⟩,
        fun he => ⟨he.unexpired, he.region, he.filter, he.protocol⟩⟩
    obtain ⟨parts, rfl, hfits, hempty, hlist⟩ := sendServerList_eq Addr query.filter.key listed
    rw [hout, hlist, ← sends_append] at hd
    rcases List.mem_append.1 ((sent_sends x.env _ s').subset hd) with hd | hd
    · obtain ⟨part, hpart, rfl⟩ := List.mem_map.1 hd
      have hparts : Pages s (x.env.now 2) query parts :=
        ⟨hnodup, by simpa only [hselects] using hmem, hempty⟩
      exact .list query h hvalid parts part hpart hparts (hfits part hpart)
    · split_ifs at hd
      · obtain ⟨A, hA, rfl⟩ := List.mem_map.1 hd
        obtain ⟨e, he, hflag⟩ := (hnat A).1 hA
        refine .announce query h hvalid A e ((hselects A e).1 he) hflag ?_
        intro hoff
        rw [nat_of_matches he.filter hoff] at hflag
        cases hflag
      · cases hd
  | false =>
    rw [handleGameQueryServers_invalid x.env _ x.peer query (hsame.trans hvalid)] at hd
    have hd := List.mem_singleton.1 ((sent_sends x.env _ _).subset hd)
    rw [hd, allowGameRequest_snd]
    exact .fake query h hvalid

theorem sent_handleServerAdd (env : Env Addr) (s : MasterServer Addr Ip) (peer : Addr)
    (msg : ServerAdd) : (s.handleServerAdd env peer msg).sent = [] := by
  unfold handleServerAdd
  split_ifs
  · rfl
  · cases s.serverChallengeGet env peer with
    | none => rfl
    | some challenge =>
      dsimp only
      split_ifs <;> rfl

omit [DecidableEq Addr] in
theorem sent_handleAdminCommand (env : Env Addr) (s : MasterServer Addr Ip) (peer : Addr)
    (msg : AdminCommand) : (s.handleAdminCommand blake2b env peer msg).sent = [] := by
  unfold handleAdminCommand
  cases s.adminChallenges.get (ip peer) (env.now 1) with
  | none => rfl
  | some entry =>
    dsimp only
    split_ifs
    · rfl
    · cases findAdmin blake2b s.cfg entry.value.2 msg.hash <;> rfl

/-- A decoder that fails makes the server send nothing. -/
theorem Single.decoded {α : Type} {t : MasterServer Addr Ip} {r : Except ProtocolError α}
    {handle : α → Outcome (MasterServer Addr Ip) Addr}
    (h : ∀ msg, r = .ok msg → Single s x (handle msg).sent) :
    Single s x (handleDecoded t r handle).sent := by
  cases r with
  | error e => exact Or.inl rfl
  | ok msg => exact h msg rfl

/-- So does a limit. -/
theorem Single.allowed {r : Except Error Unit} {t : MasterServer Addr Ip}
    {handle : Outcome (MasterServer Addr Ip) Addr} (h : r = .ok () → Single s x handle.sent) :
    Single s x (handleAllowed r t handle).sent := by
  cases r with
  | error e => exact Or.inl rfl
  | ok u => exact h rfl

variable (blake2b s x) in
/-- A packet that is no query for servers is answered with one datagram at most. -/
theorem single_handlePacket (hq : dispatch x.src ≠ some .gameQueryServers) :
    Single s x (s.handlePacket blake2b x.env x.peer x.src).sent := by
  have hpacket := handlePacket_eq blake2b x.env s x.peer x.src
  cases hdispatch : dispatch x.src with
  | none =>
    rw [hpacket, hdispatch]
    exact Or.inl rfl
  | some handler =>
    rw [hdispatch] at hpacket hq
    cases handler with
    | serverChallenge =>
      rw [hpacket]
      refine Single.decoded fun msg hm => ?_
      have hhandler : s.handlePacket blake2b x.env x.peer x.src =
          s.handleServerChallenge x.env x.peer msg := handlePacket_challenge hm
      rw [← hhandler, handlePacket_challenge_eq hm]
      exact (sent_sendTo _).imp_right fun h => ⟨_, h, .challenge msg hm⟩
    | serverAdd =>
      rw [hpacket]
      exact Single.decoded fun msg _ => Or.inl (sent_handleServerAdd _ _ _ _)
    | serverRemove =>
      rw [hpacket]
      exact Single.decoded fun _ _ => Or.inl rfl
    | gameQueryServers => exact absurd rfl hq
    | gameGetServerInfo =>
      unfold handleWith at hpacket
      dsimp only at hpacket
      rw [hpacket]
      refine Single.allowed fun hallowed => Single.decoded fun msg hm => ?_
      have hanswers : Answers s x msg := ⟨hm, hallowed⟩
      have hout : s.handlePacket blake2b x.env x.peer x.src = .reply (s.handle blake2b x) _ :=
        handlePacket_answers hanswers
      rw [handlePacket_getServerInfo (isPrefixOf_of_run hm), hanswers.allowed, hm] at hout
      dsimp only [handleAllowed, handleDecoded] at hout
      rw [hout, GetServerInfoResponse.encode_eq]
      refine (sent_respond _).imp_right ?_
      rintro ⟨packet, hfits, hsent⟩
      split_ifs at hfits with hle
      cases hfits
      exact ⟨_, hsent, .info msg hanswers hle⟩
    | adminChallenge =>
      rw [hpacket]
      refine Single.allowed fun hallowed => Single.decoded fun msg hm => ?_
      have hlimit := allowAdminRequest_ok.1 hallowed
      have hissues : AdminIssues s x (ip x.peer) ⟨x.env.now 1, (x.env.rng 0, x.env.rng 1)⟩ :=
        ⟨rfl, hm, hlimit, rfl⟩
      have hout : s.handlePacket blake2b x.env x.peer x.src = .reply (s.handle blake2b x) _ :=
        handlePacket_adminIssues hissues
      rw [handle_of_adminChallenge hm hlimit] at hout
      rw [hout]
      exact (sent_sendTo _).imp_right fun h => ⟨_, h, .adminChallenge _ hissues⟩
    | adminCommand =>
      rw [hpacket]
      refine Single.allowed fun _ => Single.decoded fun msg _ => ?_
      exact Or.inl (sent_handleAdminCommand _ _ _ _)

/-- A packet makes the server send nothing else. -/
theorem replies_of_mem {d : Datagram Addr}
    (hd : d ∈ (s.handlePacket blake2b x.env x.peer x.src).sent) : Replies s x d := by
  by_cases hq : dispatch x.src = some .gameQueryServers
  · rw [handlePacket_eq, hq] at hd
    unfold handleWith at hd
    dsimp only at hd
    cases hallowed : (s.allowGameRequest x.env x.peer).1 with
    | error e =>
      rw [hallowed] at hd
      cases hd
    | ok u =>
      rw [hallowed] at hd
      cases hm : QueryServers.decode x.src with
      | error e =>
        rw [hm] at hd
        cases hd
      | ok query =>
        rw [hm] at hd
        exact replies_of_query ⟨hm, hallowed⟩ hd
  · rcases single_handlePacket blake2b s _ hq with h | ⟨d', h, hreplies⟩
    · rw [h] at hd
      cases hd
    · rw [h] at hd
      rw [List.mem_singleton.1 hd]
      exact hreplies

/-! ## Where servers come from -/

section Provenance

variable {A : Addr} {c : Timed UInt32} {e : Timed ServerInfo}

/-- An event issues the challenge entry `c` to an address: it is sent there and nowhere else. -/
def IssuesTo (blake2b : HashConfig → Bytes → Bytes) (s : MasterServer Addr Ip) (z : Event Addr)
    (A : Addr) (c : Timed UInt32) : Prop :=
  ∃ (y : Arrival Addr) (m : Challenge), z = .arrival y ∧ y.sender = wrap A ∧ ip A ∉ s.blocklist ∧
    Issues s ⟨y.env, A, y.src⟩ A c ∧ s.receive blake2b y.env y.sender y.src =
      .reply (s.step blake2b y)
        (sendTo y.env (ChallengeResponse.wire ⟨c.value, m.serverChallenge⟩) A)

/-- An event registers an address: it presents the valid challenge `c`, and `e` is the entry of the
server. -/
def RegistersAs (s : MasterServer Addr Ip) (z : Event Addr) (A : Addr) (c : Timed UInt32)
    (e : Timed ServerInfo) : Prop :=
  ∃ (y : Arrival Addr) (msg : ServerAdd) (i : ℕ), z = .arrival y ∧ y.sender = wrap A ∧
    ip A ∉ s.blocklist ∧ Registers s ⟨y.env, A, y.src⟩ msg c ∧ e = ⟨y.env.now i, .new msg⟩

omit [DecidableEq Ip] in
theorem RegistersAs.challenge {z : Event Addr} (h : RegistersAs s z A c e) :
    s.challenges.lookup A = some c := by
  obtain ⟨y, msg, i, -, -, -, hr, -⟩ := h
  exact (TimedHashMap.view_eq_some.1 hr.entry).1

/-- The entry of a server was there before the event, or is put there by its registration. -/
theorem registered_turn {z : Event Addr} (h : (s.turn blake2b z).servers.lookup A = some e) :
    (∃ c, RegistersAs s z A c e) ∨ s.servers.lookup A = some e := by
  by_cases hz : AddsServer s z A
  · cases z with
    | reload host cfg => exact hz.elim
    | arrival y =>
      obtain ⟨hsender, hb, msg, c, hr⟩ := hz
      refine Or.inl ⟨c, y, msg, ?_⟩
      have hstep : s.turn blake2b (.arrival y) = s.registered ⟨y.env, A, y.src⟩ msg := by
        have hhandle : s.handle blake2b ⟨y.env, A, y.src⟩ = s.registered ⟨y.env, A, y.src⟩ msg :=
          handle_of_registers hr
        rw [← hhandle]
        show (s.receive blake2b y.env y.sender y.src).state = _
        rw [receive_eq hsender hb]
        rfl
      rw [hstep] at h
      rcases lookup_addServer_self y.env { s with
        challenges := (s.challenges.remove A (y.env.now 1)).2 } A (.new msg) with ⟨i, hi⟩ | ⟨hnone, -⟩
      · exact ⟨i, rfl, hsender, hb, hr, Option.some.inj (h.symm.trans hi)⟩
      · cases hnone.symm.trans h
  · exact Or.inr (lookup_turn hz h)

/-- The entry of a challenge was there before the event, or is issued by it. -/
theorem issued_turn {z : Event Addr} (h : (s.turn blake2b z).challenges.lookup A = some c) :
    IssuesTo blake2b s z A c ∨ s.challenges.lookup A = some c := by
  cases z with
  | reload host cfg => exact Or.inr (updateConfig_challenges host s cfg h)
  | arrival y =>
    replace h : (s.step blake2b y).challenges.lookup A = some c := h
    rcases step_cases blake2b s y with hs | ⟨peer, hp, hb, hs⟩
    · rw [hs] at h
      exact Or.inr h
    · rw [hs] at h
      rcases challenge_created (handle_effect blake2b s ⟨y.env, peer, y.src⟩) h with hold | hnew
      · exact Or.inr hold
      · obtain rfl : peer = A := hnew.peer
        obtain ⟨m, hm⟩ := hnew.decoded
        refine Or.inl ⟨y, m, rfl, hp, hb, hnew, ?_⟩
        have hfor : s.challengeFor ⟨y.env, peer, y.src⟩ = c := by
          unfold challengeFor
          rw [show s.challenges.view (y.env.now 0) peer = none from hnew.vacant, hnew.entry]
          rfl
        rw [receive_challenge hp hb hm, hfor]

/-- A server was registered by its address. -/
theorem registered_of_lookup (h0 : s.servers.lookup A = none) (xs : List (Event Addr))
    (h : (exec (turn blake2b) s xs).servers.lookup A = some e) :
    ∃ ys y zs c, xs = ys ++ y :: zs ∧ RegistersAs (exec (turn blake2b) s ys) y A c e := by
  obtain ⟨ys, y, zs, hxs, ⟨c, hc⟩, -⟩ := @exec_provenance _ _ (turn blake2b) s _
    (fun s => s.servers.lookup A) (fun s y e => ∃ c, RegistersAs s y A c e) (fun _ _ _ => True) h0
    (fun s y e he => (registered_turn he).imp_right fun h => ⟨h, trivial⟩) xs e h
  exact ⟨ys, y, zs, c, hxs, hc⟩

/-- A challenge was issued to its address. -/
theorem issued_of_lookup (h0 : s.challenges.lookup A = none) (xs : List (Event Addr))
    (h : (exec (turn blake2b) s xs).challenges.lookup A = some c) :
    ∃ ys y zs, xs = ys ++ y :: zs ∧ IssuesTo blake2b (exec (turn blake2b) s ys) y A c := by
  obtain ⟨ys, y, zs, hxs, hc, -⟩ := @exec_provenance _ _ (turn blake2b) s _
    (fun s => s.challenges.lookup A) (fun s y c => IssuesTo blake2b s y A c) (fun _ _ _ => True) h0
    (fun s y c hc => (issued_turn hc).imp_right fun h => ⟨h, trivial⟩) xs c h
  exact ⟨ys, y, zs, hxs, hc⟩

/-- The handshake of a server in a run: a challenge was issued to its address and then presented by
it, and `e` is the entry the registration made. -/
def Handshake (blake2b : HashConfig → Bytes → Bytes) (run : List (Event Addr) → MasterServer Addr Ip)
    (xs : List (Event Addr)) (A : Addr) (e : Timed ServerInfo) : Prop :=
  ∃ us u vs y zs c, xs = us ++ u :: vs ++ y :: zs ∧ IssuesTo blake2b (run us) u A c ∧
    RegistersAs (run (us ++ u :: vs)) y A c e

/-- Every entry of a server comes from a handshake. -/
theorem handshake_of_lookup (hservers : s.servers.lookup A = none)
    (hchallenges : s.challenges.lookup A = none) {xs : List (Event Addr)}
    (h : (exec (turn blake2b) s xs).servers.lookup A = some e) :
    Handshake blake2b (exec (turn blake2b) s) xs A e := by
  obtain ⟨ys, y, zs, c, rfl, hreg⟩ := registered_of_lookup hservers xs h
  obtain ⟨us, u, vs, rfl, hissued⟩ := issued_of_lookup hchallenges ys hreg.challenge
  exact ⟨us, u, vs, y, zs, c, rfl, hissued, hreg⟩

end Provenance

/-! ## Nobody else is sent anything -/

/-- The loop drops a packet, or handles it. -/
theorem receive_cases (blake2b : HashConfig → Bytes → Bytes) (s : MasterServer Addr Ip)
    (x : Arrival Addr) : s.receive blake2b x.env x.sender x.src = .done s ∨
      ∃ peer, x.sender = wrap peer ∧ ip peer ∉ s.blocklist ∧
        s.receive blake2b x.env x.sender x.src = s.handlePacket blake2b x.env peer x.src := by
  cases hx : (extract x.sender : Option Addr) with
  | none =>
    refine Or.inl ?_
    unfold receive
    rw [hx]
  | some peer =>
    have hp : x.sender = wrap peer := (extract_eq_some.1 hx).symm
    by_cases hb : ip peer ∈ s.blocklist
    · refine Or.inl ?_
      unfold receive
      rw [hx]
      exact if_pos (by simpa [isBlocked] using hb)
    · exact Or.inr ⟨peer, hp, hb, receive_eq hp hb⟩

/-- What a packet makes the loop send. -/
theorem replies_of_mem_receive {x : Arrival Addr} {d : Datagram Addr}
    (hd : d ∈ (s.receive blake2b x.env x.sender x.src).sent) :
    ∃ peer, x.sender = wrap peer ∧ ip peer ∉ s.blocklist ∧
      Replies s (⟨x.env, peer, x.src⟩ : Packet Addr) d := by
  rcases receive_cases blake2b s x with h | ⟨peer, hp, hb, h⟩ <;> rw [h] at hd
  · cases hd
  · exact ⟨peer, hp, hb, replies_of_mem (x := ⟨x.env, peer, x.src⟩) hd⟩

/-- A packet that is no query for servers makes the loop send one datagram at most. -/
theorem length_sent_receive_le {x : Arrival Addr}
    (hq : ¬ QueryServers.header.isPrefixOf x.src = true) :
    (s.receive blake2b x.env x.sender x.src).sent.length ≤ 1 := by
  rcases receive_cases blake2b s x with h | ⟨peer, -, -, h⟩ <;> rw [h]
  · exact Nat.zero_le 1
  · have hdispatch : dispatch x.src ≠ some .gameQueryServers := by
      unfold dispatch
      split_ifs <;> simp
    rcases single_handlePacket blake2b s ⟨x.env, peer, x.src⟩ hdispatch with hsent | ⟨d, hsent, -⟩
    · rw [hsent]
      exact Nat.zero_le 1
    · rw [hsent]
      exact le_rfl

/-- A reply fits the buffer of the sender's family, and goes to the sender, or announces it. -/
theorem Replies.cases_dest {d : Datagram Addr} (h : Replies s x d) :
    d.dest = x.peer ∧ d.packet.length ≤ mtu Addr ∨
    d.packet = (ClientAnnounce.mk (wrap x.peer)).wire ∧ ∃ query e, Asks s x query ∧
      s.isQueryServersValid query = true ∧ Selects s (x.env.now 2) query d.dest e ∧
      e.value.flags.contains FilterFlags.nat = true := by
  have hmtu : 48 ≤ mtu Addr := le_mtu
  cases h with
  | challenge msg hm =>
    refine Or.inl ⟨rfl, (?_ : (ChallengeResponse.wire _).length ≤ 32).trans (by omega)⟩
    have hheader : ChallengeResponse.header.length = 6 := by decide
    unfold ChallengeResponse.wire
    cases msg.serverChallenge <;> simp [hheader]
  | list query hask hvalid parts part hpart hparts hfits => exact Or.inl ⟨rfl, hfits⟩
  | fake query hask hvalid => exact Or.inl ⟨rfl, length_fakePage_le Addr _ _⟩
  | announce query hask hvalid A e he hnat hfilter =>
    exact Or.inr ⟨rfl, query, e, hask, hvalid, he, hnat⟩
  | info msg hanswers hfits => exact Or.inl ⟨rfl, hfits⟩
  | adminChallenge e hissues =>
    refine Or.inl ⟨rfl, (?_ : (AdminChallengeResponse.wire _).length ≤ 32).trans (by omega)⟩
    have hheader : AdminChallengeResponse.header.length = 18 := by decide
    unfold AdminChallengeResponse.wire
    simp [hheader]

/-- Nobody is sent anything but the sender of a packet, who is not banned, and servers that are not
banned either, have completed a handshake and are behind NAT: the client of an accepted query that
selects such a server is announced to it. A packet that is no query for servers is answered with one
datagram at most. -/
theorem sends_to_sender_or_registered (blake2b : HashConfig → Bytes → Bytes) (cfg : MasterConfig)
    (sock updateAddr : SocketAddr) (xs : List (Event Addr)) (x : Arrival Addr) :
    let run := fun xs => exec (turn blake2b) (init cfg sock updateAddr : MasterServer Addr Ip) xs
    let s := run xs
    let sent := (s.receive blake2b x.env x.sender x.src).sent
    (∀ d ∈ sent, ip d.dest ∉ s.blocklist ∧
      (x.sender = wrap d.dest ∧ d.packet.length ≤ mtu Addr ∨
        d.packet = (ClientAnnounce.mk x.sender).wire ∧ ∃ query e,
          QueryServers.decode x.src = .ok query ∧ s.isQueryServersValid query = true ∧
          Selects s (x.env.now 2) query d.dest e ∧
          e.value.flags.contains FilterFlags.nat = true ∧ Handshake blake2b run xs d.dest e)) ∧
    (sent.length ≤ 1 ∨ QueryServers.header.isPrefixOf x.src = true) := by
  intro run s sent
  constructor
  · intro d hd
    obtain ⟨peer, hp, hb, hreplies⟩ := replies_of_mem_receive hd
    rcases hreplies.cases_dest with ⟨hdest, hlength⟩ | ⟨hann, query, e, hask, hvalid, he, hnat⟩
    · rw [hdest]
      exact ⟨hb, Or.inl ⟨hp, hlength⟩⟩
    · have hlookup := (TimedHashMap.view_eq_some.1 he.unexpired).1
      refine ⟨noneBanned_run blake2b cfg sock updateAddr xs _ e hlookup, Or.inr ?_⟩
      rw [hp]
      exact ⟨hann, query, e, hask.decoded, hvalid, he, hnat, handshake_of_lookup rfl rfl hlookup⟩
  · by_cases hq : QueryServers.header.isPrefixOf x.src = true
    · exact Or.inr hq
    · exact Or.inl (length_sent_receive_le hq)

/-! ## No reply is a request -/

/-- The headers of the packets a master sends. -/
def replyHeaders : List Bytes :=
  [ChallengeResponse.header, QueryServersResponse.header, ClientAnnounce.header,
    GetServerInfoResponse.header, AdminChallengeResponse.header]

/-- The headers of the packets it handles. -/
def requestHeaders : List Bytes :=
  [Challenge.header, ServerAdd.header, ServerRemove.header, QueryServers.header,
    GetServerInfo.header, AdminChallenge.header, AdminCommand.header]

theorem Replies.header {d : Datagram Addr} (h : Replies s x d) :
    ∃ header ∈ replyHeaders, header <+: d.packet := by
  have hpage : ∀ {S : Type} [ServerAddress S] (key : Option UInt32) (part : List S),
      QueryServersResponse.header <+: page key part := fun key part =>
    (List.prefix_append _ _).trans (List.prefix_append _ _)
  cases h with
  | challenge msg hm => exact ⟨ChallengeResponse.header, by simp [replyHeaders], List.prefix_append _ _⟩
  | list query hask hvalid parts part hpart hparts hfits =>
    exact ⟨QueryServersResponse.header, by simp [replyHeaders], hpage _ _⟩
  | fake query hask hvalid =>
    refine ⟨QueryServersResponse.header, by simp [replyHeaders], ?_⟩
    cases s.updateAddr <;> exact hpage _ _
  | announce query hask hvalid A e he hnat hfilter =>
    exact ⟨ClientAnnounce.header, by simp [replyHeaders], List.prefix_append _ _⟩
  | info msg hanswers hfits =>
    exact ⟨GetServerInfoResponse.header, by simp [replyHeaders], List.prefix_append _ _⟩
  | adminChallenge e hissues =>
    exact ⟨AdminChallengeResponse.header, by simp [replyHeaders], List.prefix_append _ _⟩

/-- A packet with the header of a reply is dispatched to no handler. -/
theorem dispatch_of_header {header packet : Bytes} (h : header ∈ replyHeaders)
    (hp : header <+: packet) : dispatch packet = none := by
  have hdisjoint : ∀ h ∈ replyHeaders, ∀ h' ∈ requestHeaders, ¬ h <+: h' ∧ ¬ h' <+: h := by
    decide +kernel
  have hno : ∀ h' ∈ requestHeaders, ¬ h'.isPrefixOf packet = true := fun h' hh' =>
    not_isPrefixOf (hdisjoint header h h' hh') (List.isPrefixOf_iff_prefix.2 hp)
  simp only [requestHeaders, List.mem_cons, List.not_mem_nil, or_false, forall_eq_or_imp,
    forall_eq] at hno
  obtain ⟨h1, h2, h3, h4, h5, h6, h7⟩ := hno
  unfold dispatch
  rw [if_neg h1, if_neg h2, if_neg h3, if_neg h4, if_neg h5, if_neg h6, if_neg h7]

/-- No master answers what a master sends, nor is changed by it: whatever senders are made up, masters
do not keep each other busy. -/
theorem replies_unanswered {Addr' Ip' : Type} [AddrExt Addr' Ip'] [DecidableEq Addr']
    [DecidableEq Ip'] (blake2b : HashConfig → Bytes → Bytes) (s : MasterServer Addr Ip)
    (x : Arrival Addr) (s' : MasterServer Addr' Ip') (y : Arrival Addr')
    (hy : ∃ d ∈ (s.receive blake2b x.env x.sender x.src).sent, y.src = d.packet) :
    (s'.receive blake2b y.env y.sender y.src).sent = [] ∧
      (s'.receive blake2b y.env y.sender y.src).state = s' := by
  obtain ⟨d, hd, hsrc⟩ := hy
  obtain ⟨peer, -, -, hreplies⟩ := replies_of_mem_receive hd
  obtain ⟨header, hheader, hprefix⟩ := hreplies.header
  rcases receive_cases blake2b s' y with h | ⟨peer', -, -, h⟩ <;> rw [h]
  · exact ⟨rfl, rfl⟩
  · rw [handlePacket_eq, hsrc, dispatch_of_header hheader hprefix]
    exact ⟨rfl, rfl⟩

/-- The pair of challenges of an admin, sent to another master. -/
theorem replies_unanswered_admin :
    let host : SocketAddrV4 := ⟨⟨⟨[10, 0, 0, 1], rfl⟩⟩, 27010⟩
    let s : MasterServer SocketAddrV4 Ipv4Addr := init {} (.v4 host) (.v4 host)
    let y : Arrival SocketAddrV4 :=
      ⟨.steady ⟨0⟩ fun _ => 0, .v4 host, AdminChallengeResponse.wire ⟨7, 7⟩⟩
    (s.receive (fun _ _ => []) y.env y.sender y.src).sent = [] ∧
      (s.receive (fun _ _ => []) y.env y.sender y.src).state = s := by
  intro host s y
  exact replies_unanswered _ s ⟨.steady ⟨0⟩ fun _ => 7, .v4 host, AdminChallenge.header⟩ s y
    ⟨⟨host, y.src⟩, by decide +kernel, rfl⟩

end Xash3d.MasterServer
