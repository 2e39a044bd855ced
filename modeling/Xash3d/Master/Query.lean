import Xash3d.Master.Run

/-!
# Server lists

What a client is sent for a query. `sendServerList_eq` cuts a list into pages, whatever its length,
and `sent_sends` says what arrives of them; a query is answered with the pages of the servers it
selects and an announcement of the client to those of them behind NAT (`query_answered`).
-/

namespace Xash3d

open Lib AddrExt

/-! ## Sending several datagrams -/

section Sends

variable {Addr : Type}

/-- Send datagrams until one of them fails. -/
def sends (env : Env Addr) : List (Datagram Addr) → Send Addr Unit
  | [] => pure ()
  | d :: ds => do
    sendTo env d.packet d.dest
    sends env ds

variable (env : Env Addr) (ds : List (Datagram Addr)) (sent : List (Datagram Addr))

theorem sends_append (ds' : List (Datagram Addr)) :
    sends env (ds ++ ds') = (sends env ds >>= fun _ => sends env ds') := by
  induction ds with
  | nil => rfl
  | cons d ds ih =>
    show (sendTo env d.packet d.dest >>= fun _ => sends env (ds ++ ds')) =
      (sendTo env d.packet d.dest >>= fun _ => sends env ds) >>= fun _ => sends env ds'
    rw [ih, bind_assoc]

/-- A datagram is sent, or nothing is. -/
theorem sendTo_cases (packet : Bytes) (dest : Addr) :
    sendTo env packet dest sent = .ok () (sent ++ [⟨dest, packet⟩]) ∨
      sendTo env packet dest sent = .error .io sent := by
  unfold sendTo
  split_ifs
  · exact Or.inl rfl
  · exact Or.inr rfl

/-- What was sent is a prefix of what was to be sent. -/
theorem sends_cases :
    sends env ds sent = .ok () (sent ++ ds) ∨
      ∃ ds', ds' <+: ds ∧ sends env ds sent = .error .io (sent ++ ds') := by
  induction ds generalizing sent with
  | nil => exact Or.inl (by rw [List.append_nil]; rfl)
  | cons d ds ih =>
    have hbind : sends env (d :: ds) sent =
        EStateM.bind (sendTo env d.packet d.dest) (fun _ => sends env ds) sent := rfl
    rw [hbind, EStateM.bind]
    rcases sendTo_cases env sent d.packet d.dest with h | h <;> rw [h]
    · rcases ih (sent ++ [d]) with h' | ⟨ds', hp, h'⟩
      · exact Or.inl (by simpa using h')
      · exact Or.inr ⟨d :: ds', List.cons_prefix_cons.2 ⟨rfl, hp⟩, by simpa using h'⟩
    · exact Or.inr ⟨[], List.nil_prefix, by simp⟩

/-- Everything is sent when the socket takes every datagram. -/
theorem sends_ok (h : ∀ n, env.send n = true) : sends env ds sent = .ok () (sent ++ ds) := by
  induction ds generalizing sent with
  | nil => rw [List.append_nil]; rfl
  | cons d ds ih =>
    have hd : sendTo env d.packet d.dest sent = .ok () (sent ++ [d]) := if_pos (h _)
    have hbind : sends env (d :: ds) sent =
        EStateM.bind (sendTo env d.packet d.dest) (fun _ => sends env ds) sent := rfl
    rw [hbind, EStateM.bind, hd]
    simpa using ih (sent ++ [d])

variable {S : Type}

/-- What a reply has sent is a prefix of it. -/
theorem sent_sends (s : S) : (Outcome.reply s (sends env ds)).sent <+: ds := by
  unfold Outcome.reply
  rcases sends_cases env ds [] with h | ⟨ds', hp, h⟩ <;> rw [h]
  · exact List.prefix_refl ds
  · exact hp

theorem reply_sends (h : ∀ n, env.send n = true) (s : S) :
    Outcome.reply s (sends env ds) = ⟨s, ds, .ok ()⟩ := by
  unfold Outcome.reply
  rw [sends_ok env ds [] h]
  rfl

end Sends

namespace MasterServer

/-! ## Pages -/

section Pages

variable {Addr Ip : Type} [AddrExt Addr Ip] {S : Type} [ServerAddress S]

open QueryServersResponse in
/-- A packet with a part of a server list. -/
def page (key : Option UInt32) (part : List S) : Bytes := headerWire key ++ pageWire part

/-- The addresses a client reads from a packet. -/
def addresses (S : Type) [ServerAddress S] (packet : Bytes) : List S :=
  match QueryServersResponse.decode packet with
  | .ok r => r.iter S
  | .error _ => []

/-- The packet is a server list with a key. -/
def HasKey (k : UInt32) (packet : Bytes) : Prop :=
  ∃ r, QueryServersResponse.decode packet = .ok r ∧ r.key = some k

theorem hasKey_page (k : UInt32) (part : List S) : HasKey k (page (some k) part) :=
  ⟨_, QueryServersResponse.decode_some k _, rfl⟩

theorem addresses_page (k : UInt32) (part : List S) :
    addresses S (page (some k) part) = part.map ServerAddress.seen := by
  unfold addresses page
  rw [QueryServersResponse.decode_some]
  exact QueryServersResponse.iter_page _ part

theorem addresses_pages (k : UInt32) (parts : List (List S)) :
    (parts.map (page (some k))).flatMap (addresses S) = parts.flatten.map ServerAddress.seen := by
  induction parts with
  | nil => rfl
  | cons part parts ih =>
    rw [List.map_cons, List.flatMap_cons, addresses_page, ih, List.flatten_cons, List.map_append]

/-- One turn of the loop. -/
theorem sendServerList_encoded (env : Env Addr) (dest : Addr) {key : Option UInt32}
    {servers : List S} {packet : Bytes} {count : ℕ}
    (h : (QueryServersResponse.new key).encode (mtu Addr) servers = .ok (packet, count)) :
    sendServerList env dest key servers = (sendTo env packet dest >>= fun _ =>
      if count ≥ servers.length then pure ()
      else sendServerList env dest key (servers.drop count)) := by
  funext sent
  have hbind : ∀ f : Unit → Send Addr Unit,
      (sendTo env packet dest >>= f) sent = EStateM.bind (sendTo env packet dest) f sent :=
    fun _ => rfl
  rw [sendServerList, h, hbind, EStateM.bind]
  dsimp only
  rcases sendTo_cases env sent packet dest with hs | hs <;> rw [hs]
  dsimp only
  split_ifs <;> rfl

/-- A single address takes one packet. -/
theorem sendServerList_singleton (env : Env Addr) (dest : Addr) (key : Option UInt32) (a : S) :
    sendServerList env dest key [a] = sends env [⟨dest, page key [a]⟩] := by
  obtain ⟨count, henc, hle, hpos, -⟩ :=
    QueryServersResponse.encode_spec key [a] (room_le_mtu Addr S)
  obtain rfl : count = 1 := le_antisymm hle (hpos (by simp))
  rw [sendServerList_encoded env dest henc, if_pos (by simp)]
  rfl

/-- A list is cut into parts that fit a buffer, and sent one part after another. A part is empty only
if the list is. -/
theorem sendServerList_eq (Addr : Type) {Ip : Type} [AddrExt Addr Ip] (key : Option UInt32)
    (servers : List S) :
    ∃ parts : List (List S), parts.flatten = servers ∧
      (∀ part ∈ parts, (page key part).length ≤ mtu Addr) ∧ ([] ∈ parts → servers = []) ∧
      ∀ (env : Env Addr) (dest : Addr), sendServerList env dest key servers =
        sends env (parts.map fun part => ⟨dest, page key part⟩) := by
  induction h : servers.length using Nat.strong_induction_on generalizing servers with
  | _ n ih =>
    obtain ⟨count, henc, hle, hpos, hfit⟩ :=
      QueryServersResponse.encode_spec key servers (room_le_mtu Addr S)
    by_cases hc : count ≥ servers.length
    · refine ⟨[servers], by simp, ?_, fun hnil => (List.mem_singleton.1 hnil).symm, ?_⟩
      · rw [List.take_of_length_le hc] at hfit
        simpa [page] using hfit
      · intro env dest
        rw [List.take_of_length_le hc] at henc
        rw [sendServerList_encoded env dest henc, if_pos hc]
        rfl
    · obtain ⟨parts, hflat, hfits, hempty, hsend⟩ :=
        ih (servers.drop count).length (h ▸ drop_count_lt henc hc) (servers.drop count) rfl
      refine ⟨servers.take count :: parts, ?_, ?_, ?_, ?_⟩
      · rw [List.flatten_cons, hflat, List.take_append_drop]
      · intro part hpart
        rcases List.mem_cons.1 hpart with rfl | hpart
        · exact hfit
        · exact hfits part hpart
      · intro hnil
        rcases List.mem_cons.1 hnil with htake | hnil
        · by_contra hne
          have hcount := hpos hne
          rcases List.take_eq_nil_iff.1 htake.symm with hzero | hzero
          · omega
          · exact hne hzero
        · exact absurd (List.drop_eq_nil_iff.1 (hempty hnil)) hc
      · intro env dest
        rw [sendServerList_encoded env dest henc, if_neg hc, hsend]
        rfl

/-- The packets of a list with a key. -/
theorem exists_packets (Addr : Type) {Ip : Type} [AddrExt Addr Ip] (k : UInt32)
    (servers : List S) :
    ∃ packets : List Bytes, (∀ p ∈ packets, p.length ≤ mtu Addr ∧ HasKey k p) ∧
      packets.flatMap (addresses S) = servers.map ServerAddress.seen ∧
      ∀ (env : Env Addr) (dest : Addr), sendServerList env dest (some k) servers =
        sends env (packets.map (⟨dest, ·⟩)) := by
  obtain ⟨parts, hflat, hfits, -, hsend⟩ := sendServerList_eq Addr (some k) servers
  refine ⟨parts.map (page (some k)), ?_, ?_, ?_⟩
  · intro p hp
    obtain ⟨part, hpart, rfl⟩ := List.mem_map.1 hp
    exact ⟨hfits part hpart, hasKey_page k part⟩
  · rw [addresses_pages, hflat]
  · intro env dest
    rw [hsend, List.map_map]
    rfl

/-- A server list of any length is sent in packets that fit the buffer, decode to the key and hold
the whole list, in order. -/
theorem server_list_paged (k : UInt32) :
    (∀ servers : List SocketAddrV4, ∃ packets : List Bytes,
      (∀ p ∈ packets, p.length ≤ 512 ∧ HasKey k p) ∧
      packets.flatMap (addresses SocketAddrV4) = servers ∧
      ∀ (env : Env SocketAddrV4) (dest : SocketAddrV4),
        sendServerList env dest (some k) servers = sends env (packets.map (⟨dest, ·⟩)) ∧
        ((∀ n, env.send n = true) → ∀ sent, sendServerList env dest (some k) servers sent =
          .ok () (sent ++ packets.map (⟨dest, ·⟩)))) ∧
    ∀ servers : List SocketAddrV6, ∃ packets : List Bytes,
      (∀ p ∈ packets, p.length ≤ 1280 ∧ HasKey k p) ∧
      packets.flatMap (addresses SocketAddrV6) = servers.map SocketAddrV6.seen ∧
      ∀ (env : Env SocketAddrV6) (dest : SocketAddrV6),
        sendServerList env dest (some k) servers = sends env (packets.map (⟨dest, ·⟩)) ∧
        ((∀ n, env.send n = true) → ∀ sent, sendServerList env dest (some k) servers sent =
          .ok () (sent ++ packets.map (⟨dest, ·⟩))) := by
  constructor
  · intro servers
    obtain ⟨packets, hpackets, haddr, hsend⟩ := exists_packets SocketAddrV4 k servers
    refine ⟨packets, hpackets, haddr.trans (List.map_id servers), ?_⟩
    intro env dest
    refine ⟨hsend env dest, ?_⟩
    intro hok sent
    rw [hsend env dest, sends_ok env _ sent hok]
  · intro servers
    obtain ⟨packets, hpackets, haddr, hsend⟩ := exists_packets SocketAddrV6 k servers
    refine ⟨packets, hpackets, haddr, ?_⟩
    intro env dest
    refine ⟨hsend env dest, ?_⟩
    intro hok sent
    rw [hsend env dest, sends_ok env _ sent hok]

end Pages

/-! ## The servers of a query -/

section Selection

variable {Addr Ip : Type} [AddrExt Addr Ip] [DecidableEq Addr]
  {s : MasterServer Addr Ip} {env : Env Addr} {peer A : Addr} {query : QueryServers Filter}
  {version : Version} {t : RelativeTime} {e : Timed ServerInfo}

/-- A server that a query selects, with its entry. -/
structure Selects (s : MasterServer Addr Ip) (t : RelativeTime) (query : QueryServers Filter)
    (A : Addr) (e : Timed ServerInfo) : Prop where
  unexpired : s.servers.view t A = some e
  region : e.value.region = query.region
  filter : query.filter.matches e.value = true
  protocol : ∀ version, query.filter.clver = some version → version < .new 0 20 →
    e.value.protocol = 48

theorem isListed_iff {info : ServerInfo} :
    isListed query version info = true ↔ info.region = query.region ∧
      query.filter.matches info = true ∧ (version < .new 0 20 → info.protocol = 48) := by
  unfold isListed
  by_cases hr : info.region = query.region <;> by_cases hm : query.filter.matches info = true <;>
    by_cases hv : version < .new 0 20 <;> by_cases hp : info.protocol = 48 <;> simp [hr, hm, hv, hp]

omit [DecidableEq Addr] in
/-- The loop adds what it lists to the lists it starts from. -/
theorem filterServers_eq (query : QueryServers Filter) (version : Version)
    (servers : List (Addr × Timed ServerInfo)) : ∀ filtered nat : List Addr,
    filterServers query version servers filtered nat =
      (filtered ++ (servers.filter fun x => isListed query version x.2.value).map Prod.fst,
        nat ++ (servers.filter fun x => isListed query version x.2.value &&
          x.2.value.flags.contains FilterFlags.nat).map Prod.fst) := by
  induction servers with
  | nil => intro filtered nat; simp [filterServers]
  | cons x servers ih =>
    intro filtered nat
    obtain ⟨addr, info⟩ := x
    rw [filterServers]
    by_cases hl : isListed query version info.value = true
    · rw [if_pos hl, ih]
      by_cases hn : info.value.flags.contains FilterFlags.nat = true
      · simp [hl, hn]
      · simp [hl, hn]
    · rw [if_neg hl, ih]
      simp [hl]

omit [AddrExt Addr Ip] [DecidableEq Addr] in
/-- The iteration of the servers goes over each address once. -/
theorem nodup_order (env : Env Addr) (s : MasterServer Addr Ip) (t : RelativeTime) :
    ((env.order (s.servers.iter t)).map Prod.fst).Nodup :=
  ((env.order_perm _).map Prod.fst).nodup_iff.2 (TimedHashMap.nodup_keys s.servers t)

omit [AddrExt Addr Ip] in
theorem mem_order : (A, e) ∈ env.order (s.servers.iter t) ↔ s.servers.view t A = some e :=
  (env.order_perm _).mem_iff.trans TimedHashMap.mem_iter

omit [AddrExt Addr Ip] [DecidableEq Addr] in
/-- A selection from the iteration has each of its addresses once. -/
theorem nodup_selection (env : Env Addr) (s : MasterServer Addr Ip) (t : RelativeTime)
    (p : Addr × Timed ServerInfo → Bool) :
    (((env.order (s.servers.iter t)).filter p).map Prod.fst).Nodup :=
  (nodup_order env s t).sublist (List.filter_sublist.map _)

omit [AddrExt Addr Ip] in
theorem mem_selection (p : Addr × Timed ServerInfo → Bool) :
    A ∈ ((env.order (s.servers.iter t)).filter p).map Prod.fst ↔
      ∃ e, s.servers.view t A = some e ∧ p (A, e) = true := by
  simp only [List.mem_map, List.mem_filter]
  constructor
  · rintro ⟨⟨addr, e⟩, ⟨hmem, hp⟩, rfl⟩
    exact ⟨e, mem_order.1 hmem, hp⟩
  · rintro ⟨e, hv, hp⟩
    exact ⟨(A, e), ⟨mem_order.2 hv, hp⟩, rfl⟩

/-- A filter for servers that are not behind NAT lists none that is. -/
theorem nat_of_matches {f : Filter} {info : ServerInfo} (h : f.matches info = true)
    (hf : f.containsFlags FilterFlags.nat = some false) :
    info.flags.contains FilterFlags.nat = false := by
  have hflags : info.flags.inter f.flagsMask = f.flags := by
    unfold Filter.matches at h
    simp only [Bool.not_or, Bool.and_eq_true] at h
    simpa using h.1.1.1
  unfold Filter.containsFlags at hf
  split_ifs at hf with hmask
  have hfalse := Option.some.inj hf
  rw [← hflags] at hfalse
  unfold FilterFlags.nat at hmask hfalse ⊢
  rw [Flags.contains_single (by decide)] at hmask hfalse ⊢
  rw [Flags.has_inter, hmask, Bool.and_true] at hfalse
  exact hfalse

/-- The announcements of a client. -/
def announcements (peer : Addr) (servers : List Addr) : List (Datagram Addr) :=
  servers.map fun A => ⟨A, (ClientAnnounce.mk (wrap peer)).wire⟩

omit [DecidableEq Addr] in
theorem sendClientToNatServers_eq (env : Env Addr) (peer : Addr) (servers : List Addr) :
    sendClientToNatServers env peer servers = sends env (announcements peer servers) := by
  unfold sendClientToNatServers
  rw [ClientAnnounce.encode_eq]
  show servers.forM (sendTo env (ClientAnnounce.mk (wrap peer)).wire) = _
  induction servers with
  | nil => rfl
  | cons A servers ih =>
    show (sendTo env _ A >>= fun _ => servers.forM (sendTo env _)) = _
    rw [ih]
    rfl

omit [AddrExt Addr Ip] in
/-- The servers that a query with a version selects are the listed ones. -/
theorem selects_iff_isListed {s : MasterServer Addr Ip} {t : RelativeTime}
    {query : QueryServers Filter} {version : Version} (hversion : query.filter.clver = some version)
    (A : Addr) (e : Timed ServerInfo) : Selects s t query A e ↔
      s.servers.view t A = some e ∧ isListed query version e.value = true := by
  rw [isListed_iff]
  constructor
  · rintro ⟨hv, hr, hm, hp⟩
    exact ⟨hv, hr, hm, hp version hversion⟩
  · rintro ⟨hv, hr, hm, hp⟩
    refine ⟨hv, hr, hm, ?_⟩
    intro v hv'
    rw [hversion] at hv'
    cases hv'
    exact hp

/-- The servers of an accepted query and, unless the filter is against it, those behind NAT. -/
theorem handleGameQueryServers_valid (env : Env Addr) (s : MasterServer Addr Ip) (peer : Addr)
    (query : QueryServers Filter) (hvalid : s.isQueryServersValid query = true) :
    ∃ (s' : MasterServer Addr Ip) (listed nat : List Addr) (announced : Bool),
      s.handleGameQueryServers env peer query = .reply s' (do
        sendServerList env peer query.filter.key listed
        sends env (if announced then announcements peer nat else [])) ∧
      listed.Nodup ∧ (∀ A, A ∈ listed ↔ ∃ e, Selects s (env.now 2) query A e) ∧
      nat.Nodup ∧ (∀ A, A ∈ nat ↔ ∃ e, Selects s (env.now 2) query A e ∧
        e.value.flags.contains FilterFlags.nat = true) ∧ (announced = false → nat = []) := by
  obtain ⟨version, hversion⟩ : ∃ version, query.filter.clver = some version := by
    unfold isQueryServersValid at hvalid
    cases hc : query.filter.clver with
    | none => rw [hc] at hvalid; cases hvalid
    | some version => exact ⟨version, rfl⟩
  set listing := env.order (s.servers.iter (env.now 2)) with hlisting
  set listed := (listing.filter fun x => isListed query version x.2.value).map Prod.fst with hlisted
  set nat := (listing.filter fun x => isListed query version x.2.value &&
    x.2.value.flags.contains FilterFlags.nat).map Prod.fst with hnat
  set announced := (query.filter.containsFlags FilterFlags.nat).getD true with hannounced
  have hselects : ∀ A e, Selects s (env.now 2) query A e ↔
      s.servers.view (env.now 2) A = some e ∧ isListed query version e.value = true :=
    selects_iff_isListed hversion
  have hmem : ∀ A, A ∈ nat ↔ ∃ e, Selects s (env.now 2) query A e ∧
      e.value.flags.contains FilterFlags.nat = true := by
    intro A
    rw [hnat, mem_selection]
    simp only [hselects, Bool.and_eq_true, and_assoc]
  refine ⟨{ s with filteredServers := listed, filteredServersNat := nat }, listed, nat, announced,
    ?_, nodup_selection env s _ _, ?_, nodup_selection env s _ _, hmem, ?_⟩
  · unfold handleGameQueryServers
    dsimp only
    rw [hvalid, hversion, if_neg (by simp)]
    dsimp only
    rw [filterServers_eq, List.nil_append, List.nil_append]
    dsimp only
    rw [sendClientToNatServers_eq, ← hannounced]
    congr 3
    funext _
    cases announced <;> rfl
  · intro A
    rw [hlisted, mem_selection]
    simp only [hselects]
  · intro hoff
    have hcontains : query.filter.containsFlags FilterFlags.nat = some false := by
      rw [hannounced] at hoff
      cases hc : query.filter.containsFlags FilterFlags.nat with
      | none => rw [hc] at hoff; cases hoff
      | some v => rw [hc] at hoff; exact congrArg some hoff
    refine List.eq_nil_iff_forall_not_mem.2 ?_
    intro A hA
    obtain ⟨e, he, hn⟩ := (hmem A).1 hA
    rw [nat_of_matches he.filter hcontains] at hn
    cases hn

/-- The packet with an update address. -/
def fakePage (key : Option UInt32) : SocketAddr → Bytes
  | .v4 a => page key [a]
  | .v6 a => page key [a]

/-- A rejected query gets the update address. -/
theorem handleGameQueryServers_invalid (env : Env Addr) (s : MasterServer Addr Ip) (peer : Addr)
    (query : QueryServers Filter) (hvalid : s.isQueryServersValid query = false) :
    s.handleGameQueryServers env peer query =
      .reply (s.saveClientGamedir env peer query.filter.gamedir)
        (sends env [⟨peer, fakePage query.filter.key s.updateAddr⟩]) := by
  unfold handleGameQueryServers
  dsimp only
  rw [hvalid, if_pos (by simp)]
  cases s.updateAddr with
  | v4 a => exact congrArg _ (sendServerList_singleton env peer _ a)
  | v6 a => exact congrArg _ (sendServerList_singleton env peer _ a)

/-- A valid query is answered with the servers it selects, each of them once, and the client is
announced to those of them behind NAT, to each of them once. A query that is not valid is answered
with the update address. -/
theorem query_answered (s : MasterServer Addr Ip) (env : Env Addr) (peer : Addr)
    (query : QueryServers Filter) (k : UInt32) (hkey : query.filter.key = some k)
    (hsend : ∀ n, env.send n = true) :
    let out := s.handleGameQueryServers env peer query
    let announcement := (ClientAnnounce.mk (wrap peer)).wire
    out.result = .ok () ∧
    (s.isQueryServersValid query = true →
      ∃ (packets : List Bytes) (listed nat : List Addr),
        out.sent = packets.map (⟨peer, ·⟩) ++ nat.map (⟨·, announcement⟩) ∧
        (∀ p ∈ packets, HasKey k p) ∧
        packets.flatMap (addresses Addr) = listed.map ServerAddress.seen ∧
        listed.Nodup ∧ (∀ A, A ∈ listed ↔ ∃ e, Selects s (env.now 2) query A e) ∧
        nat.Nodup ∧ ∀ A, A ∈ nat ↔ ∃ e, Selects s (env.now 2) query A e ∧
          e.value.flags.contains FilterFlags.nat = true) ∧
    (s.isQueryServersValid query = false →
      ∃ packet, out.sent = [⟨peer, packet⟩] ∧ HasKey k packet ∧
        match s.updateAddr with
        | .v4 a => addresses SocketAddrV4 packet = [a]
        | .v6 a => addresses SocketAddrV6 packet = [a.seen]) := by
  intro out announcement
  cases hvalid : s.isQueryServersValid query with
  | true =>
    obtain ⟨s', listed, nat, announced, hout, hlisted, hmem, hnat, hnatMem, hoff⟩ :=
      handleGameQueryServers_valid env s peer query hvalid
    obtain ⟨packets, hpackets, haddr, hlist⟩ := exists_packets Addr k listed
    have hann : (if announced then announcements peer nat else []) = announcements peer nat := by
      cases announced
      · rw [hoff rfl]; rfl
      · rfl
    have hsent : out = ⟨s', packets.map (⟨peer, ·⟩) ++ announcements peer nat, .ok ()⟩ := by
      show s.handleGameQueryServers env peer query = _
      rw [hout, hann, hkey, hlist, ← sends_append, reply_sends env _ hsend]
    rw [hsent]
    refine ⟨rfl, fun _ => ?_, fun h => nomatch h⟩
    exact ⟨packets, listed, nat, rfl, fun p hp => (hpackets p hp).2, haddr, hlisted, hmem, hnat,
      hnatMem⟩
  | false =>
    have hsent := handleGameQueryServers_invalid env s peer query hvalid
    rw [reply_sends env _ hsend, hkey] at hsent
    have hout : out = _ := hsent
    rw [hout]
    refine ⟨rfl, (fun h => nomatch h), fun _ => ⟨_, rfl, ?_⟩⟩
    cases s.updateAddr with
    | v4 a => exact ⟨hasKey_page k [a], addresses_page k [a]⟩
    | v6 a => exact ⟨hasKey_page k [a], addresses_page k [a]⟩

/-- What is sent for a query: the update address, a page of servers, or an announcement to a
server. -/
theorem mem_sent_query {d : Datagram Addr}
    (h : d ∈ (s.handleGameQueryServers env peer query).sent) :
    s.isQueryServersValid query = false ∧ d = ⟨peer, fakePage query.filter.key s.updateAddr⟩ ∨
      (∃ part : List Addr, d = ⟨peer, page query.filter.key part⟩ ∧
        ∀ A ∈ part, ∃ e, s.servers.view (env.now 2) A = some e) ∨
      ∃ A e, d = ⟨A, (ClientAnnounce.mk (wrap peer)).wire⟩ ∧
        s.servers.view (env.now 2) A = some e := by
  cases hvalid : s.isQueryServersValid query with
  | true =>
    obtain ⟨s', listed, nat, announced, hout, -, hmem, -, hnatMem, -⟩ :=
      handleGameQueryServers_valid env s peer query hvalid
    obtain ⟨parts, hflat, -, -, hlist⟩ := sendServerList_eq Addr query.filter.key listed
    rw [hout, hlist, ← sends_append] at h
    rcases List.mem_append.1 ((sent_sends env _ s').subset h) with h | h
    · obtain ⟨part, hpart, rfl⟩ := List.mem_map.1 h
      refine Or.inr (Or.inl ⟨part, rfl, ?_⟩)
      intro A hA
      have hA : A ∈ listed := hflat ▸ List.mem_flatten.2 ⟨part, hpart, hA⟩
      obtain ⟨e, he⟩ := (hmem A).1 hA
      exact ⟨e, he.unexpired⟩
    · split_ifs at h
      · obtain ⟨A, hA, rfl⟩ := List.mem_map.1 h
        obtain ⟨e, he, -⟩ := (hnatMem A).1 hA
        exact Or.inr (Or.inr ⟨A, e, rfl, he.unexpired⟩)
      · cases h
  | false =>
    rw [handleGameQueryServers_invalid env s peer query hvalid] at h
    exact Or.inl ⟨rfl, List.mem_singleton.1 ((sent_sends env _ _).subset h)⟩

/-- A query for all servers of a region that has one. -/
theorem query_answered_one :
    let A : SocketAddrV4 := ⟨⟨⟨[10, 0, 0, 1], rfl⟩⟩, 27015⟩
    let client : SocketAddrV4 := ⟨⟨⟨[10, 0, 0, 2], rfl⟩⟩, 27005⟩
    let s : MasterServer SocketAddrV4 Ipv4Addr := init {} (.v4 A) (.v4 A)
    let s := { s with servers := s.servers.insert A (.new default) ⟨0⟩ ⟨0⟩ }
    let query : QueryServers Filter :=
      ⟨default, [], { (default : Filter) with clver := some (.new 0 21), key := some 5 }⟩
    ∃ packets : List Bytes,
      (s.handleGameQueryServers (.steady ⟨1⟩ fun _ => 0) client query).sent =
        packets.map (⟨client, ·⟩) ∧
      (∀ p ∈ packets, HasKey 5 p) ∧ A ∈ packets.flatMap (addresses SocketAddrV4) := by
  intro A client s s' query
  obtain ⟨packets, listed, nat, hsent, hkey, haddr, -, hlisted, -, hnat⟩ :=
    (query_answered s' (.steady ⟨1⟩ fun _ => 0) client query 5 rfl fun _ => rfl).2.1
      (by decide +kernel)
  have hempty : nat = [] := by
    refine List.eq_nil_iff_forall_not_mem.2 ?_
    intro B hB
    obtain ⟨e, he, hn⟩ := (hnat B).1 hB
    obtain ⟨rfl, rfl⟩ : B = A ∧ e = ⟨⟨0⟩, .new default⟩ := by
      have hmem := TimedHashMap.mem_iter.2 he.unexpired
      have hiter : s'.servers.iter ((Env.steady ⟨1⟩ fun _ => 0 : Env SocketAddrV4).now 2) =
        [(A, ⟨⟨0⟩, .new default⟩)] := by decide +kernel
      rw [hiter] at hmem
      simpa using hmem
    revert hn
    decide +kernel
  refine ⟨packets, by rw [hsent, hempty]; simp, hkey, ?_⟩
  have hA : A ∈ listed := (hlisted A).2 ⟨⟨⟨0⟩, .new default⟩, by decide +kernel, by decide +kernel,
    by decide +kernel, fun v hv h => absurd h (by cases hv; decide +kernel)⟩
  rw [haddr]
  exact List.mem_map.2 ⟨A, hA, rfl⟩

end Selection

end MasterServer

end Xash3d
