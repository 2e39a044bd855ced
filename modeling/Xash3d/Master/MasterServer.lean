import Xash3d.Master.Addr
import Xash3d.Master.Config
import Xash3d.Master.TimedHashMap
import Xash3d.Protocol.Net.Admin
import Xash3d.Protocol.Net.Game

/-!
# The master server

The state of a master server and its packet handlers. A handler takes the environment of the
packet (`Env`) and gives an `Outcome`: the state it leaves, the datagrams it has sent and its
result. The hash `blake2b` of admin passwords is a parameter.

`receive` is the body of the receive loop and `updateConfig` a reload of the configuration.
-/

namespace Xash3d

open Lib AddrExt

inductive Error where
  | bindSocket
  | protocol (e : ProtocolError)
  | io
  | adminChallengeNotFound
  | undefinedPacket
  | gameRateLimit (counter : UInt32)
  | adminRateLimit
  deriving DecidableEq

/-- Text of at most `n` bytes. -/
structure StrArr (n : ℕ) where
  bytes : Bytes
  fits : bytes.length ≤ n
  text : isUtf8 bytes = true
  deriving DecidableEq

def StrArr.new {n : ℕ} (s : Bytes) : Option (StrArr n) :=
  if h : s.length ≤ n ∧ isUtf8 s = true then some ⟨s, h.1, h.2⟩ else none

theorem StrArr.new_bytes {n : ℕ} (s : StrArr n) : StrArr.new s.bytes = some s :=
  dif_pos ⟨s.fits, s.text⟩

theorem StrArr.bytes_of_new {n : ℕ} {s : Bytes} {t : StrArr n} (h : StrArr.new s = some t) :
    t.bytes = s := by
  unfold StrArr.new at h
  split_ifs at h
  cases h
  rfl

def gamedirMaxSize : ℕ := 31

/-! ## Sending -/

/-- A datagram sent to an address. -/
structure Datagram (Addr : Type) where
  dest : Addr
  packet : Bytes
  deriving DecidableEq

/-- What happens around the server while it handles a packet. -/
structure Env (Addr : Type) where
  /-- The clock readings, in the order they are made. -/
  now : ℕ → RelativeTime
  /-- The random numbers, in the order they are drawn. -/
  rng : ℕ → UInt32
  /-- Whether the socket takes a datagram, by the number of those it took before. -/
  send : ℕ → Bool
  /-- The order in which the hash map of servers is iterated. -/
  order : List (Addr × Timed ServerInfo) → List (Addr × Timed ServerInfo)
  order_perm : ∀ l, (order l).Perm l

/-- An environment with one clock reading, in which every datagram is sent. -/
def Env.steady {Addr : Type} (t : RelativeTime) (rng : ℕ → UInt32) : Env Addr where
  now _ := t
  rng
  send _ := true
  order l := l
  order_perm := List.Perm.refl

/-- An action that sends datagrams; its state is what was sent so far. -/
abbrev Send (Addr : Type) := EStateM Error (List (Datagram Addr))

/-- What handling a packet did. -/
structure Outcome (S Addr : Type) where
  state : S
  sent : List (Datagram Addr)
  result : Except Error Unit

namespace Outcome

variable {S Addr : Type}

/-- Return without sending anything. -/
def done (s : S) : Outcome S Addr := ⟨s, [], .ok ()⟩

/-- Fail without sending anything. -/
def fail (s : S) (e : Error) : Outcome S Addr := ⟨s, [], .error e⟩

/-- Send datagrams in a state. -/
def reply (s : S) (m : Send Addr Unit) : Outcome S Addr :=
  match m [] with
  | .ok _ sent => ⟨s, sent, .ok ()⟩
  | .error e sent => ⟨s, sent, .error e⟩

@[simp] theorem state_reply (s : S) (m : Send Addr Unit) : (reply s m).state = s := by
  unfold reply
  split <;> rfl

end Outcome

section Send

variable {Addr : Type}

def sendTo (env : Env Addr) (packet : Bytes) (dest : Addr) : Send Addr Unit := fun sent =>
  if env.send sent.length then .ok () (sent ++ [⟨dest, packet⟩]) else .error .io sent

/-- The packet an encoder produced, or its error. -/
def encoded {α : Type} (r : Except ProtocolError α) : Send Addr α := fun sent =>
  match r with
  | .ok packet => .ok packet sent
  | .error e => .error (.protocol e) sent

/-- Encode a response and send it. -/
def respond (env : Env Addr) (r : Except ProtocolError Bytes) (dest : Addr) : Send Addr Unit := do
  let packet ← encoded r
  sendTo env packet dest

end Send

/-! ## The server -/

structure MasterServer (Addr Ip : Type) where
  cfg : MasterConfig
  /-- The local address of the socket. -/
  sock : SocketAddr
  challenges : TimedHashMap Addr UInt32
  servers : TimedHashMap Addr ServerInfo
  adminChallenges : TimedHashMap Ip (UInt32 × UInt32)
  /-- Rate limit if the hash is invalid. -/
  adminLimit : TimedHashMap Ip Unit
  updateAddr : SocketAddr
  updateGamedir : TimedHashMap Addr (StrArr gamedirMaxSize)
  clientRateLimit : TimedHashMap Ip UInt32
  blocklist : Finset Ip
  filteredServers : List Addr
  filteredServersNat : List Addr

/-- A counter that stays at its maximum. -/
def saturatingAdd (a b : UInt32) : UInt32 := UInt32.ofNat (min (a.toNat + b.toNat) 0xffffffff)

namespace MasterServer

variable {Addr Ip : Type}

/-- A server without entries. -/
def init (cfg : MasterConfig) (sock updateAddr : SocketAddr) : MasterServer Addr Ip where
  cfg
  sock
  challenges := .new cfg.server.timeout.challenge
  servers := .new cfg.server.timeout.server
  updateAddr
  updateGamedir := .new 5
  clientRateLimit := .new 1
  adminChallenges := .new cfg.server.timeout.challenge
  adminLimit := .new cfg.server.timeout.admin
  blocklist := ∅
  filteredServers := []
  filteredServersNat := []

variable [AddrExt Addr Ip] [DecidableEq Addr] [DecidableEq Ip]

/-! ### Challenges and servers -/

def serverChallengeAdd (env : Env Addr) (s : MasterServer Addr Ip) (addr : Addr) :
    UInt32 × MasterServer Addr Ip :=
  let (entry, challenges) := s.challenges.orInsert addr (env.now 0) (env.now 1) (env.rng 0)
  (entry.value, { s with challenges })

def serverChallengeGet (env : Env Addr) (s : MasterServer Addr Ip) (addr : Addr) :
    Option UInt32 :=
  (s.challenges.get addr (env.now 0)).map Timed.value

def handleServerChallenge (env : Env Addr) (s : MasterServer Addr Ip) (peer : Addr)
    (msg : Challenge) : Outcome (MasterServer Addr Ip) Addr :=
  let (challenge, s) := s.serverChallengeAdd env peer
  let resp : ChallengeResponse := ⟨challenge, msg.serverChallenge⟩
  .reply s (respond env (resp.encode 32) peer)

/-- The valid entries of an IP address. -/
def serversOf (s : MasterServer Addr Ip) (now : RelativeTime) (i : Ip) : List Addr :=
  (s.servers.keys now).filter fun a => ip a = i

def countServers (s : MasterServer Addr Ip) (now : RelativeTime) (i : Ip) : UInt16 :=
  UInt16.ofNat (s.serversOf now i).length

def addServer (env : Env Addr) (s : MasterServer Addr Ip) (addr : Addr) (server : ServerInfo) :
    MasterServer Addr Ip :=
  match s.servers.entry addr (env.now 2) with
  | (some _, servers) => { s with servers := servers.entryInsert addr ⟨env.now 3, server⟩ }
  | (none, servers) =>
    let s := { s with servers }
    if s.countServers (env.now 3) (ip addr) ≥ s.cfg.server.maxServersPerIp then s
    else { s with servers := s.servers.insert addr server (env.now 4) (env.now 5) }

def handleServerAdd (env : Env Addr) (s : MasterServer Addr Ip) (peer : Addr) (msg : ServerAdd) :
    Outcome (MasterServer Addr Ip) Addr :=
  if msg.version < s.cfg.server.minVersion then .done s
  else match s.serverChallengeGet env peer with
    | none => .done s
    | some challenge =>
      if msg.challenge ≠ challenge then .done s
      else
        let (removed, challenges) := s.challenges.remove peer (env.now 1)
        let s := { s with challenges }
        if removed.isSome then .done (s.addServer env peer (.new msg)) else .done s

/-- A removal is counted and otherwise ignored. -/
def handleServerRemove (s : MasterServer Addr Ip) (_peer : Addr) :
    Outcome (MasterServer Addr Ip) Addr := .done s

/-! ### Game requests -/

def allowGameRequest (env : Env Addr) (s : MasterServer Addr Ip) (peer : Addr) :
    Except Error Unit × MasterServer Addr Ip :=
  if s.cfg.server.clientRateLimit > 0 then
    let (counter, limits) := s.clientRateLimit.orInsert (ip peer) (env.now 0) (env.now 1) 0
    let counter := { counter with value := saturatingAdd counter.value 1 }
    let s := { s with clientRateLimit := limits.entryInsert (ip peer) counter }
    if counter.value > s.cfg.server.clientRateLimit then
      (.error (.gameRateLimit counter.value), s)
    else (.ok (), s)
  else (.ok (), s)

def isBuildnumValid (query : QueryServers Filter) (min : UInt32) : Bool :=
  if min = 0 then true
  else match query.filter.clientBuildnum with
    | none => false
    | some buildnum => if buildnum < min then false else true

def isQueryServersValid (s : MasterServer Addr Ip) (query : QueryServers Filter) : Bool :=
  match query.filter.clver with
  | none => false -- clver field is required
  | some version =>
    if version < s.cfg.client.minVersion then false
    else
      let buildnumMin :=
        -- old engine has separate buildnum limit
        if version < .new 0 20 then s.cfg.client.minOldEngineBuildnum
        else s.cfg.client.minEngineBuildnum
      isBuildnumValid query buildnumMin

omit [DecidableEq Addr] [DecidableEq Ip] in
/-- A packet of a server list takes at least one of the addresses left. -/
theorem drop_count_lt {S : Type} [ServerAddress S] {key : Option UInt32} {servers : List S}
    {packet : Bytes} {count : ℕ}
    (h : (QueryServersResponse.new key).encode (mtu Addr) servers = .ok (packet, count))
    (hc : ¬ count ≥ servers.length) : (servers.drop count).length < servers.length := by
  obtain ⟨n, he, -, hpos, -⟩ :=
    QueryServersResponse.encode_spec key servers (room_le_mtu Addr S)
  rw [he] at h
  cases h
  have hne : servers ≠ [] := by rintro rfl; simp at hc
  have := hpos hne
  rw [List.length_drop]
  omega

/-- Send a list of servers, one packet after another. -/
def sendServerList {S : Type} [ServerAddress S] (env : Env Addr) (dest : Addr)
    (key : Option UInt32) (servers : List S) : Send Addr Unit := fun sent =>
  match _h : (QueryServersResponse.new key).encode (mtu Addr) servers with
  | .error e => .error (.protocol e) sent
  | .ok (packet, count) =>
    match sendTo env packet dest sent with
    | .error e sent => .error e sent
    | .ok _ sent =>
      if _hc : count ≥ servers.length then .ok () sent
      else sendServerList env dest key (servers.drop count) sent
termination_by servers.length
decreasing_by exact drop_count_lt _h _hc

def sendFakeServer (env : Env Addr) (peer : Addr) (key : Option UInt32)
    (updateAddr : SocketAddr) : Send Addr Unit :=
  match updateAddr with
  | .v4 addr => sendServerList env peer key [addr]
  | .v6 addr => sendServerList env peer key [addr]

/-- Announce a client to servers behind NAT. -/
def sendClientToNatServers (env : Env Addr) (peer : Addr) (servers : List Addr) :
    Send Addr Unit := do
  let packet ← encoded ((ClientAnnounce.mk (wrap peer)).encode 64)
  servers.forM (sendTo env packet)

def saveClientGamedir (env : Env Addr) (s : MasterServer Addr Ip) (peer : Addr)
    (gamedir : Option Bytes) : MasterServer Addr Ip :=
  match gamedir with
  | none => s
  | some gamedir =>
    match StrArr.new gamedir with
    | none => s
    | some gamedir =>
      { s with updateGamedir := s.updateGamedir.insert peer gamedir (env.now 2) (env.now 3) }

/-- A server is listed to a client of a version that sent a query. -/
def isListed (query : QueryServers Filter) (clientVersion : Version) (info : ServerInfo) : Bool :=
  -- skip if server does not match filter
  if info.region != query.region || !query.filter.matches info then false
  -- skip if client is 0.20 and server protocol is above 48
  else if clientVersion < .new 0 20 && info.protocol != 48 then false
  else true

/-- The loop over the servers: the addresses listed, and those of them behind NAT. -/
def filterServers (query : QueryServers Filter) (clientVersion : Version) :
    List (Addr × Timed ServerInfo) → List Addr → List Addr → List Addr × List Addr
  | [], filtered, nat => (filtered, nat)
  | (addr, info) :: servers, filtered, nat =>
    if isListed query clientVersion info.value then
      filterServers query clientVersion servers (filtered ++ [addr])
        (if info.value.flags.contains FilterFlags.nat then nat ++ [addr] else nat)
    else filterServers query clientVersion servers filtered nat

def handleGameQueryServers (env : Env Addr) (s : MasterServer Addr Ip) (peer : Addr)
    (query : QueryServers Filter) : Outcome (MasterServer Addr Ip) Addr :=
  let filter := query.filter
  if !s.isQueryServersValid query then
    .reply (s.saveClientGamedir env peer filter.gamedir)
      (sendFakeServer env peer filter.key s.updateAddr)
  else match filter.clver with
    | none => .done s -- checked in `isQueryServersValid`
    | some clientVersion =>
      let (filtered, nat) :=
        filterServers query clientVersion (env.order (s.servers.iter (env.now 2))) [] []
      .reply { s with filteredServers := filtered, filteredServersNat := nat } do
        sendServerList env peer filter.key filtered
        -- if NAT is not set in a filter then the client is announced by default
        if (filter.containsFlags FilterFlags.nat).getD true then
          sendClientToNatServers env peer nat

def handleGameGetServerInfo (env : Env Addr) (s : MasterServer Addr Ip) (peer : Addr)
    (msg : GetServerInfo) : Outcome (MasterServer Addr Ip) Addr :=
  let (gamedir, updateGamedir) := s.updateGamedir.remove peer (env.now 2)
  let resp : GetServerInfoResponse := { (default : GetServerInfoResponse) with
    map := s.cfg.client.updateMap
    host := s.cfg.client.updateTitle
    protocol := msg.protocol
    dm := true
    maxcl := 32
    gamedir := (gamedir.map fun g => g.value.bytes).getD (ascii "valve") }
  .reply { s with updateGamedir } (respond env (resp.encode (mtu Addr)) peer)

/-! ### Admin requests -/

def allowAdminRequest (env : Env Addr) (s : MasterServer Addr Ip) (peer : Addr) :
    Except Error Unit :=
  if (s.adminLimit.get (ip peer) (env.now 0)).isNone then .ok () else .error .adminRateLimit

def adminChallengeAdd (env : Env Addr) (s : MasterServer Addr Ip) (addr : Addr) :
    (UInt32 × UInt32) × MasterServer Addr Ip :=
  let x := env.rng 0
  let y := env.rng 1
  let adminChallenges := s.adminChallenges.insert (ip addr) (x, y) (env.now 1) (env.now 2)
  ((x, y), { s with adminChallenges })

def adminChallengeRemove (s : MasterServer Addr Ip) (addr : Addr) (now : RelativeTime) :
    MasterServer Addr Ip :=
  { s with adminChallenges := (s.adminChallenges.remove (ip addr) now).2 }

def handleAdminChallenge (env : Env Addr) (s : MasterServer Addr Ip) (peer : Addr) :
    Outcome (MasterServer Addr Ip) Addr :=
  let ((masterChallenge, hashChallenge), s) := s.adminChallengeAdd env peer
  let resp : AdminChallengeResponse := ⟨masterChallenge, hashChallenge⟩
  .reply s (respond env (resp.encode 64) peer)

def removeServersByIp (s : MasterServer Addr Ip) (i : Ip) (now : RelativeTime) :
    MasterServer Addr Ip :=
  { s with servers := s.servers.retain now fun addr v => if ip addr ≠ i then some v else none }

def banIp (s : MasterServer Addr Ip) (i : Ip) (now : RelativeTime) : MasterServer Addr Ip :=
  if i ∈ s.blocklist then s
  else { s with blocklist := insert i s.blocklist }.removeServersByIp i now

def unbanIp (s : MasterServer Addr Ip) (i : Ip) (_now : RelativeTime) : MasterServer Addr Ip :=
  { s with blocklist := s.blocklist.erase i }

/-- Apply `op` to the arguments that are IP addresses, each at its own clock reading. -/
def forEachIp (op : MasterServer Addr Ip → Ip → RelativeTime → MasterServer Addr Ip)
    (now : ℕ → RelativeTime) : ℕ → List Bytes → MasterServer Addr Ip → MasterServer Addr Ip
  | _, [], s => s
  | n, arg :: args, s =>
    match ipFromStr Addr arg with
    | some i => forEachIp op now (n + 1) args (op s i (now n))
    | none => forEachIp op now (n + 1) args s

def adminCommand (env : Env Addr) (s : MasterServer Addr Ip) (cmd : Bytes) :
    MasterServer Addr Ip :=
  match cmd.splitOn 32 with
  | [] => s -- a split has at least one part
  | name :: args =>
    if name = ascii "ban" then forEachIp banIp env.now 2 args s
    else if name = ascii "unban" then forEachIp unbanIp env.now 2 args s
    else s

/-- The admin whose password and challenge have the hash of a command. -/
def findAdmin (blake2b : HashConfig → Bytes → Bytes) (cfg : MasterConfig) (hashChallenge : UInt32)
    (hash : Bytes) : Option AdminConfig :=
  cfg.adminList.find? fun i => hash == blake2b cfg.hash (i.password ++ u32Le hashChallenge)

def handleAdminCommand (blake2b : HashConfig → Bytes → Bytes) (env : Env Addr)
    (s : MasterServer Addr Ip) (peer : Addr) (msg : AdminCommand) :
    Outcome (MasterServer Addr Ip) Addr :=
  match s.adminChallenges.get (ip peer) (env.now 1) with
  | none => .fail s .adminChallengeNotFound
  | some entry =>
    if entry.value.1 ≠ msg.masterChallenge then .done s
    else match findAdmin blake2b s.cfg entry.value.2 msg.hash with
      | some _ =>
        -- the command makes a clock reading for each argument at most
        let now := env.now (2 + (msg.command.splitOn 32).length)
        .done ((s.adminCommand env msg.command).adminChallengeRemove peer now)
      | none =>
        .done { s with adminLimit := s.adminLimit.insert (ip peer) () (env.now 2) (env.now 3) }

/-! ### Packets -/

/-- Handle a packet that was decoded, or fail with the error of the decoder. -/
def handleDecoded {α : Type} (s : MasterServer Addr Ip) (r : Except ProtocolError α)
    (handle : α → Outcome (MasterServer Addr Ip) Addr) : Outcome (MasterServer Addr Ip) Addr :=
  match r with
  | .ok msg => handle msg
  | .error e => .fail s (.protocol e)

/-- Go on if a request is allowed. -/
def handleAllowed (r : Except Error Unit) (s : MasterServer Addr Ip)
    (handle : Outcome (MasterServer Addr Ip) Addr) : Outcome (MasterServer Addr Ip) Addr :=
  match r with
  | .ok _ => handle
  | .error e => .fail s e

def handlePacket (blake2b : HashConfig → Bytes → Bytes) (env : Env Addr)
    (s : MasterServer Addr Ip) (peer : Addr) (src : Bytes) : Outcome (MasterServer Addr Ip) Addr :=
  if Challenge.header.isPrefixOf src then
    handleDecoded s (Challenge.decode src) (s.handleServerChallenge env peer)
  else if ServerAdd.header.isPrefixOf src then
    handleDecoded s (ServerAdd.decode src) (s.handleServerAdd env peer)
  else if ServerRemove.header.isPrefixOf src then
    handleDecoded s (ServerRemove.decode src) fun _ => s.handleServerRemove peer
  else if QueryServers.header.isPrefixOf src then
    let (allowed, s) := s.allowGameRequest env peer
    handleAllowed allowed s <|
      handleDecoded s (QueryServers.decode src) (s.handleGameQueryServers env peer)
  else if GetServerInfo.header.isPrefixOf src then
    let (allowed, s) := s.allowGameRequest env peer
    handleAllowed allowed s <|
      handleDecoded s (GetServerInfo.decode src) (s.handleGameGetServerInfo env peer)
  else if AdminChallenge.header.isPrefixOf src then
    handleAllowed (s.allowAdminRequest env peer) s <|
      handleDecoded s (AdminChallenge.decode src) fun _ => s.handleAdminChallenge env peer
  else if AdminCommand.header.isPrefixOf src then
    handleAllowed (s.allowAdminRequest env peer) s <|
      handleDecoded s (AdminCommand.decodeWithHashLen s.cfg.hash.len src)
        (s.handleAdminCommand blake2b env peer)
  else .fail s .undefinedPacket

def isBlocked (s : MasterServer Addr Ip) (i : Ip) : Bool := i ∈ s.blocklist

/-- The body of the receive loop. -/
def receive (blake2b : HashConfig → Bytes → Bytes) (env : Env Addr) (s : MasterServer Addr Ip)
    (sender : SocketAddr) (src : Bytes) : Outcome (MasterServer Addr Ip) Addr :=
  match extract sender with
  | none => .done s
  | some peer => if s.isBlocked (ip peer) then .done s else s.handlePacket blake2b env peer src

/-! ### Configuration -/

/-- What the host does when a server starts or is reconfigured. -/
structure Host where
  /-- Bind a socket: its local address, or a failure. -/
  bind : SocketAddr → Option SocketAddr
  /-- Whether the read timeout of a socket can be set. -/
  setReadTimeout : Bool
  /-- Whether the local address of a socket can be read. -/
  localAddr : Bool
  /-- Resolve a host and a port. -/
  toSocketAddrs : Bytes → Option (List SocketAddr)

def resolveSocketAddr (host : Host) (addr : Bytes) (isIpv4 : Bool) :
    Option (Option SocketAddr) :=
  (host.toSocketAddrs addr).map fun l => l.find? fun i => i.isIpv4 == isIpv4

def resolveUpdateAddr (host : Host) (cfg : MasterConfig) (localAddr : SocketAddr) : SocketAddr :=
  match cfg.client.updateAddr with
  | none => localAddr
  | some s =>
    let addr := if (58 : UInt8) ∉ s then s ++ ascii ":" ++ numeral 10 localAddr.port.toNat else s
    match resolveSocketAddr host addr localAddr.isIpv4 with
    | some (some x) => x
    | some none => localAddr
    | none => localAddr

def new (host : Host) (cfg : MasterConfig) (addr : Addr) : Except Error (MasterServer Addr Ip) :=
  match host.bind (wrap addr) with
  | none => .error .bindSocket
  | some sock =>
    if !host.setReadTimeout then .error .io
    else .ok (init cfg sock (resolveUpdateAddr host cfg (wrap addr)))

/-- Forget all servers and challenges; the blocklist stays. -/
def clear (s : MasterServer Addr Ip) : MasterServer Addr Ip :=
  { s with
    challenges := s.challenges.clear
    servers := s.servers.clear
    adminChallenges := s.adminChallenges.clear
    clientRateLimit := s.clientRateLimit.clear }

/-- Take over a configuration whose socket is bound. -/
def setConfig (host : Host) (s : MasterServer Addr Ip) (cfg : MasterConfig) (addr : SocketAddr) :
    MasterServer Addr Ip :=
  { s with
    updateAddr := resolveUpdateAddr host cfg addr
    cfg
    challenges := s.challenges.setTimeout cfg.server.timeout.challenge
    servers := s.servers.setTimeout cfg.server.timeout.server
    adminChallenges := s.adminChallenges.setTimeout cfg.server.timeout.challenge
    adminLimit := s.adminLimit.setTimeout cfg.server.timeout.admin }

/-- Reload the configuration. The result is the configuration itself when its IP version differs
from that of the socket: the caller then starts another server. -/
def updateConfig (host : Host) (s : MasterServer Addr Ip) (cfg : MasterConfig) :
    MasterServer Addr Ip × Except Error (Option MasterConfig) :=
  if !host.localAddr then (s, .error .io)
  else
    let addr := SocketAddr.new cfg.server.ip cfg.server.port
    if s.sock.isIpv4 != addr.isIpv4 then (s, .ok (some cfg))
    else if s.sock ≠ addr then
      match host.bind addr with
      | none => (s, .error .bindSocket)
      | some sock =>
        let s := { s with sock }
        if !host.setReadTimeout then (s, .error .io)
        else (s.clear.setConfig host cfg addr, .ok none)
    else (s.setConfig host cfg addr, .ok none)

end MasterServer

end Xash3d
