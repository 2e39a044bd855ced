import Xash3d.Protocol.ServerInfo

/-!
# Game server packets

The packets of a game server to the master (`Challenge`, `ServerAdd`, `ServerRemove`) and to its
clients, and the `ServerInfo` the master keeps of a `ServerAdd`.
-/

namespace Xash3d

open Lib

/-! ## Packets to the master -/

/-- Sent to a master server before a `ServerAdd` packet. -/
structure Challenge where
  serverChallenge : Option UInt32
  deriving DecidableEq

namespace Challenge

def header : Bytes := [0x71, 0xff]

def decode (src : Bytes) : Except ProtocolError Challenge := Read.run (do
  (Cursor.expect header).lift
  let s ← Cursor.rest
  let serverChallenge ←
    if s.length = 4 then do
      let c ← Cursor.getU32Le.lift
      pure (some c)
    else pure none
  Cursor.expectEmpty.lift
  return ⟨serverChallenge⟩) src

end Challenge

/-- Add or update game server information on the master server. -/
structure ServerAdd where
  gamedir : Bytes
  map : Bytes
  version : Version
  challenge : UInt32
  serverType : ServerType
  os : Os
  region : Region
  protocol : UInt8
  players : UInt8
  max : UInt8
  bots : UInt8
  flags : ServerFlags
  deriving DecidableEq

/-- The keys of a `ServerAdd` info string. -/
inductive ServerAddKey where
  | protocol
  | challenge
  | players
  | max
  | gamedir
  | product
  | map
  | type
  | os
  | version
  | region
  | bots
  | password
  | secure
  | lan
  | nat
  deriving DecidableEq

namespace ServerAddKey

/-- The name of a key, as in the packet and in errors. -/
def name : ServerAddKey → String
  | protocol => "protocol"
  | challenge => "challenge"
  | players => "players"
  | max => "max"
  | gamedir => "gamedir"
  | product => "product"
  | map => "map"
  | type => "type"
  | os => "os"
  | version => "version"
  | region => "region"
  | bots => "bots"
  | password => "password"
  | secure => "secure"
  | lan => "lan"
  | nat => "nat"

def keys : List ServerAddKey :=
  [protocol, challenge, players, max, gamedir, product, map, type, os, version, region, bots,
    password, secure, lan, nat]

/-- The key of a map string. -/
def ofBytes (key : Bytes) : Option ServerAddKey := keys.find? fun k => ascii k.name == key

@[simp] theorem ofBytes_name (k : ServerAddKey) : ofBytes (ascii k.name) = some k := by
  cases k <;> decide +kernel

end ServerAddKey

/-- Remove the first backslash of an info string. -/
def stripPrefix (info : Bytes) : Except ProtocolError Bytes :=
  match info with
  | [] => .ok []
  | c :: s => if c = 92 then .ok s else .error .invalidMap

@[simp] theorem stripPrefix_pairs (kvs : List (Bytes × Bytes)) :
    stripPrefix (MapIter.pairs kvs) = .ok (MapIter.pairs kvs).tail := by
  cases kvs <;> rfl

namespace ServerAdd

def header : Bytes := ascii "0\n"

instance : Inhabited ServerAdd :=
  ⟨⟨[], [], default, 0, default, default, default, 0, 0, 0, 0, .empty⟩⟩

def setFlag (ret : ServerAdd) (flag : ServerFlags) (value : Bytes) :
    Except CursorError ServerAdd := do
  let v ← parseBool value
  return { ret with flags := ret.flags.set flag v }

/-- Set the field of a known key; the flag tells whether the key is known. -/
def set (ret : ServerAdd) (key value : Bytes) : Except CursorError (Bool × ServerAdd) :=
  match ServerAddKey.ofBytes key with
  | none => .ok (false, ret)
  | some k => (fun r => (true, r)) <$> match k with
    | .protocol => return { ret with protocol := ← parseU8 value }
    | .challenge => return { ret with challenge := ← parseU32 value }
    | .players => return { ret with players := ← parseU8 value }
    | .max => return { ret with max := ← parseU8 value }
    | .gamedir => .ok { ret with gamedir := value }
    | .product => .ok ret -- a legacy key, ignored
    | .map => .ok { ret with map := value }
    | .type => .ok { ret with serverType := .ofMapStr value }
    | .os => .ok { ret with os := .ofMapStr value }
    -- a version that does not parse is taken as zero
    | .version => .ok { ret with version := (parseVersion value).toOption.getD default }
    | .region => do
      let n ← parseU8 value
      return { ret with region := ← Region.tryFrom n }
    | .bots => do
      let n ← parseU8 value
      return { ret with bots := n, flags := ret.flags.set ServerFlags.bots (n != 0) }
    | .password => ret.setFlag ServerFlags.password value
    | .secure => ret.setFlag ServerFlags.secure value
    | .lan => ret.setFlag ServerFlags.lan value
    | .nat => ret.setFlag ServerFlags.nat value

/-- The name of a key in an error. -/
def keyNameStr (key : Bytes) : String := ((ServerAddKey.ofBytes key).map (·.name)).getD "unknown"

/-- One turn of the decoding loop: the value so far, and whether a challenge was seen. -/
def visit (st : ServerAdd × Bool) (key value : Bytes) :
    Except ProtocolError (ServerAdd × Bool) :=
  match st.1.set key value with
  | .ok (true, ret) => .ok (ret, st.2 || key == ascii "challenge")
  | .ok (false, ret) => .ok (ret, st.2)
  | .error err => .error (.invalidServerValue (keyNameStr key) err)

def decode (src : Bytes) : Except ProtocolError ServerAdd := Read.run (do
  (Cursor.expect header).lift
  let taken ← (Cursor.takeUntil2 10 0).attempt
  let info ← match taken with
    | .ok s => do
      let c ← Cursor.getU8.attempt
      match c with
      | .ok 10 => pure ()
      | _ => Read.fail .invalidPacket -- a zero byte is not allowed in an info string
      Cursor.expectEmpty.lift
      pure s
    | .error (_ : CursorError) => Cursor.rest -- an engine bug: no newline at the end
  let info ← Read.ofExcept (stripPrefix info)
  let (ret, hasChallenge) ← Read.ofExcept ((MapIter.mk info).tryFold visit (default, false))
  if hasChallenge then return ret
  else Read.fail (.invalidServerValue "challenge" .expect)) src

end ServerAdd

/-- Remove the game server from a list. -/
structure ServerRemove where
  deriving DecidableEq

namespace ServerRemove

def header : Bytes := ascii "b\n"

def decode (src : Bytes) : Except ProtocolError ServerRemove := Read.run (do
  (Cursor.expect header).lift
  Cursor.expectEmpty.lift
  return ⟨⟩) src

end ServerRemove

/-! ## The information the master keeps -/

/-- The filter flags of a `ServerAdd`. -/
def FilterFlags.ofServerAdd (info : ServerAdd) : FilterFlags :=
  let flags : FilterFlags := Flags.empty
  let flags := flags.set FilterFlags.dedicated (info.serverType == .dedicated)
  let flags := flags.set FilterFlags.secure (info.flags.contains ServerFlags.secure)
  let flags := flags.set FilterFlags.password (info.flags.contains ServerFlags.password)
  let flags := flags.set FilterFlags.empty (info.players == 0)
  let flags := flags.set FilterFlags.full (info.players ≥ info.max)
  let flags := flags.set FilterFlags.noplayers (info.players == 0)
  let flags := flags.set FilterFlags.nat (info.flags.contains ServerFlags.nat)
  let flags := flags.set FilterFlags.lan (info.flags.contains ServerFlags.lan)
  flags.set FilterFlags.bots (info.flags.contains ServerFlags.bots)

/-- Game server information. -/
structure ServerInfo where
  version : Version
  protocol : UInt8
  gamedir : Bytes
  map : Bytes
  flags : FilterFlags
  region : Region
  deriving DecidableEq

def ServerInfo.new (info : ServerAdd) : ServerInfo where
  version := info.version
  protocol := info.protocol
  gamedir := info.gamedir
  map := info.map
  flags := .ofServerAdd info
  region := info.region

/-! ## Packets to game clients -/

/-- Game server information to game clients. -/
structure GetServerInfoResponse where
  gamedir : Bytes
  map : Bytes
  host : Bytes
  protocol : UInt8
  numcl : UInt8
  maxcl : UInt8
  dm : Bool
  team : Bool
  coop : Bool
  password : Bool
  dedicated : Bool
  deriving DecidableEq

/-- The keys of a server information string. -/
inductive InfoKey where
  | p
  | map
  | dm
  | team
  | coop
  | numcl
  | maxcl
  | gamedir
  | password
  | host
  | dedicated
  deriving DecidableEq

namespace InfoKey

/-- The name of a key, as in the packet and in errors. -/
def name : InfoKey → String
  | p => "p"
  | map => "map"
  | dm => "dm"
  | team => "team"
  | coop => "coop"
  | numcl => "numcl"
  | maxcl => "maxcl"
  | gamedir => "gamedir"
  | password => "password"
  | host => "host"
  | dedicated => "dedicated"

def keys : List InfoKey :=
  [p, map, dm, team, coop, numcl, maxcl, gamedir, password, host, dedicated]

/-- The key of a map string. -/
def ofBytes (key : Bytes) : Option InfoKey := keys.find? fun k => ascii k.name == key

@[simp] theorem ofBytes_name (k : InfoKey) : ofBytes (ascii k.name) = some k := by
  cases k <;> decide +kernel

end InfoKey

namespace GetServerInfoResponse

def header : Bytes := [0xff, 0xff, 0xff, 0xff] ++ ascii "info\n"

instance : Inhabited GetServerInfoResponse :=
  ⟨⟨[], [], [], 0, 0, 0, false, false, false, false, false⟩⟩

/-- Set the field of a known key; the flag tells whether the key is known. -/
def set (ret : GetServerInfoResponse) (key value : Bytes) :
    Except CursorError (Bool × GetServerInfoResponse) :=
  match InfoKey.ofBytes key with
  | none => .ok (false, ret)
  | some k => (fun r => (true, r)) <$> match k with
    | .p => return { ret with protocol := ← parseU8 value }
    | .map => .ok { ret with map := value }
    | .dm => return { ret with dm := ← parseBool value }
    | .team => return { ret with team := ← parseBool value }
    | .coop => return { ret with coop := ← parseBool value }
    | .numcl => return { ret with numcl := ← parseU8 value }
    | .maxcl => return { ret with maxcl := ← parseU8 value }
    | .gamedir => .ok { ret with gamedir := value }
    | .password => return { ret with password := ← parseBool value }
    | .host => .ok { ret with host := value }
    | .dedicated => return { ret with dedicated := ← parseBool value }

/-- The name of a key in an error. -/
def keyNameStr (key : Bytes) : String := ((InfoKey.ofBytes key).map (·.name)).getD "unknown"

/-- One turn of the decoding loop. -/
def visit (ret : GetServerInfoResponse) (key value : Bytes) :
    Except ProtocolError GetServerInfoResponse :=
  match ret.set key value with
  | .ok (_, ret) => .ok ret
  | .error err => .error (.invalidServerValue (keyNameStr key) err)

/-- The error of a reply that is not an info string: the text after its last colon decides. -/
def notInfo (s : Bytes) : ProtocolError :=
  match s.reverse.findIdx? (· == 58) with
  | none => .invalidPacket
  | some p =>
    if s.drop (s.length - p) = ascii " wrong version\n" then .invalidProtocolVersion
    else .invalidPacket

def decode (src : Bytes) : Except ProtocolError GetServerInfoResponse := Read.run (do
  (Cursor.expect header).lift
  let s ← Cursor.rest
  if !(ascii "\\").isPrefixOf s then
    let s ← (Cursor.getBytes s.length).lift
    Read.fail (notInfo s)
  else
    let cstr ← Cursor.getCstrFfi.attempt
    let info ← match cstr with
      | .ok s => do
        Cursor.expectEmpty.lift
        pure (Cursor.toBytes s)
      | .error (_ : CursorError) => Cursor.rest -- an engine bug: no zero byte at the end
    let info ← Read.ofExcept (stripPrefix info)
    Read.ofExcept ((MapIter.mk info).tryFold visit default)) src

/-- A boolean value of a key. -/
def putBool (v : Bool) : Put := CursorMut.putU8 (if v then 49 else 48)

/-- A number value of a key. -/
def putNumber (n : UInt8) : Put := CursorMut.putAsStr [numeral 10 n.toNat]

open CursorMut in
def encode (cap : ℕ) (r : GetServerInfoResponse) : Except ProtocolError Bytes :=
  encodeTo cap <|
    putBytes header >=>
    putKey "p" (putNumber r.protocol) >=>
    putKey "map" (putBytes r.map) >=>
    putKey "dm" (putBool r.dm) >=>
    putKey "team" (putBool r.team) >=>
    putKey "coop" (putBool r.coop) >=>
    putKey "numcl" (putNumber r.numcl) >=>
    putKey "maxcl" (putNumber r.maxcl) >=>
    putKey "gamedir" (putBytes r.gamedir) >=>
    putKey "password" (putBool r.password) >=>
    putKey "dedicated" (putBool r.dedicated) >=>
    putKey "host" (putBytes r.host)

end GetServerInfoResponse

/-! ## Encoding a registration -/

/-- The value of a version. -/
def Version.putKeyValue (v : Version) : Put :=
  GetServerInfoResponse.putNumber v.major >=> CursorMut.putU8 46 >=>
    GetServerInfoResponse.putNumber v.minor >=>
    if v.patch > 0 then CursorMut.putU8 46 >=> GetServerInfoResponse.putNumber v.patch else .ok

/-- The value of a server type. -/
def ServerType.putKeyValue (t : ServerType) : Put :=
  match t with
  | .dedicated => CursorMut.putBytes (ascii "d")
  | .local => CursorMut.putBytes (ascii "l")
  | .proxy => CursorMut.putBytes (ascii "p")
  | .unknown => CursorMut.putBytes (ascii "?")

/-- The value of an operating system. -/
def Os.putKeyValue (os : Os) : Put :=
  match os with
  | .linux => CursorMut.putBytes (ascii "l")
  | .windows => CursorMut.putBytes (ascii "w")
  | .mac => CursorMut.putBytes (ascii "m")
  | .unknown => CursorMut.putBytes (ascii "?")

namespace ServerAdd

open CursorMut GetServerInfoResponse in
def encode (cap : ℕ) (r : ServerAdd) : Except ProtocolError Bytes :=
  encodeTo cap <|
    putBytes header >=>
    putKey "protocol" (putNumber r.protocol) >=>
    putKey "challenge" (putAsStr [numeral 10 r.challenge.toNat]) >=>
    putKey "players" (putNumber r.players) >=>
    putKey "max" (putNumber r.max) >=>
    putKey "gamedir" (putBytes r.gamedir) >=>
    putKey "map" (putBytes r.map) >=>
    putKey "type" r.serverType.putKeyValue >=>
    putKey "os" r.os.putKeyValue >=>
    putKey "version" r.version.putKeyValue >=>
    putKey "region" (putNumber r.region.toU8) >=>
    putKey "bots" (putNumber r.bots) >=>
    putKey "password" (putBool (r.flags.contains ServerFlags.password)) >=>
    putKey "secure" (putBool (r.flags.contains ServerFlags.secure)) >=>
    putKey "lan" (putBool (r.flags.contains ServerFlags.lan)) >=>
    putKey "nat" (putBool (r.flags.contains ServerFlags.nat)) >=>
    putU8 10

end ServerAdd

/-- A challenge response. -/
structure GetChallengeResponse where
  challenge : UInt32
  deriving DecidableEq

namespace GetChallengeResponse

def header : Bytes := [0xff, 0xff, 0xff, 0xff] ++ ascii "A"

def decode (src : Bytes) : Except ProtocolError GetChallengeResponse := Read.run (do
  (Cursor.expect header).lift
  let challenge ← Cursor.getU32Le.lift
  Cursor.expectEmpty.lift
  return ⟨challenge⟩) src

end GetChallengeResponse

/-- Packet header of the game server information of the source engine. -/
def GetServerInfo2Response.header : Bytes := [0xff, 0xff, 0xff, 0xff] ++ ascii "I"

/-- Packet header of the game server information of the gold source engine. -/
def GetServerInfo2ResponseOld.header : Bytes := [0xff, 0xff, 0xff, 0xff] ++ ascii "m"

/-- Player information from a server; the time is given by its bits. -/
structure PlayerInfo where
  id : UInt8
  name : Bytes
  frags : Int32
  time : UInt32
  deriving DecidableEq

namespace PlayerInfo

/-- The bits of `-1.0`, which no other float equals. -/
def botTime : UInt32 := 0xbf800000

def isBot (info : PlayerInfo) : Bool := info.time == botTime

/-- An entry of a player list. -/
def get : Read ProtocolError PlayerInfo := do
  let id ← Cursor.getU8.lift
  let name ← Cursor.getCstr.lift
  let frags ← Cursor.getI32Le.lift
  let time ← Cursor.getF32Le.lift
  return ⟨id, name, frags, time⟩

end PlayerInfo

/-- Player list to game clients, not decoded yet. -/
structure GetPlayersResponse where
  count : UInt8
  players : Bytes
  deriving DecidableEq

namespace GetPlayersResponse

def header : Bytes := [0xff, 0xff, 0xff, 0xff] ++ ascii "D"

def decode (src : Bytes) : Except ProtocolError GetPlayersResponse := Read.run (do
  (Cursor.expect header).lift
  let count ← Cursor.getU8.lift
  let players ← Cursor.rest
  return ⟨count, players⟩) src

/-- `n` more entries; one that fails leaves the cursor behind what it has read. -/
def entries : ℕ → Cursor → List (Except ProtocolError PlayerInfo)
  | 0, _ => []
  | n + 1, c => (PlayerInfo.get c).1 :: entries n (PlayerInfo.get c).2

/-- The players of the list. -/
def iter (r : GetPlayersResponse) : List (Except ProtocolError PlayerInfo) :=
  entries r.count.toNat (.new r.players)

end GetPlayersResponse

/-- A legacy server's complaint, an info reply without its terminator, and a registration. -/
example :
    GetServerInfoResponse.decode (GetServerInfoResponse.header ++ ascii "1.2.3.4: wrong version\n")
      = .error .invalidProtocolVersion ∧
    (GetServerInfoResponse.decode (GetServerInfoResponse.header ++ ascii "\\p\\48\\dm\\1")).toOption
      = some { (default : GetServerInfoResponse) with protocol := 48, dm := true } ∧
    (ServerAdd.decode (ascii "0\n\\protocol\\49\\challenge\\7\\bots\\2\n")).toOption
      = some { (default : ServerAdd) with
          protocol := 49, challenge := 7, bots := 2, flags := .single 0 } := by
  decide +kernel

end Xash3d
