import Xash3d.Protocol.Net.Server

/-!
# Binary information packets

`GetServerInfo2Response` of the source engine, with its extra data behind a byte of presence flags,
`GetServerInfo2ResponseOld` of the gold source engine, and the packets of a game server by their
headers.
-/

namespace Xash3d

open Lib

/-! ## The source engine -/

/-- The presence flags of the extra data. -/
abbrev ServerInfoExtra := Flags 8

namespace ServerInfoExtra

def appId : ServerInfoExtra := .single 0
def steamId : ServerInfoExtra := .single 4
def keywords : ServerInfoExtra := .single 5
def sourceTv : ServerInfoExtra := .single 6
def port : ServerInfoExtra := .single 7

/-- The flags of a byte, the unnamed ones too. -/
def fromBitsRetain (b : UInt8) : ServerInfoExtra := ⟨b.toBitVec⟩

/-- The byte of the flags. -/
def toByte (extra : ServerInfoExtra) : UInt8 := ⟨extra.bits⟩

@[simp] theorem fromBitsRetain_toByte (extra : ServerInfoExtra) :
    fromBitsRetain extra.toByte = extra := rfl

end ServerInfoExtra

/-- SourceTV information. -/
structure SourceTv where
  port : UInt16
  name : Bytes
  deriving DecidableEq

/-- Game server information of the source engine. -/
structure GetServerInfo2Response where
  protocol : UInt8
  host : Bytes
  map : Bytes
  gamedir : Bytes
  game : Bytes
  appId : UInt64
  players : UInt8
  maxPlayers : UInt8
  bots : UInt8
  ty : ServerType
  os : Os
  password : Bool
  secure : Bool
  version : Bytes
  port : Option UInt16
  steamId : Option UInt64
  sourceTv : Option SourceTv
  keywords : Option Bytes
  deriving DecidableEq

namespace GetServerInfo2Response

/-- The fields behind the presence flags; `appId` replaces the short one. -/
structure Extra where
  port : Option UInt16
  steamId : Option UInt64
  sourceTv : Option SourceTv
  keywords : Option Bytes
  appId : Option UInt64
  deriving DecidableEq

/-- Read a field if its flag is there. -/
def getExtra {α : Type} (extra flag : ServerInfoExtra) (get : Read CursorError α) :
    Read ProtocolError (Option α) :=
  if extra.intersects flag then do
    let a ← get.lift
    return some a
  else return none

def getSourceTv : Read CursorError SourceTv := do
  let port ← Cursor.getU16Le
  let name ← Cursor.getCstr
  return ⟨port, name⟩

/-- The extra data, of the same `decode`. -/
def decodeExtra : Read ProtocolError Extra := do
  let s ← Cursor.rest
  if s.isEmpty then return ⟨none, none, none, none, none⟩
  else do
    let b ← Cursor.getU8.lift
    let extra := ServerInfoExtra.fromBitsRetain b
    let port ← getExtra extra ServerInfoExtra.port Cursor.getU16Le
    let steamId ← getExtra extra ServerInfoExtra.steamId Cursor.getU64Le
    let sourceTv ← getExtra extra ServerInfoExtra.sourceTv getSourceTv
    let keywords ← getExtra extra ServerInfoExtra.keywords Cursor.getCstr
    let appId ← getExtra extra ServerInfoExtra.appId Cursor.getU64Le
    return ⟨port, steamId, sourceTv, keywords, appId⟩

/-- The number of players, out of the number of clients. -/
def checkedSub (clients bots : UInt8) : Read ProtocolError UInt8 :=
  if clients < bots then Read.fail .invalidPacket else return clients - bots

def decode (src : Bytes) : Except ProtocolError GetServerInfo2Response := Read.run (do
  (Cursor.expect header).lift
  let protocol ← Cursor.getU8.lift
  let host ← Cursor.getCstr.lift
  let map ← Cursor.getCstr.lift
  let gamedir ← Cursor.getCstr.lift
  let game ← Cursor.getCstr.lift
  let appId ← Cursor.getU16Le.lift
  let clients ← Cursor.getU8.lift
  let maxPlayers ← Cursor.getU8.lift
  let bots ← Cursor.getU8.lift
  let players ← checkedSub clients bots
  let ty ← Cursor.getU8.lift
  let os ← Cursor.getU8.lift
  let password ← Cursor.getU8.lift
  let secure ← Cursor.getU8.lift
  let version ← Cursor.getCstr.lift
  let extra ← decodeExtra
  Cursor.expectEmpty.lift
  return {
    protocol, host, map, gamedir, game
    appId := extra.appId.getD appId.toUInt64
    players, maxPlayers, bots
    ty := .ofU8 ty
    os := .ofU8 os
    password := password != 0
    secure := secure != 0
    version
    port := extra.port
    steamId := extra.steamId
    sourceTv := extra.sourceTv
    keywords := extra.keywords }) src

/-- A boolean value of a binary packet. -/
def putBool (v : Bool) : Put := CursorMut.putU8 (if v then 1 else 0)

/-- Write a field that is there, and insert its flag. -/
def putExtra (flag : ServerInfoExtra) (put : Option Put) (st : ServerInfoExtra × CursorMut) :
    Except CursorError (ServerInfoExtra × CursorMut) :=
  match put with
  | some put => do
    let tail ← put st.2
    return (st.1.insert flag, tail)
  | none => .ok st

open CursorMut in
/-- The part of a reply up to the version. The number of clients is a sum of players and bots. -/
def putBase (r : GetServerInfo2Response) : Put :=
  putBytes header >=>
  putU8 r.protocol >=>
  putCstr r.host >=>
  putCstr r.map >=>
  putCstr r.gamedir >=>
  putCstr r.game >=>
  putU16Le r.appId.toUInt16 >=>
  putU8 (r.players + r.bots) >=>
  putU8 r.maxPlayers >=>
  putU8 r.bots >=>
  putU8 r.ty.toU8 >=>
  putU8 r.os.toU8 >=>
  putBool r.password >=>
  putBool r.secure >=>
  putCstr r.version

open CursorMut in
/-- The extra data of a reply: its flags, and the filled tail of the buffer. -/
def putExtras (r : GetServerInfo2Response) :
    ServerInfoExtra × CursorMut → Except CursorError (ServerInfoExtra × CursorMut) :=
  putExtra ServerInfoExtra.port (r.port.map putU16Le) >=>
  putExtra ServerInfoExtra.steamId (r.steamId.map putU64Le) >=>
  putExtra ServerInfoExtra.sourceTv (r.sourceTv.map fun tv => putU16Le tv.port >=> putCstr tv.name) >=>
  putExtra ServerInfoExtra.keywords (r.keywords.map putCstr) >=>
  putExtra ServerInfoExtra.appId (if r.appId.toNat < 2 ^ 16 then none else some (putU64Le r.appId))

def encode (cap : ℕ) (r : GetServerInfo2Response) : Except ProtocolError Bytes := Except.mapError
  .cursorError (do
    let cur ← r.putBase (.new cap)
    let (head, tail) ← cur.split 1
    let (extra, tail) ← r.putExtras (.empty, tail)
    if extra.isEmpty then return cur.data
    else do
      -- the byte that was left out in front of the tail
      let head ← CursorMut.putU8 extra.toByte head
      head.expectFull
      return head.data ++ tail.data)

end GetServerInfo2Response

/-! ## The gold source engine -/

/-- Mod information. -/
structure ModInfo where
  link : Bytes
  downloadLink : Bytes
  version : UInt32
  size : UInt32
  multiplayerOnly : Bool
  customDll : Bool
  deriving DecidableEq

/-- Game server information of the gold source engine. -/
structure GetServerInfo2ResponseOld where
  address : Bytes
  host : Bytes
  map : Bytes
  gamedir : Bytes
  game : Bytes
  players : UInt8
  maxPlayers : UInt8
  protocol : UInt8
  ty : ServerType
  os : Os
  password : Bool
  modInfo : Option ModInfo
  secure : Bool
  bots : UInt8
  deriving DecidableEq

namespace GetServerInfo2ResponseOld

/-- The mod information, of the same `decode`. -/
def decodeModInfo : Read ProtocolError ModInfo := do
  let link ← Cursor.getCstr.lift
  let downloadLink ← Cursor.getCstr.lift
  let _ ← Cursor.getU8.lift -- unknown byte, must be zero
  let version ← Cursor.getU32Le.lift
  let size ← Cursor.getU32Le.lift
  let multiplayerOnly ← Cursor.getU8.lift
  let customDll ← Cursor.getU8.lift
  return {
    link, downloadLink, version, size
    multiplayerOnly := multiplayerOnly != 0
    customDll := customDll != 0 }

/-- The optional mod information behind its presence byte. -/
def decodeOptModInfo : Read ProtocolError (Option ModInfo) := do
  let hasMod ← Cursor.getU8.lift
  if hasMod != 0 then do
    let modInfo ← decodeModInfo
    return some modInfo
  else return none

def decode (src : Bytes) : Except ProtocolError GetServerInfo2ResponseOld := Read.run (do
  (Cursor.expect header).lift
  let address ← Cursor.getCstr.lift
  let host ← Cursor.getCstr.lift
  let map ← Cursor.getCstr.lift
  let gamedir ← Cursor.getCstr.lift
  let game ← Cursor.getCstr.lift
  let players ← Cursor.getU8.lift
  let maxPlayers ← Cursor.getU8.lift
  let protocol ← Cursor.getU8.lift
  let ty ← Cursor.getU8.lift
  let os ← Cursor.getU8.lift
  let password ← Cursor.getU8.lift
  let modInfo ← decodeOptModInfo
  let secure ← Cursor.getU8.lift
  let bots ← Cursor.getU8.lift
  Cursor.expectEmpty.lift
  return {
    address, host, map, gamedir, game, players, maxPlayers, protocol
    ty := .ofU8 ty
    os := .ofU8 os
    password := password != 0
    modInfo
    secure := secure != 0
    bots }) src

open CursorMut GetServerInfo2Response in
/-- The optional mod information of a reply. -/
def putModInfo : Option ModInfo → Put
  | some modInfo =>
    putU8 1 >=>
    putCstr modInfo.link >=>
    putCstr modInfo.downloadLink >=>
    putU8 0 >=> -- unknown byte, must be zero
    putU32Le modInfo.version >=>
    putU32Le modInfo.size >=>
    putBool modInfo.multiplayerOnly >=>
    putBool modInfo.customDll
  | none => putU8 0

open CursorMut GetServerInfo2Response in
def encode (cap : ℕ) (r : GetServerInfo2ResponseOld) : Except ProtocolError Bytes :=
  encodeTo cap <|
    putBytes header >=>
    putCstr r.address >=>
    putCstr r.host >=>
    putCstr r.map >=>
    putCstr r.gamedir >=>
    putCstr r.game >=>
    putU8 r.players >=>
    putU8 r.maxPlayers >=>
    putU8 r.protocol >=>
    putU8 r.ty.toU8 >=>
    putU8 r.os.toU8 >=>
    putBool r.password >=>
    putModInfo r.modInfo >=>
    putBool r.secure >=>
    putU8 r.bots

end GetServerInfo2ResponseOld

/-! ## Packets of a game server -/

namespace Server

/-- Game server packets. -/
inductive Packet where
  | challenge (p : Challenge)
  | serverAdd (p : ServerAdd)
  | serverRemove
  | getChallengeResponse (p : GetChallengeResponse)
  | getServerInfoResponse (p : GetServerInfoResponse)
  | getServerInfo2Response (p : GetServerInfo2Response)
  | getServerInfo2ResponseOld (p : GetServerInfo2ResponseOld)
  | getPlayersResponse (p : GetPlayersResponse)
  deriving DecidableEq

/-- Decode a packet by its header. -/
def Packet.decode (src : Bytes) : Except ProtocolError (Option Packet) :=
  if Challenge.header.isPrefixOf src then (Challenge.decode src).map (some ∘ challenge)
  else if ServerAdd.header.isPrefixOf src then (ServerAdd.decode src).map (some ∘ serverAdd)
  else if ServerRemove.header.isPrefixOf src then
    (ServerRemove.decode src).map fun _ => some serverRemove
  else if GetServerInfoResponse.header.isPrefixOf src then
    (GetServerInfoResponse.decode src).map (some ∘ getServerInfoResponse)
  else if GetChallengeResponse.header.isPrefixOf src then
    (GetChallengeResponse.decode src).map (some ∘ getChallengeResponse)
  else if GetServerInfo2Response.header.isPrefixOf src then
    (GetServerInfo2Response.decode src).map (some ∘ getServerInfo2Response)
  else if GetServerInfo2ResponseOld.header.isPrefixOf src then
    (GetServerInfo2ResponseOld.decode src).map (some ∘ getServerInfo2ResponseOld)
  else if GetPlayersResponse.header.isPrefixOf src then
    (GetPlayersResponse.decode src).map (some ∘ getPlayersResponse)
  else .ok none

variable {src : Bytes}

theorem Packet.decode_serverAdd (hp : ServerAdd.header.isPrefixOf src = true) :
    Packet.decode src = (ServerAdd.decode src).map (some ∘ serverAdd) := by
  unfold Packet.decode
  rw [if_neg (not_isPrefixOf (by decide) hp), if_pos hp]

theorem Packet.decode_getServerInfoResponse
    (hp : GetServerInfoResponse.header.isPrefixOf src = true) :
    Packet.decode src = (GetServerInfoResponse.decode src).map (some ∘ getServerInfoResponse) := by
  unfold Packet.decode
  rw [if_neg (not_isPrefixOf (by decide) hp), if_neg (not_isPrefixOf (by decide) hp),
    if_neg (not_isPrefixOf (by decide) hp), if_pos hp]

theorem Packet.decode_getServerInfo2Response
    (hp : GetServerInfo2Response.header.isPrefixOf src = true) :
    Packet.decode src = (GetServerInfo2Response.decode src).map (some ∘ getServerInfo2Response) := by
  unfold Packet.decode
  rw [if_neg (not_isPrefixOf (by decide) hp), if_neg (not_isPrefixOf (by decide) hp),
    if_neg (not_isPrefixOf (by decide) hp), if_neg (not_isPrefixOf (by decide) hp),
    if_neg (not_isPrefixOf (by decide) hp), if_pos hp]

theorem Packet.decode_getServerInfo2ResponseOld
    (hp : GetServerInfo2ResponseOld.header.isPrefixOf src = true) :
    Packet.decode src =
      (GetServerInfo2ResponseOld.decode src).map (some ∘ getServerInfo2ResponseOld) := by
  unfold Packet.decode
  rw [if_neg (not_isPrefixOf (by decide) hp), if_neg (not_isPrefixOf (by decide) hp),
    if_neg (not_isPrefixOf (by decide) hp), if_neg (not_isPrefixOf (by decide) hp),
    if_neg (not_isPrefixOf (by decide) hp), if_neg (not_isPrefixOf (by decide) hp), if_pos hp]

end Server

end Xash3d
