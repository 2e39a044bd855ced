import Xash3d.Protocol.Net.Game
import Xash3d.Protocol.Net.Master

/-!
# Packets by their header

The decoders of the other requests and responses, and the packets of a game client and of a master
server by their headers.
-/

namespace Xash3d

open Lib

/-! ## Requests of a game client -/

/-- Decode a request without fields. -/
def GetChallenge.decode (src : Bytes) : Except ProtocolError GetChallenge := Read.run (do
  (Cursor.expect header).lift
  Cursor.expectEmpty.lift
  return ⟨⟩) src

def GetServerInfo2.decode (src : Bytes) : Except ProtocolError GetServerInfo2 := Read.run (do
  (Cursor.expect header).lift
  let s ← Cursor.rest
  let challenge ←
    if s.isEmpty then pure none
    else do
      let challenge ← Cursor.getU32Le.lift
      pure (some challenge)
  Cursor.expectEmpty.lift
  return ⟨challenge⟩) src

def GetPlayers.decode (src : Bytes) : Except ProtocolError GetPlayers := Read.run (do
  (Cursor.expect header).lift
  let challenge ← Cursor.getU32Le.lift
  -- the greatest number is that of `GetChallenge`
  if challenge = 0xffffffff then Read.fail .invalidPacket
  else do
    Cursor.expectEmpty.lift
    return ⟨challenge⟩) src

/-- Game client packets. -/
inductive GamePacket where
  | queryServers (p : QueryServers Filter)
  | getChallenge (p : GetChallenge)
  | getServerInfo (p : GetServerInfo)
  | getServerInfo2 (p : GetServerInfo2)
  | getPlayers (p : GetPlayers)
  deriving DecidableEq

/-- Decode a packet by its header; the one of `GetPlayers` starts that of `GetChallenge`. -/
def GamePacket.decode (src : Bytes) : Except ProtocolError (Option GamePacket) :=
  if QueryServers.header.isPrefixOf src then (QueryServers.decode src).map (some ∘ queryServers)
  else if GetChallenge.header.isPrefixOf src then
    (GetChallenge.decode src).map (some ∘ getChallenge)
  else if GetServerInfo.header.isPrefixOf src then
    (GetServerInfo.decode src).map (some ∘ getServerInfo)
  else if GetServerInfo2.header.isPrefixOf src then
    (GetServerInfo2.decode src).map (some ∘ getServerInfo2)
  else if GetPlayers.header.isPrefixOf src then (GetPlayers.decode src).map (some ∘ getPlayers)
  else .ok none

/-! ## Responses of a master server -/

def ChallengeResponse.decode (src : Bytes) : Except ProtocolError ChallengeResponse :=
  Read.run (do
    (Cursor.expect header).lift
    let masterChallenge ← Cursor.getU32Le.lift
    let s ← Cursor.rest
    let serverChallenge ←
      if s.length = 4 then do
        let challenge ← Cursor.getU32Le.lift
        pure (some challenge)
      else pure none
    Cursor.expectEmpty.lift
    return ⟨masterChallenge, serverChallenge⟩) src

/-- Decode an announce whose address is parsed by `parseAddr`. -/
def ClientAnnounce.decode (parseAddr : Bytes → Option SocketAddr) (src : Bytes) :
    Except ProtocolError ClientAnnounce := Read.run (do
  (Cursor.expect header).lift
  let s ← Cursor.rest
  let s ← (Cursor.getStr s.length).lift
  match parseAddr s with
  | some addr => do
    Cursor.expectEmpty.lift
    return ⟨addr⟩
  | none => Read.fail .invalidClientAnnounceIp) src

def AdminChallengeResponse.decode (src : Bytes) : Except ProtocolError AdminChallengeResponse :=
  Read.run (do
    (Cursor.expect header).lift
    let masterChallenge ← Cursor.getU32Le.lift
    let hashChallenge ← Cursor.getU32Le.lift
    Cursor.expectEmpty.lift
    return ⟨masterChallenge, hashChallenge⟩) src

/-- Master server packet. -/
inductive MasterPacket where
  | challengeResponse (p : ChallengeResponse)
  | queryServersResponse (p : QueryServersResponse)
  | clientAnnounce (p : ClientAnnounce)
  | adminChallengeResponse (p : AdminChallengeResponse)
  deriving DecidableEq

/-- Decode a packet by its header. -/
def MasterPacket.decode (parseAddr : Bytes → Option SocketAddr) (src : Bytes) :
    Except ProtocolError (Option MasterPacket) :=
  if ChallengeResponse.header.isPrefixOf src then
    (ChallengeResponse.decode src).map (some ∘ challengeResponse)
  else if QueryServersResponse.header.isPrefixOf src then
    (QueryServersResponse.decode src).map (some ∘ queryServersResponse)
  else if ClientAnnounce.header.isPrefixOf src then
    (ClientAnnounce.decode parseAddr src).map (some ∘ clientAnnounce)
  else if AdminChallengeResponse.header.isPrefixOf src then
    (AdminChallengeResponse.decode src).map (some ∘ adminChallengeResponse)
  else .ok none

end Xash3d
