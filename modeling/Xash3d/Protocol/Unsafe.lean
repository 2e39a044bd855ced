import Xash3d.Protocol.CheckedBroker
import Xash3d.Protocol.CheckedPackets

/-!
# Unsafe code and slices

Whatever bytes are received, no decoder panics and no unsafe function is called without its
precondition. The same holds of the iterators over what is decoded, for any number of calls.
-/

namespace Xash3d

open Lib

/-- The decoders of packets. A hash is as long as the configuration says. -/
inductive Decoder where
  | challenge
  | serverAdd
  | serverRemove
  | getServerInfoResponse
  | getChallengeResponse
  | getServerInfo2Response
  | getServerInfo2ResponseOld
  | getPlayersResponse
  | serverPacket
  | queryServers
  | getServerInfo
  | getChallenge
  | getServerInfo2
  | getPlayers
  | gamePacket
  | challengeResponse
  | queryServersResponse
  | clientAnnounce
  | adminChallengeResponse
  | masterPacket
  | adminChallenge
  | adminCommand (hashLen : Fin (2 ^ 63))
  | adminPacket (hashLen : Fin (2 ^ 63))

namespace Decoder

/-- What a decoder returns. -/
def Output : Decoder → Type
  | challenge => Challenge
  | serverAdd => ServerAdd
  | serverRemove => ServerRemove
  | getServerInfoResponse => GetServerInfoResponse
  | getChallengeResponse => GetChallengeResponse
  | getServerInfo2Response => GetServerInfo2Response
  | getServerInfo2ResponseOld => GetServerInfo2ResponseOld
  | getPlayersResponse => GetPlayersResponse
  | serverPacket => Option Server.Packet
  | queryServers => QueryServers Filter
  | getServerInfo => GetServerInfo
  | getChallenge => GetChallenge
  | getServerInfo2 => GetServerInfo2
  | getPlayers => GetPlayers
  | gamePacket => Option GamePacket
  | challengeResponse => ChallengeResponse
  | queryServersResponse => QueryServersResponse
  | clientAnnounce => ClientAnnounce
  | adminChallengeResponse => AdminChallengeResponse
  | masterPacket => Option MasterPacket
  | adminChallenge => AdminChallenge
  | adminCommand _ => AdminCommand
  | adminPacket _ => Option AdminPacket

def decode (parseAddr : Bytes → Option SocketAddr) (src : Bytes) :
    (d : Decoder) → Except ProtocolError d.Output
  | challenge => Challenge.decode src
  | serverAdd => ServerAdd.decode src
  | serverRemove => ServerRemove.decode src
  | getServerInfoResponse => GetServerInfoResponse.decode src
  | getChallengeResponse => GetChallengeResponse.decode src
  | getServerInfo2Response => GetServerInfo2Response.decode src
  | getServerInfo2ResponseOld => GetServerInfo2ResponseOld.decode src
  | getPlayersResponse => GetPlayersResponse.decode src
  | serverPacket => Server.Packet.decode src
  | queryServers => QueryServers.decode src
  | getServerInfo => GetServerInfo.decode src
  | getChallenge => GetChallenge.decode src
  | getServerInfo2 => GetServerInfo2.decode src
  | getPlayers => GetPlayers.decode src
  | gamePacket => GamePacket.decode src
  | challengeResponse => ChallengeResponse.decode src
  | queryServersResponse => QueryServersResponse.decode src
  | clientAnnounce => ClientAnnounce.decode parseAddr src
  | adminChallengeResponse => AdminChallengeResponse.decode src
  | masterPacket => MasterPacket.decode parseAddr src
  | adminChallenge => AdminChallenge.decode src
  | adminCommand hashLen => AdminCommand.decodeWithHashLen hashLen src
  | adminPacket hashLen => AdminPacket.decode hashLen src

/-- The request for a challenge is compared as a whole, so it has no reads. -/
def decodeChecked (parseAddr : Bytes → Option SocketAddr) (src : Bytes) :
    (d : Decoder) → Except Fault (Except ProtocolError d.Output)
  | challenge => Challenge.decodeChecked src
  | serverAdd => ServerAdd.decodeChecked src
  | serverRemove => ServerRemove.decodeChecked src
  | getServerInfoResponse => GetServerInfoResponse.decodeChecked src
  | getChallengeResponse => GetChallengeResponse.decodeChecked src
  | getServerInfo2Response => GetServerInfo2Response.decodeChecked src
  | getServerInfo2ResponseOld => GetServerInfo2ResponseOld.decodeChecked src
  | getPlayersResponse => GetPlayersResponse.decodeChecked src
  | serverPacket => Server.Packet.decodeChecked src
  | queryServers => QueryServers.decodeChecked src
  | getServerInfo => GetServerInfo.decodeChecked src
  | getChallenge => GetChallenge.decodeChecked src
  | getServerInfo2 => GetServerInfo2.decodeChecked src
  | getPlayers => GetPlayers.decodeChecked src
  | gamePacket => GamePacket.decodeChecked src
  | challengeResponse => ChallengeResponse.decodeChecked src
  | queryServersResponse => QueryServersResponse.decodeChecked src
  | clientAnnounce => ClientAnnounce.decodeChecked parseAddr src
  | adminChallengeResponse => AdminChallengeResponse.decodeChecked src
  | masterPacket => MasterPacket.decodeChecked parseAddr src
  | adminChallenge => .ok (AdminChallenge.decode src)
  | adminCommand hashLen => AdminCommand.decodeWithHashLenChecked hashLen src
  | adminPacket hashLen => AdminPacket.decodeChecked hashLen src

variable {parseAddr : Bytes → Option SocketAddr} {src : Bytes}

/-- No decoder has a fault. -/
theorem decodeChecked_eq (d : Decoder) (h : src.length < 2 ^ 63) :
    d.decodeChecked parseAddr src = .ok (d.decode parseAddr src) := by
  cases d with
  | challenge => exact Challenge.decodeChecked_eq h
  | serverAdd => exact ServerAdd.decodeChecked_eq h
  | serverRemove => exact ServerRemove.decodeChecked_eq h
  | getServerInfoResponse => exact GetServerInfoResponse.decodeChecked_eq h
  | getChallengeResponse => exact GetChallengeResponse.decodeChecked_eq h
  | getServerInfo2Response => exact GetServerInfo2Response.decodeChecked_eq h
  | getServerInfo2ResponseOld => exact GetServerInfo2ResponseOld.decodeChecked_eq h
  | getPlayersResponse => exact GetPlayersResponse.decodeChecked_eq h
  | serverPacket => exact Server.Packet.decodeChecked_eq h
  | queryServers => exact QueryServers.decodeChecked_eq h
  | getServerInfo => exact GetServerInfo.decodeChecked_eq h
  | getChallenge => exact GetChallenge.decodeChecked_eq h
  | getServerInfo2 => exact GetServerInfo2.decodeChecked_eq h
  | getPlayers => exact GetPlayers.decodeChecked_eq h
  | gamePacket => exact GamePacket.decodeChecked_eq h
  | challengeResponse => exact ChallengeResponse.decodeChecked_eq h
  | queryServersResponse => exact QueryServersResponse.decodeChecked_eq h
  | clientAnnounce => exact ClientAnnounce.decodeChecked_eq h
  | adminChallengeResponse => exact AdminChallengeResponse.decodeChecked_eq h
  | masterPacket => exact MasterPacket.decodeChecked_eq h
  | adminChallenge => rfl
  | adminCommand hashLen => exact AdminCommand.decodeWithHashLenChecked_eq hashLen.2 h
  | adminPacket hashLen => exact AdminPacket.decodeChecked_eq hashLen.2 h

end Decoder

open Broker in
/-- No fault on a frame, whichever message it is decoded as. -/
structure JustifiedFrame (parseAddr : Bytes → Option SocketAddr) (f : Frame) : Prop where
  gamedir : Gamedir.decodeChecked f = .ok (Gamedir.decode f)
  connect : Connect.decodeChecked parseAddr f = .ok (Connect.decode parseAddr f)
  disconnect : Disconnect.decodeChecked parseAddr f = .ok (Disconnect.decode parseAddr f)
  terminate : Terminate.decodeChecked f = .ok (Terminate.decode f)
  connectResponse : ConnectResponse.decodeChecked f = .ok (ConnectResponse.decode f)
  clientPacket : ClientPacket.decodeChecked parseAddr f = .ok (ClientPacket.decode parseAddr f)
  serverPacket : ServerPacket.decodeChecked f = .ok (ServerPacket.decode f)

open Broker in
theorem justifiedFrame (parseAddr : Bytes → Option SocketAddr) (f : Frame) :
    JustifiedFrame parseAddr f where
  gamedir := Gamedir.decodeChecked_eq f
  connect := Connect.decodeChecked_eq f
  disconnect := Disconnect.decodeChecked_eq f
  terminate := Terminate.decodeChecked_eq f
  connectResponse := ConnectResponse.decodeChecked_eq f
  clientPacket := ClientPacket.decodeChecked_eq f
  serverPacket := ServerPacket.decodeChecked_eq f

open Broker in
/-- No fault on a byte string: every checked function does what the function of the model does. -/
structure Justified (parseAddr : Bytes → Option SocketAddr) (src : Bytes) : Prop where
  decoders : ∀ d : Decoder, d.decodeChecked parseAddr src = .ok (d.decode parseAddr src)
  players : ∀ r, GetPlayersResponse.decode src = .ok r → r.iterChecked = .ok r.iter
  addressesV4 : ∀ r n, QueryServersResponse.decode src = .ok r →
    calls (QueryServersResponse.nextChecked SocketAddrV4) n (.new r.inner) =
      .ok (returned (QueryServersResponse.next SocketAddrV4) n (.new r.inner))
  addressesV6 : ∀ r n, QueryServersResponse.decode src = .ok r →
    calls (QueryServersResponse.nextChecked SocketAddrV6) n (.new r.inner) =
      .ok (returned (QueryServersResponse.next SocketAddrV6) n (.new r.inner))
  frame : Frame.decodeBytesChecked src = .ok ((Frame.decode src).map Frame.data)
  messages : ∀ f, Frame.decode src = .ok f → JustifiedFrame parseAddr f
  fromSlice : MapIter.fromSliceChecked src = .ok (MapIter.fromSlice src)
  slicePairs : ∀ it n, MapIter.fromSlice src = .ok it →
    calls MapIter.nextChecked n it = .ok (returned MapIter.next n it)
  fromCstr : MapIter.fromCstrChecked src = .ok (MapIter.fromCstr src)
  cstrPairs : ∀ it n, Checked.IsCstr src → MapIter.fromCstr src = .ok it →
    calls MapIter.nextChecked n it = .ok (returned MapIter.next n it)
  format : strFormatBytesChecked src = .ok (strFormatBytes src)

/-- Every byte string that fits into memory is decoded, iterated and printed without a fault. -/
theorem unsafe_justified (parseAddr : Bytes → Option SocketAddr) {src : Bytes}
    (h : src.length < 2 ^ 63) : Justified parseAddr src where
  decoders d := d.decodeChecked_eq h
  players r hr := by
    have hlen := GetPlayersResponse.length_players_le hr
    exact GetPlayersResponse.iterChecked_eq (hlen.trans_lt h)
  addressesV4 r n hr := by
    have hlen := QueryServersResponse.length_inner_le hr
    exact QueryServersResponse.calls_nextChecked SocketAddrV4 (hlen.trans_lt h) n
  addressesV6 r n hr := by
    have hlen := QueryServersResponse.length_inner_le hr
    exact QueryServersResponse.calls_nextChecked SocketAddrV6 (hlen.trans_lt h) n
  frame := by
    rw [Broker.Frame.decodeBytesChecked_eq h, Broker.Frame.map_decode]
  messages f _ := justifiedFrame parseAddr f
  fromSlice := MapIter.fromSliceChecked_eq src
  slicePairs it n hit := MapIter.calls_nextChecked (MapIter.clean_of_fromSlice h hit) n
  fromCstr := MapIter.fromCstrChecked_eq src
  cstrPairs it n hs hit := MapIter.calls_nextChecked (MapIter.clean_of_fromCstr hs h hit) n
  format := strFormatBytesChecked_eq src

/-- The first value ends the string, and the next call is the last. -/
theorem pair_of_slice : calls MapIter.nextChecked 2 ⟨ascii "map\\crossfire"⟩ =
    .ok [some (.ok (ascii "map", ascii "crossfire")), none] := by
  have hdecode : MapIter.fromSlice (ascii "\\map\\crossfire") = .ok ⟨ascii "map\\crossfire"⟩ := by
    decide +kernel
  rw [(unsafe_justified (fun _ => none) (by decide)).slicePairs _ 2 hdecode]
  decide +kernel

end Xash3d
