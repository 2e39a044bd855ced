import Xash3d.Protocol.Filter

/-!
# Game client packets
-/

namespace Xash3d

open Lib

/-- Request a list of server addresses from master servers. -/
structure QueryServers (T : Type) where
  region : Region
  last : Bytes
  filter : T
  deriving DecidableEq

namespace QueryServers

variable {T : Type}

def header : Bytes := ascii "1"

/-- A query for the rest of the world with a given filter. -/
def new (filter : T) : QueryServers T := ⟨.restOfTheWorld, ascii "0.0.0.0:0", filter⟩

/-- Decode a query whose filter is parsed by `tryFrom`. -/
def decodeWith (tryFrom : Bytes → Except ProtocolError T) (src : Bytes) :
    Except ProtocolError (QueryServers T) := Read.run (do
  (Cursor.expect header).lift
  let b ← Cursor.getU8.lift
  let region ← Read.ofExcept ((Region.tryFrom b).mapError fun _ => .invalidRegion)
  let last ← Cursor.getCstr.lift
  let cstr ← Cursor.getCstrFfi.attempt
  let filterRaw ← match cstr with
    | .ok s => do
      Cursor.expectEmpty.lift
      pure (Cursor.toBytes s)
    | .error (_ : CursorError) => Cursor.rest -- the engine writes no zero byte at the end
  let filter ← Read.ofExcept (tryFrom filterRaw)
  return ⟨region, last, filter⟩) src

/-- Decode a query for servers. -/
def decode (src : Bytes) : Except ProtocolError (QueryServers Filter) :=
  decodeWith Filter.fromSlice src

open CursorMut in
/-- Encode a query whose filter is printed by `display`. -/
def encodeWith (display : T → List Bytes) (cap : ℕ) (q : QueryServers T) :
    Except ProtocolError Bytes :=
  encodeTo cap <|
    putBytes header >=>
    putU8 q.region.toU8 >=>
    putAsStr (strFormatBytes q.last) >=>
    putU8 0 >=>
    putAsStr (display q.filter) >=>
    putU8 0

/-- Encode a query for servers. -/
def encode (cap : ℕ) (q : QueryServers Filter) : Except ProtocolError Bytes :=
  encodeWith Filter.display cap q

end QueryServers

/-- Request an information from a game server. -/
structure GetServerInfo where
  protocol : UInt8
  deriving DecidableEq

namespace GetServerInfo

def header : Bytes := [0xff, 0xff, 0xff, 0xff] ++ ascii "info "

def decode (src : Bytes) : Except ProtocolError GetServerInfo := Read.run (do
  (Cursor.expect header).lift
  let s ← Cursor.rest
  let s ← (Cursor.getStr s.length).lift
  match parseUnsigned 255 10 s with
  | some n => return ⟨UInt8.ofNat n⟩
  | none => Read.fail .invalidPacket) src

open CursorMut in
def encode (cap : ℕ) (r : GetServerInfo) : Except ProtocolError Bytes :=
  encodeTo cap (putBytes header >=> putAsStr [numeral 10 r.protocol.toNat])

end GetServerInfo

/-- Request a challenge number from a game server. -/
structure GetChallenge where
  deriving DecidableEq

namespace GetChallenge

def header : Bytes := [0xff, 0xff, 0xff, 0xff] ++ ascii "U" ++ [0xff, 0xff, 0xff, 0xff]

def encode (cap : ℕ) (_ : GetChallenge) : Except ProtocolError Bytes :=
  encodeTo cap (CursorMut.putBytes header)

end GetChallenge

/-- Request player list from a game server. -/
structure GetPlayers where
  challenge : UInt32
  deriving DecidableEq

namespace GetPlayers

def header : Bytes := [0xff, 0xff, 0xff, 0xff] ++ ascii "U"

/-- There is no such request with the challenge of `GetChallenge`. -/
def new (challenge : UInt32) : Option GetPlayers :=
  if challenge ≠ 0xffffffff then some ⟨challenge⟩ else none

open CursorMut in
def encode (cap : ℕ) (r : GetPlayers) : Except ProtocolError Bytes :=
  encodeTo cap (putBytes header >=> putU32Le r.challenge)

end GetPlayers

/-- Request an information from a game server, of the source engine. -/
structure GetServerInfo2 where
  challenge : Option UInt32
  deriving DecidableEq

namespace GetServerInfo2

def header : Bytes := [0xff, 0xff, 0xff, 0xff] ++ ascii "TSource Engine Query" ++ [0]

open CursorMut in
def encode (cap : ℕ) (r : GetServerInfo2) : Except ProtocolError Bytes :=
  encodeTo cap <|
    putBytes header >=>
    match r.challenge with
    | some challenge => putU32Le challenge
    | none => .ok

end GetServerInfo2

/-- A query without its last zero byte. -/
example :
    (QueryServers.decode
        ([0x31, 0xff] ++ ascii "0.0.0.0:0" ++ [0] ++ ascii "\\protocol\\48\\clver\\0.20\\nat\\0")).toOption
      = some (.new { (default : Filter) with
          protocol := some 48, clver := some (.new 0 20), flagsMask := FilterFlags.nat }) := by
  decide +kernel

end Xash3d
