import Xash3d.Protocol.Cursor

/-!
# Admin packets
-/

namespace Xash3d

open Lib

/-- Admin challenge request. -/
structure AdminChallenge where
  deriving DecidableEq

namespace AdminChallenge

def header : Bytes := ascii "adminchallenge"

def decode (src : Bytes) : Except ProtocolError AdminChallenge :=
  if src = header then .ok ⟨⟩ else .error (.cursorError .expect)

def encode (cap : ℕ) (_ : AdminChallenge) : Except ProtocolError Bytes :=
  encodeTo cap (CursorMut.putBytes header)

end AdminChallenge

/-- Admin command. -/
structure AdminCommand where
  masterChallenge : UInt32
  hash : Bytes
  command : Bytes
  deriving DecidableEq

namespace AdminCommand

def header : Bytes := ascii "admin"

/-- Decode packet from `src` with specified hash length. -/
def decodeWithHashLen (hashLen : ℕ) (src : Bytes) : Except ProtocolError AdminCommand :=
  Read.run (do
    (Cursor.expect header).lift
    let masterChallenge ← Cursor.getU32Le.lift
    let hash ← (Cursor.getBytes hashLen).lift
    let s ← Cursor.rest
    let command ← (Cursor.getStr s.length).lift
    Cursor.expectEmpty.lift
    return ⟨masterChallenge, hash, command⟩) src

open CursorMut in
def encode (cap : ℕ) (m : AdminCommand) : Except ProtocolError Bytes :=
  encodeTo cap <|
    putBytes header >=>
    putU32Le m.masterChallenge >=>
    putBytes m.hash >=>
    putBytes m.command

end AdminCommand

/-- Admin packet. -/
inductive AdminPacket where
  | adminChallenge
  | adminCommand (m : AdminCommand)
  deriving DecidableEq

/-- Decode packet from `src` with specified hash length. -/
def AdminPacket.decode (hashLen : ℕ) (src : Bytes) : Except ProtocolError (Option AdminPacket) :=
  if AdminChallenge.header.isPrefixOf src then
    (AdminChallenge.decode src).map fun _ => some .adminChallenge
  else if AdminCommand.header.isPrefixOf src then
    (AdminCommand.decodeWithHashLen hashLen src).map fun m => some (.adminCommand m)
  else .ok none

end Xash3d
