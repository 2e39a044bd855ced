import Xash3d.Protocol.Net.Server

/-!
# Server query filter

`Filter` is what a client asks for: parsed from a map string, compared with a `ServerInfo`, and
printed back into a map string.
-/

namespace Xash3d

open Lib

/-- Server filter. -/
structure Filter where
  gamedir : Option Bytes
  map : Option Bytes
  clver : Option Version
  protocol : Option UInt8
  clientOs : Option Bytes
  clientArch : Option Bytes
  clientBranch : Option Bytes
  clientCommit : Option Bytes
  clientBuildnum : Option UInt32
  key : Option UInt32
  flags : FilterFlags
  flagsMask : FilterFlags
  deriving DecidableEq

/-- The keys of a filter string. -/
inductive FilterKey where
  | dedicated
  | secure
  | gamedir
  | map
  | protocol
  | empty
  | full
  | password
  | noplayers
  | clver
  | os
  | arch
  | branch
  | commit
  | buildnum
  | nat
  | lan
  | bots
  | key
  deriving DecidableEq

namespace FilterKey

/-- The name of a key, as in the packet and in errors. -/
def name : FilterKey → String
  | dedicated => "dedicated"
  | secure => "secure"
  | gamedir => "gamedir"
  | map => "map"
  | protocol => "protocol"
  | empty => "empty"
  | full => "full"
  | password => "password"
  | noplayers => "noplayers"
  | clver => "clver"
  | os => "os"
  | arch => "arch"
  | branch => "branch"
  | commit => "commit"
  | buildnum => "buildnum"
  | nat => "nat"
  | lan => "lan"
  | bots => "bots"
  | key => "key"

def keys : List FilterKey :=
  [dedicated, secure, gamedir, map, protocol, empty, full, password, noplayers, clver, os, arch,
    branch, commit, buildnum, nat, lan, bots, key]

/-- The key of a map string. -/
def ofBytes (key : Bytes) : Option FilterKey := keys.find? fun k => ascii k.name == key

@[simp] theorem ofBytes_name (k : FilterKey) : ofBytes (ascii k.name) = some k := by
  cases k <;> decide +kernel

end FilterKey

namespace Filter

instance : Inhabited Filter :=
  ⟨⟨none, none, none, none, none, none, none, none, none, none, Flags.empty, Flags.empty⟩⟩

/-- Insert filter flag. -/
def insertFlag (f : Filter) (flag : FilterFlags) (value : Bool) : Filter :=
  { f with flags := f.flags.set flag value, flagsMask := f.flagsMask.insert flag }

/-- Test if all `other` flags are set in `flagsMask` and in `flags`. -/
def containsFlags (f : Filter) (other : FilterFlags) : Option Bool :=
  if f.flagsMask.contains other then some (f.flags.contains other) else none

/-- Returns `true` if a server matches the filter. -/
def «matches» (f : Filter) (info : ServerInfo) : Bool :=
  !(info.flags.inter f.flagsMask != f.flags
    || f.gamedir.any (· != info.gamedir)
    || f.map.any (· != info.map)
    || f.protocol.any (· != info.protocol))

def setFlag (f : Filter) (flag : FilterFlags) (value : Bytes) : Except CursorError Filter := do
  let v ← parseBool value
  return f.insertFlag flag v

/-- Set the field of a known key. -/
def setKey (f : Filter) (k : FilterKey) (value : Bytes) : Except CursorError Filter :=
  match k with
  | .dedicated => f.setFlag FilterFlags.dedicated value
  | .secure => f.setFlag FilterFlags.secure value
  | .gamedir => .ok { f with gamedir := some value }
  | .map => .ok { f with map := some value }
  | .protocol => return { f with protocol := some (← parseU8 value) }
  | .empty => f.setFlag FilterFlags.empty value
  | .full => f.setFlag FilterFlags.full value
  | .password => f.setFlag FilterFlags.password value
  | .noplayers => f.setFlag FilterFlags.noplayers value
  | .clver => return { f with clver := some (← parseVersion value) }
  | .os => .ok { f with clientOs := some value }
  | .arch => .ok { f with clientArch := some value }
  | .branch => .ok { f with clientBranch := some value }
  | .commit => .ok { f with clientCommit := some value }
  | .buildnum => return { f with clientBuildnum := some (← parseU32 value) }
  | .nat => f.setFlag FilterFlags.nat value
  | .lan => f.setFlag FilterFlags.lan value
  | .bots => f.setFlag FilterFlags.bots value
  | .key => return { f with key := some (← parseHex32 value) }

/-- Set the field of a key; the flag tells whether the key is known. -/
def set (f : Filter) (key value : Bytes) : Except CursorError (Bool × Filter) :=
  match FilterKey.ofBytes key with
  | none => .ok (false, f)
  | some k => (fun f => (true, f)) <$> f.setKey k value

/-- The name of a key in an error. -/
def keyNameStr (key : Bytes) : String := ((FilterKey.ofBytes key).map (·.name)).getD "unknown"

/-- One turn of the parsing loop. -/
def visit (f : Filter) (key value : Bytes) : Except ProtocolError Filter :=
  match f.set key value with
  | .ok (_, f) => .ok f
  | .error err => .error (.invalidFilterValue (keyNameStr key) err)

def fromMapIter (iter : MapIter) : Except ProtocolError Filter := iter.tryFold visit default

def fromSlice (src : Bytes) : Except ProtocolError Filter := do
  let iter ← MapIter.fromSlice src
  fromMapIter iter

/-! ## Printing -/

/-- The piece `\key\`. -/
def displayName (k : FilterKey) : Bytes := 92 :: (ascii k.name ++ [92])

/-- The pieces of an optional field, whose value is printed by `fmt`. -/
def displaySome {α : Type} (k : FilterKey) (value : Option α) (fmt : α → List Bytes) :
    List Bytes :=
  match value with
  | some s => displayName k :: fmt s
  | none => []

/-- The pieces of a flag. -/
def displayFlag (f : Filter) (k : FilterKey) (flag : FilterFlags) : List Bytes :=
  if f.flagsMask.contains flag then
    [displayName k, [if f.flags.contains flag then 49 else 48]]
  else []

/-- The pieces `Display` writes. -/
def display (f : Filter) : List Bytes :=
  f.displayFlag .dedicated FilterFlags.dedicated ++
  f.displayFlag .secure FilterFlags.secure ++
  displaySome .gamedir f.gamedir strFormatBytes ++
  f.displayFlag .secure FilterFlags.secure ++
  displaySome .map f.map strFormatBytes ++
  f.displayFlag .empty FilterFlags.empty ++
  f.displayFlag .full FilterFlags.full ++
  f.displayFlag .password FilterFlags.password ++
  f.displayFlag .noplayers FilterFlags.noplayers ++
  displaySome .clver f.clver Version.display ++
  f.displayFlag .nat FilterFlags.nat ++
  f.displayFlag .lan FilterFlags.lan ++
  f.displayFlag .bots FilterFlags.bots ++
  displaySome .key f.key (fun n => [numeral 16 n.toNat]) ++
  displaySome .protocol f.protocol (fun n => [numeral 10 n.toNat]) ++
  displaySome .buildnum f.clientBuildnum (fun n => [numeral 10 n.toNat]) ++
  displaySome .os f.clientOs strFormatBytes ++
  displaySome .arch f.clientArch strFormatBytes ++
  displaySome .branch f.clientBranch strFormatBytes ++
  displaySome .commit f.clientCommit strFormatBytes

end Filter

end Xash3d
