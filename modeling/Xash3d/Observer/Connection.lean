import Xash3d.Lib.Hoare
import Xash3d.Protocol.Net.Game
import Xash3d.Protocol.Net.Master
import Xash3d.Protocol.Net.Server

/-!
# Connections of the observer

An observer reads the clock, draws random numbers and uses a socket. What it does is recorded in a
trace of actions, and the number of actions so far tells what the `System` answers next. A program
of the observer (`Prog`) changes a state, adds to the trace, and returns or stops.

`Connection` is what the observer knows of a game server.
-/

namespace Xash3d

open Lib

/-- The protocol version of the engine. -/
def protocolVersion : UInt8 := 49

/-- Times and durations are counted in nanoseconds. -/
def secs (n : ℕ) : ℕ := n * 1000000000

def masterInterval : ℕ := secs 8
def serverInterval : ℕ := secs 2
def serverTimeout : ℕ := secs 16
def serverCleanInterval : ℕ := secs 16

/-! ## Events -/

namespace Event

/-- Information about a server. -/
structure ServerInfo where
  server : SocketAddr
  ping : ℕ
  changed : Bool
  response : GetServerInfoResponse
  deriving DecidableEq

end Event

inductive Event where
  | timeout
  | serverList (master : SocketAddr) (response : QueryServersResponse)
  | serverInfo (info : Event.ServerInfo)
  | serverInfoTimeout (addr : SocketAddr)
  | serverPlayers (addr : SocketAddr) (response : GetPlayersResponse)
  | serverRemove (addr : SocketAddr)
  | masterInvalidPacket (addr : SocketAddr) (data : Bytes)
  | serverInvalidProtocol (addr : SocketAddr)
  | serverInvalidPacket (addr : SocketAddr) (data : Bytes)
  deriving DecidableEq

/-! ## The state of a connection -/

inductive ConnectionState where
  /-- Server protocol version is not known yet. -/
  | protocolDetection
  /-- No packets is expected from a server. -/
  | idle
  /-- Waiting for info from a server. -/
  | waitingInfo
  deriving DecidableEq

structure Connection where
  address : SocketAddr
  protocol : UInt8
  players : Bool
  state : ConnectionState
  requestTime : ℕ
  responseTime : ℕ
  challenge : Option UInt32
  waitPlayers : Bool
  data : Bytes
  deriving DecidableEq

inductive Pending where
  | master (addr : SocketAddr)
  | server (addr : SocketAddr)
  deriving DecidableEq

/-! ## Actions and programs -/

/-- Errors of a receiving socket. -/
inductive ErrorKind where
  | addrInUse
  | wouldBlock
  | other
  deriving DecidableEq

/-- What an observer does. The last five are notes of what happens to its state. -/
inductive Action where
  | now
  /-- A key is drawn for a query to a master. -/
  | draw (master : SocketAddr) (key : UInt32)
  | send (dest : SocketAddr) (packet : Bytes) (ok : Bool)
  | setReadTimeout (ok : Bool)
  | recv (sender : SocketAddr) (data : Bytes)
  | recvError (kind : ErrorKind)
  | insertMaster (addr : SocketAddr)
  | insertServer (addr : SocketAddr)
  /-- A received datagram goes to the connection of its sender. -/
  | handed (addr : SocketAddr) (data : Bytes)
  /-- The periodic queries for information start, in a state, at a reading of the clock. -/
  | infoTick (now : ℕ) (connections : List (SocketAddr × Connection)) (pending : List Pending)
  /-- The cleanup removes a connection. -/
  | cleanup (addr : SocketAddr)
  deriving DecidableEq

/-- The system an observer runs on: what it answers, by the number of actions before. -/
structure System where
  clock : ℕ → ℕ
  clock_mono : Monotone clock
  rng : ℕ → UInt32
  /-- Whether the socket takes a datagram. -/
  send : ℕ → Bool
  setReadTimeout : ℕ → Bool
  recv : ℕ → Except ErrorKind (SocketAddr × Bytes)
  /-- Whether the most verbose log level is on. -/
  traceEnabled : ℕ → Bool
  /-- The order in which the hash map of connections is iterated. -/
  order : ℕ → List SocketAddr → List SocketAddr
  order_perm : ∀ n l, (order n l).Perm l
  /-- Whether the clock can represent a moment. -/
  representable : ℕ → Bool := fun _ => true

/-- Why a program does not return. -/
inductive Stop where
  | io
  | panic
  /-- A moment cannot be represented, which is a panic as well. -/
  | overflow
  /-- It still runs. -/
  | running
  deriving DecidableEq

structure World (S : Type) where
  state : S
  trace : List Action
  deriving DecidableEq

abbrev Prog (S α : Type) := EStateM Stop (World S) α

namespace Prog

variable {S α : Type}

def getState : Prog S S := fun w => .ok w.state w

def modifyState (f : S → S) : Prog S Unit := fun w => .ok () { w with state := f w.state }

/-- Note what happens to the state. -/
def note (a : Action) : Prog S Unit := fun w => .ok () { w with trace := w.trace ++ [a] }

/-- Run a program if a condition holds. -/
def when (b : Bool) (m : Prog S Unit) : Prog S Unit := if b then m else pure ()

def unwrap (r : Except ProtocolError α) : Prog S α :=
  match r with
  | .ok a => pure a
  | .error _ => throw .panic

/-- Read the clock. -/
def now (sys : System) : Prog S ℕ := fun w =>
  .ok (sys.clock w.trace.length) { w with trace := w.trace ++ [.now] }

/-- The moment that is a while from now. -/
def after (sys : System) (t : ℕ) : Prog S ℕ := do
  let now ← now sys
  if sys.representable (now + t) then pure (now + t) else throw .overflow

/-- Draw a random number for a master. -/
def random (sys : System) (master : SocketAddr) : Prog S UInt32 := fun w =>
  .ok (sys.rng w.trace.length)
    { w with trace := w.trace ++ [.draw master (sys.rng w.trace.length)] }

def sendTo (sys : System) (packet : Bytes) (dest : SocketAddr) : Prog S Unit := fun w =>
  let w' := { w with trace := w.trace ++ [.send dest packet (sys.send w.trace.length)] }
  if sys.send w.trace.length then .ok () w' else .error .io w'

def setReadTimeout (sys : System) : Prog S Unit := fun w =>
  let w' := { w with trace := w.trace ++ [.setReadTimeout (sys.setReadTimeout w.trace.length)] }
  if sys.setReadTimeout w.trace.length then .ok () w' else .error .io w'

/-- Receive a datagram, or fail. -/
def recvFrom (sys : System) : Prog S (Except ErrorKind (SocketAddr × Bytes)) := fun w =>
  match sys.recv w.trace.length with
  | .ok (sender, data) =>
    .ok (.ok (sender, data)) { w with trace := w.trace ++ [.recv sender data] }
  | .error kind => .ok (.error kind) { w with trace := w.trace ++ [.recvError kind] }

def traceEnabled (sys : System) : Prog S Bool := fun w =>
  .ok (sys.traceEnabled w.trace.length) w

/-- Run a program on a part of the state. -/
def onPart {T : Type} (get : S → T) (put : T → S → S) (m : Prog T α) : Prog S α :=
  Lib.zoom (fun w => ⟨get w.state, w.trace⟩) (fun v w => ⟨put v.state w.state, v.trace⟩) m

end Prog

/-! ## Operations -/

namespace Connection

open Prog

/-- A connection that was made at a reading of the clock. -/
def new (address : SocketAddr) (players : Bool) (now : ℕ) : Connection where
  address
  protocol := protocolVersion
  players
  state := .protocolDetection
  requestTime := now
  responseTime := now
  challenge := none
  waitPlayers := false
  data := []

def isValid (c : Connection) (now : ℕ) : Bool := now - c.responseTime < serverTimeout

def ping (c : Connection) : ℕ := c.responseTime - c.requestTime

def setLegacyProtocol (c : Connection) : Connection := { c with protocol := protocolVersion - 1 }

/-- Keep a reply, and tell whether it differs from the one before. -/
def updateRawInfo (c : Connection) (buf : Bytes) : Bool × Connection :=
  if c.data = buf then (false, { c with state := .idle })
  else (true, { c with state := .idle, data := buf })

/-- An information is asked for at a reading of the clock. -/
def asked (c : Connection) (now : ℕ) : Connection :=
  { c with
    requestTime := now
    state := if c.state = .idle then .waitingInfo else c.state }

/-- Query the information into a buffer of `cap` bytes. -/
def queryInfo (sys : System) (cap : ℕ) : Prog Connection Unit := do
  let now ← now sys
  modifyState (asked · now)
  let c ← getState
  let data ← unwrap ((GetServerInfo.mk c.protocol).encode cap)
  Prog.sendTo sys data c.address
  let trace ← traceEnabled sys
  when trace do
    let data ← unwrap ((GetServerInfo2.mk c.challenge).encode cap)
    Prog.sendTo sys data c.address

def queryPlayers (sys : System) (cap : ℕ) : Prog Connection Unit := do
  modifyState fun c => { c with waitPlayers := true }
  let c ← getState
  let data ← unwrap <| match c.challenge.bind GetPlayers.new with
    | some req => req.encode cap
    | none => GetChallenge.mk.encode cap
  Prog.sendTo sys data c.address

def query (sys : System) (cap : ℕ) : Prog Connection Unit := do
  queryInfo sys cap
  let c ← getState
  when c.players (queryPlayers sys cap)

/-- Handle what is none of the other packets. -/
def handleInfo (sys : System) (data : Bytes) : Prog Connection (Option Event) :=
  match GetServerInfoResponse.decode data with
  | .ok response => do
    let now ← now sys
    modifyState fun c => { c with responseTime := now }
    let c ← getState
    let raw := c.updateRawInfo data
    modifyState fun _ => raw.2
    return some (.serverInfo ⟨c.address, c.ping, raw.1, response⟩)
  | .error .invalidProtocolVersion => do
    let c ← getState
    if c.state = .protocolDetection ∧ c.protocol = protocolVersion then do
      -- try legacy protocol version
      modifyState setLegacyProtocol
      query sys 512
      return none
    else return some (.serverInvalidProtocol c.address)
  | .error _ => do
    let c ← getState
    return some (.serverInvalidPacket c.address data)

def handlePacket (sys : System) (data : Bytes) : Prog Connection (Option Event) :=
  match GetChallengeResponse.decode data with
  | .ok response => do
    modifyState fun c => { c with challenge := some response.challenge }
    let c ← getState
    when c.waitPlayers (queryPlayers sys 32) -- repeat request
    return none
  | .error _ =>
    -- the information of the source engine is logged only
    if GetServerInfo2Response.header.isPrefixOf data then return none
    else if GetServerInfo2ResponseOld.header.isPrefixOf data then return none
    else match GetPlayersResponse.decode data with
      | .ok response => do
        let c ← getState
        if !c.waitPlayers then return none -- unexpected response
        else do
          modifyState fun c => { c with waitPlayers := false }
          return some (.serverPlayers c.address response)
      | .error _ => handleInfo sys data

end Connection

end Xash3d
