import Xash3d.Lib.Expiry
import Xash3d.Observer.Connection

/-!
# The observer

The state of an observer and `waitEvent`, with its tasks, its pending queries and its receive loop.
The vectors of the source are lists in the same order; loops that may run for ever take a number of
turns, after which they are said to be still running.
-/

namespace Xash3d

open Lib

/-! ## Vectors -/

section Vec

variable {α : Type}

/-- Remove the last element of a vector. -/
def popLast (l : List α) : Option (α × List α) := l.getLast?.map fun x => (x, l.dropLast)

/-- Remove an element and put the last one in its place. -/
def swapRemove (l : List α) (i : ℕ) : List α :=
  match l.getLast? with
  | none => l
  | some x => (l.set i x).dropLast

end Vec

/-! ## Masters, servers, tasks -/

structure Master where
  addr : SocketAddr
  key : UInt32
  deriving DecidableEq

namespace Master

open Prog

def new (addr : SocketAddr) : Master := ⟨addr, 0⟩

/-- Encode a query with a fresh key for each request. -/
def encodeQueryServersPacket (sys : System) (filter : Bytes) (cap : ℕ) : Prog Master Bytes := do
  let m ← getState
  let key ← random sys m.addr
  modifyState fun m => { m with key }
  unwrap <| (QueryServers.new (filter, key)).encodeWith
    (fun (filter, key) => [filter, ascii "\\key\\", numeral 16 key.toNat]) cap

end Master

structure Server where
  addr : SocketAddr
  players : Bool
  deriving DecidableEq

inductive DelayedEvent where
  | serverTimeout (addr : SocketAddr)
  | serverRemove (addr : SocketAddr)
  deriving DecidableEq

def DelayedEvent.toEvent : DelayedEvent → Event
  | serverTimeout addr => .serverInfoTimeout addr
  | serverRemove addr => .serverRemove addr

structure Task where
  time : ℕ
  interval : ℕ
  deriving DecidableEq

/-- Schedule a task anew if it is due. -/
def Task.updateTime (t : Task) (now : ℕ) : Bool × Task :=
  if t.time ≤ now then
    let time := t.time + t.interval
    (true, { t with time := if time ≤ now then now + t.interval else time })
  else (false, t)

structure Observer where
  filter : Bytes
  masters : List Master
  queryServersTask : Task
  queryInfoTask : Task
  cleanupTask : Task
  connections : AList fun _ : SocketAddr => Connection
  delayedEvents : List DelayedEvent
  pending : List Pending
  deriving DecidableEq

/-- The length of the buffer of `waitEvent`. -/
def bufferLen : ℕ := 2048

namespace Observer

open Prog

/-- An observer that was made at a reading of the clock. -/
def bind (now : ℕ) : Observer where
  filter := []
  masters := []
  queryServersTask := ⟨now, masterInterval⟩
  queryInfoTask := ⟨now, serverInterval⟩
  cleanupTask := ⟨now, serverCleanInterval⟩
  connections := ∅
  delayedEvents := []
  pending := []

/-! ## Masters and servers -/

def removePending (o : Observer) (p : Pending) : Observer :=
  match o.pending.findIdx? (· == p) with
  | some i => { o with pending := swapRemove o.pending i }
  | none => o

def getMaster (o : Observer) (addr : SocketAddr) : Option Master :=
  o.masters.find? (·.addr == addr)

def insertMaster (master : Master) : Prog Observer Unit := do
  let o ← getState
  when (o.getMaster master.addr).isNone do
    modifyState fun o => { o with
      pending := o.pending ++ [.master master.addr]
      masters := o.masters ++ [master] }
    note (.insertMaster master.addr)

def removeMaster (addr : SocketAddr) : Prog Observer Unit :=
  modifyState fun o =>
    let o := o.removePending (.master addr)
    match o.masters.findIdx? (·.addr == addr) with
    | some i => { o with masters := swapRemove o.masters i }
    | none => o

def insertServer (sys : System) (server : Server) : Prog Observer Unit := do
  let o ← getState
  when (o.connections.lookup server.addr).isNone do
    modifyState fun o => { o with pending := o.pending ++ [.server server.addr] }
    let now ← now sys
    modifyState fun o => { o with
      connections := o.connections.insert server.addr (.new server.addr server.players now) }
    note (.insertServer server.addr)

def removeServer (addr : SocketAddr) : Prog Observer Unit :=
  modifyState fun o =>
    let o := o.removePending (.server addr)
    { o with connections := o.connections.erase addr }

def setFilterRaw (filter : Bytes) : Prog Observer Unit :=
  modifyState fun o => { o with filter }

/-! ## Queries -/

/-- Run a program on a master. -/
def onMaster {α : Type} (i : ℕ) (m : Master) (p : Prog Master α) : Prog Observer α :=
  onPart (fun o => o.masters.getD i m) (fun m o => { o with masters := o.masters.set i m }) p

/-- Run a program on a connection. -/
def onConnection {α : Type} (addr : SocketAddr) (c : Connection) (p : Prog Connection α) :
    Prog Observer α :=
  onPart (fun o => (o.connections.lookup addr).getD c)
    (fun c o => { o with connections := o.connections.insert addr c }) p

def pushDelayed (e : DelayedEvent) : Prog Observer Unit :=
  modifyState fun o => { o with delayedEvents := o.delayedEvents ++ [e] }

/-- A turn of the loop over the masters. -/
def queryServersFromMaster (sys : System) (i : ℕ) : Prog Observer Unit := do
  let o ← getState
  match o.masters[i]? with
  | none => pure () -- the indices are those of the masters
  | some master => do
    let packet ← onMaster i master (Master.encodeQueryServersPacket sys o.filter bufferLen)
    -- do not send queries twice
    when (!o.pending.contains (.master master.addr)) (Prog.sendTo sys packet master.addr)

def queryServersFromMasters (sys : System) : Prog Observer Unit := do
  let o ← getState
  (List.range o.masters.length).forM (queryServersFromMaster sys)

/-- A turn of the loop over the connections. -/
def queryInfoFromServer (sys : System) (now : ℕ) (addr : SocketAddr) : Prog Observer Unit := do
  let o ← getState
  match o.connections.lookup addr with
  | none => pure () -- the addresses are those of the connections
  | some con =>
    -- an invalid connection is removed later by the cleanup
    if !con.isValid now then pure ()
    -- do not send queries twice
    else if o.pending.contains (.server addr) then pure ()
    else do
      -- this server did not send a response to the last request
      when (con.state ≠ .idle) (pushDelayed (.serverTimeout addr))
      onConnection addr con (Connection.query sys bufferLen)

/-- The addresses of the connections, in the order of the hash map. -/
def addresses (sys : System) : Prog Observer (List SocketAddr) := fun w =>
  .ok (sys.order w.trace.length w.state.connections.keys) w

def queryInfoFromServers (sys : System) : Prog Observer Unit := do
  let now ← now sys
  let o ← getState
  note (.infoTick now (o.connections.entries.map fun e => (e.1, e.2)) o.pending)
  let addrs ← addresses sys
  addrs.forM (queryInfoFromServer sys now)

/-- Query what a pending entry names. -/
def queryPending (sys : System) : Pending → Prog Observer Unit
  | .master addr => do
    let o ← getState
    match (o.masters.findIdx? (·.addr == addr)).bind fun i => o.masters[i]?.map (i, ·) with
    | some (i, master) => do
      let packet ← onMaster i master (Master.encodeQueryServersPacket sys o.filter bufferLen)
      Prog.sendTo sys packet master.addr
    | none => pure ()
  | .server addr => do
    let o ← getState
    match o.connections.lookup addr with
    | some con => onConnection addr con (Connection.query sys bufferLen)
    | none => pure ()

def popPending : Prog Observer (Option Pending) := fun w =>
  match popLast w.state.pending with
  | none => .ok none w
  | some (p, pending) => .ok (some p) { w with state := { w.state with pending } }

/-- At most `n` turns of the loop over the pending queries. -/
def processPendingLoop (sys : System) : ℕ → Prog Observer Unit
  | 0 => pure ()
  | n + 1 => do
    match ← popPending with
    | none => pure ()
    | some p => do
      queryPending sys p
      processPendingLoop sys n

/-- Each turn removes an entry and adds none. -/
def processPending (sys : System) : Prog Observer Unit := do
  let o ← getState
  processPendingLoop sys (o.pending.length + 1)

/-! ## Tasks -/

/-- A turn of the loop over the connections. -/
def cleanupServer (now : ℕ) (addr : SocketAddr) : Prog Observer Unit := do
  let o ← getState
  match o.connections.lookup addr with
  | none => pure ()
  | some con =>
    when (!con.isValid now) do
      pushDelayed (.serverRemove addr)
      modifyState fun o => { o with connections := o.connections.erase addr }
      note (.cleanup addr)

def cleanupServers (sys : System) (now : ℕ) : Prog Observer Unit := do
  let addrs ← addresses sys
  addrs.forM (cleanupServer now)

def updateQueryServersTask (now : ℕ) : Prog Observer Bool := fun w =>
  let r := w.state.queryServersTask.updateTime now
  .ok r.1 { w with state := { w.state with queryServersTask := r.2 } }

def updateQueryInfoTask (now : ℕ) : Prog Observer Bool := fun w =>
  let r := w.state.queryInfoTask.updateTime now
  .ok r.1 { w with state := { w.state with queryInfoTask := r.2 } }

def updateCleanupTask (now : ℕ) : Prog Observer Bool := fun w =>
  let r := w.state.cleanupTask.updateTime now
  .ok r.1 { w with state := { w.state with cleanupTask := r.2 } }

def processTasks (sys : System) (now : ℕ) : Prog Observer Unit := do
  let due ← updateQueryServersTask now
  when due (queryServersFromMasters sys)
  let due ← updateQueryInfoTask now
  when due (queryInfoFromServers sys)
  let due ← updateCleanupTask now
  when due (cleanupServers sys now)

/-! ## Packets -/

def handleMasterPacket (sender : SocketAddr) (data : Bytes) (key : UInt32) : Option Event :=
  match QueryServersResponse.decode data with
  | .ok response =>
    -- ignore if invalid or missing challenge key in the response
    if response.key ≠ some key then none else some (.serverList sender response)
  | .error _ =>
    -- the master server can respond with a fake server at the same address
    match GetServerInfoResponse.decode data with
    | .ok response => some (.serverInfo ⟨sender, 0, true, response⟩)
    | .error _ => some (.masterInvalidPacket sender data)

def handleServerPacket (sys : System) (sender : SocketAddr) (data : Bytes) :
    Prog Observer (Option Event) := do
  let o ← getState
  match o.connections.lookup sender with
  | none => return none
  | some con => do
    note (.handed sender data)
    let event ← onConnection sender con (Connection.handlePacket sys data)
    match event with
    | some (.serverInvalidProtocol _) =>
      modifyState fun o => { o with connections := o.connections.erase sender }
      return event
    | _ => return event

def handlePacket (sys : System) (sender : SocketAddr) (data : Bytes) :
    Prog Observer (Option Event) := do
  let o ← getState
  match o.getMaster sender with
  | some master => return handleMasterPacket sender data master.key
  | none => handleServerPacket sys sender data

/-- The receive loop, after a reading of the clock. -/
def receiveLoop (sys : System) (deadline : ℕ) : ℕ → ℕ → Prog Observer (Option Event)
  | 0, _ => throw .running
  | n + 1, now =>
    if now < deadline then do
      setReadTimeout sys
      match ← recvFrom sys with
      | .ok (sender, data) => do
        match ← handlePacket sys sender data with
        | some event => return some event
        | none => do
          let now ← Prog.now sys
          receiveLoop sys deadline n now
      | .error .addrInUse => return none
      | .error .wouldBlock => return none
      | .error .other => throw .io
    else return none

def receive (sys : System) (turns : ℕ) (userDeadline : Option ℕ) : Prog Observer (Option Event) := do
  let o ← getState
  let deadline := min o.queryServersTask.time o.queryInfoTask.time
  let now ← now sys
  receiveLoop sys (match userDeadline with
    | some t => min deadline t
    | none => deadline) turns now

/-! ## Waiting -/

def popDelayed : Prog Observer (Option DelayedEvent) := fun w =>
  match popLast w.state.delayedEvents with
  | none => .ok none w
  | some (e, delayedEvents) => .ok (some e) { w with state := { w.state with delayedEvents } }

/-- The deadline has passed. -/
def isOver (deadline : Option ℕ) (now : ℕ) : Bool :=
  match deadline with
  | some t => t ≤ now
  | none => false

/-- The loop of `waitEvent`. -/
def waitLoop (sys : System) (deadline : Option ℕ) (turns : ℕ) : ℕ → Prog Observer Event
  | 0 => throw .running
  | n + 1 => do
    let now ← now sys
    if isOver deadline now then return .timeout
    else do
      processTasks sys now
      processPending sys
      match ← popDelayed with
      | some e => return e.toEvent
      | none => do
        match ← receive sys turns deadline with
        | some event => return event
        | none => waitLoop sys deadline turns n

/-- Wait for an event. Each of the two loops makes at most `turns` turns. -/
def waitEvent (sys : System) (turns : ℕ) (timeout : Option ℕ) : Prog Observer Event := do
  match ← popDelayed with
  | some e => return e.toEvent
  | none => do
    match timeout with
    | some t => do
      let deadline ← after sys t
      waitLoop sys (some deadline) turns turns
    | none => waitLoop sys none turns turns

end Observer

end Xash3d
