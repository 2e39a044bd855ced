import Xash3d.Master.Config
import Xash3d.Observer.Observer
import Xash3d.Query.ServerResult

/-!
# The query for information

`QueryServersInfo` asks game servers for their information with an observer and collects the results.
Its servers are those of the command line (`runCustomServers`), or those of master servers (`run`).
-/

namespace Xash3d.Query

open Lib

/-- The options that a query reads. -/
structure Cli where
  masters : List Bytes
  masterTimeout : ℕ
  serverTimeout : ℕ
  players : Bool
  filter : Bytes

/-- Why a query does not return. -/
inductive QueryStop where
  | observer (stop : Stop)
  /-- There is no server where one is expected. -/
  | expectServer
  deriving DecidableEq

structure QueryServersInfo where
  custom : Bool
  players : Bool
  timeoutMaster : Bool
  timeout : ℕ
  servers : AList fun _ : SocketAddr => ServerResult
  serversCustom : Finset SocketAddr
  observer : Observer

abbrev QueryProg (α : Type) := EStateM QueryStop (World QueryServersInfo) α

/-- Why a query returns. -/
inductive Ending where
  /-- All requested servers have answered. -/
  | early
  | timeout
  | elapsed
  deriving DecidableEq

/-! ## Programs -/

def getQuery : QueryProg QueryServersInfo := fun w => .ok w.state w

def modifyQuery (f : QueryServersInfo → QueryServersInfo) : QueryProg Unit := fun w =>
  .ok () { w with state := f w.state }

/-- Run a program of the observer. -/
def onObserver {α : Type} (m : Prog Observer α) : QueryProg α := fun w =>
  match m ⟨w.state.observer, w.trace⟩ with
  | .ok a v => .ok a ⟨{ w.state with observer := v.state }, v.trace⟩
  | .error e v => .error (.observer e) ⟨{ w.state with observer := v.state }, v.trace⟩

/-- The servers of a list, of the address family of the master. -/
def listed (master : SocketAddr) (response : QueryServersResponse) : List SocketAddr :=
  match master with
  | .v4 _ => (response.iter SocketAddrV4).map .v4
  | .v6 _ => (response.iter SocketAddrV6).map .v6

namespace QueryServersInfo

def new (cli : Cli) (observer : Observer) (custom : Bool) : QueryServersInfo where
  custom
  players := cli.players
  -- wait for a response of any master server, then for the game servers
  timeoutMaster := !custom
  timeout := if custom then cli.serverTimeout else cli.masterTimeout
  servers := ∅
  serversCustom := ∅
  observer

/-! ## Servers -/

/-- Set the default result of a server that has none. -/
def addServer (q : QueryServersInfo) (addr : SocketAddr) : QueryServersInfo :=
  if addr ∈ q.servers then q else { q with servers := q.servers.insert addr (.newTimeout addr) }

def insertServer (sys : System) (addr : SocketAddr) : QueryProg Unit := do
  let q ← getQuery
  onObserver (Observer.insertServer sys ⟨addr, q.players⟩)
  modifyQuery (·.addServer addr)

def insertCustomServer (sys : System) (addr : SocketAddr) : QueryProg Unit := do
  modifyQuery fun q => { q with serversCustom := insert addr q.serversCustom }
  insertServer sys addr

/-- A requested server needs no more answers. -/
def removeCustom (q : QueryServersInfo) (addr : SocketAddr) (done : Bool) : QueryServersInfo :=
  if q.custom && done then { q with serversCustom := q.serversCustom.erase addr } else q

/-- Keep a result. -/
def put (q : QueryServersInfo) (addr : SocketAddr) (r : ServerResult) : QueryServersInfo :=
  { q with servers := q.servers.insert addr r }

def setServerResult (q : QueryServersInfo) (addr : SocketAddr) (result : ServerResult) :
    QueryServersInfo :=
  (q.removeCustom addr true).put addr result

def setServerResultOk (q : QueryServersInfo) (addr : SocketAddr) (ping : ℕ) (info : ServerInfo) :
    QueryServersInfo :=
  let e := (q.servers.lookup addr).getD (.newTimeout addr)
  (q.removeCustom addr (!q.players || e.hasPlayers)).put addr (e.setOk ping info)

/-- The server must be known. -/
def setServerPlayers (q : QueryServersInfo) (addr : SocketAddr) (players : Players) :
    Option QueryServersInfo :=
  (q.servers.lookup addr).map fun e =>
    (q.removeCustom addr (!q.players || e.isOk)).put addr (e.setPlayers players)

/-- An invalid packet does not replace an answer. -/
def setInvalidPacket (q : QueryServersInfo) (addr : SocketAddr) (data : Bytes) : QueryServersInfo :=
  if (q.servers.lookup addr).all (·.kind.isTimeout) then
    q.setServerResult addr (.newInvalidPacket addr data)
  else q

/-- The timeout of the game servers starts with the first list. -/
def gotList (q : QueryServersInfo) (cli : Cli) : QueryServersInfo :=
  if q.timeoutMaster then { q with timeoutMaster := false, timeout := cli.serverTimeout } else q

/-! ## The loop -/

def handleEvent (sys : System) (cli : Cli) : Event → QueryProg Unit
  | .serverList master response => do
    modifyQuery (·.gotList cli)
    (listed master response).forM (insertServer sys)
  | .serverInfo info =>
    modifyQuery (·.setServerResultOk info.server info.ping (.ofEvent info))
  | .serverPlayers addr response => do
    let q ← getQuery
    match q.setServerPlayers addr (.ofEvent response) with
    | some q => modifyQuery fun _ => q
    | none => throw .expectServer
  | .serverInvalidProtocol addr =>
    modifyQuery (·.setServerResult addr (.newInvalidProtocol addr))
  | .serverInvalidPacket addr data => modifyQuery (·.setInvalidPacket addr data)
  | _ => pure ()

/-- At most `n` turns of the loop. The events so far are returned with the ending. -/
def runLoop (sys : System) (cli : Cli) (turns startTime : ℕ) :
    ℕ → Option ℕ → List Event → QueryProg (Ending × List Event)
  | 0, _, _ => throw (.observer .running)
  | n + 1, remaining, told => do
    match remaining with
    | none => return (.elapsed, told)
    | some _ => do
      let q ← getQuery
      if q.custom ∧ q.serversCustom = ∅ then return (.early, told)
      else do
        let e ← onObserver (Observer.waitEvent sys turns remaining)
        if e = .timeout then return (.timeout, told)
        else do
          handleEvent sys cli e
          let now ← onObserver (Prog.now sys)
          let q ← getQuery
          let elapsed := now - startTime
          runLoop sys cli turns startTime n
            (if elapsed ≤ q.timeout then some (q.timeout - elapsed) else none) (told ++ [e])

/-- The program up to the printing of the results. -/
def run (sys : System) (cli : Cli) (turns n : ℕ) : QueryProg (Ending × List Event) := do
  let q ← getQuery
  let startTime ← onObserver (Prog.now sys)
  runLoop sys cli turns startTime n (some q.timeout) []

end QueryServersInfo

/-! ## Commands -/

/-- An observer with the filter of the command line, in a query. -/
def start (sys : System) (cli : Cli) (custom : Bool) : World QueryServersInfo where
  state := .new cli { Observer.bind (sys.clock 0) with filter := cli.filter } custom
  trace := [.now]

/-- Insert the first address that a name stands for, of the family of the socket. -/
def insertMasterNamed (resolve : Bytes → Option (List SocketAddr)) (name : Bytes) :
    Prog Observer Unit :=
  match resolve name with
  | none => throw .io
  | some addrs =>
    match addrs.find? SocketAddr.isIpv4 with
    | some addr => Observer.insertMaster (.new addr)
    | none => pure ()

def run (sys : System) (resolve : Bytes → Option (List SocketAddr)) (cli : Cli) (turns n : ℕ) :
    QueryProg (Ending × List Event) := do
  onObserver (cli.masters.forM (insertMasterNamed resolve))
  QueryServersInfo.run sys cli turns n

/-- There is nothing to do without servers. -/
def runCustomServers (sys : System) (cli : Cli) (servers : List SocketAddr) (turns n : ℕ) :
    QueryProg (Option (Ending × List Event)) :=
  if servers = [] then return none
  else do
    servers.forM (QueryServersInfo.insertCustomServer sys)
    let r ← QueryServersInfo.run sys cli turns n
    return some r

end Xash3d.Query
