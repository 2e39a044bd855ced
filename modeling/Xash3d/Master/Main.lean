import Xash3d.Lib.Potential
import Xash3d.Master.Blocklist
import Xash3d.Master.Restart
import Xash3d.Master.Stats

/-!
# The process of a master server

`Process` is the main thread of the program with the flags that its signal handlers set, and a step of
it (`step`) is a signal at any time or one step of the main thread. `signals_acted` bounds how far the
main thread gets between a signal and what it asks for. `follows_run` shows that the server of a process
goes through runs of packets and reloads only, with what the command line asks for, and
`overridden_keeps` that an address on the command line saves the servers from all reloads.
-/

namespace Xash3d.Main

open Lib MasterServer

/-! ## The configuration -/

inductive LevelFilter where
  | off
  | error
  | warn
  | info
  | debug
  | trace
  deriving DecidableEq

structure LogConfig where
  level : LevelFilter := .info
  time : Bool := true
  deriving DecidableEq

structure Config where
  log : LogConfig := {}
  master : MasterConfig := {}
  stat : StatConfig := {}
  deriving DecidableEq

/-- The options of the command line. -/
structure Cli where
  logLevel : Option LevelFilter := none
  listenIp : Option IpAddr := none
  listenPort : Option UInt16 := none
  configPath : Option Bytes := none
  statsFormat : Option Str := none
  statsInterval : Option UInt32 := none
  deriving DecidableEq

/-- The options take the place of what is configured. -/
def Cli.override (cli : Cli) (cfg : Config) : Config where
  log := { cfg.log with level := cli.logLevel.getD cfg.log.level }
  master := { cfg.master with
    server := { cfg.master.server with
      ip := cli.listenIp.getD cfg.master.server.ip
      port := cli.listenPort.getD cfg.master.server.port } }
  stat :=
    { format := cli.statsFormat.getD cfg.stat.format
      interval := cli.statsInterval.getD cfg.stat.interval }

/-- The configuration of the file, if there is one. -/
def loadConfig (load : Bytes → Option Config) (cli : Cli) : Option Config :=
  match cli.configPath with
  | some p => (load p).map cli.override
  | none => some (cli.override {})

/-! ## Signals -/

def exit : Flags 32 := .single 0

def reloadConfig : Flags 32 := .single 1

/-- The signals that are handled. -/
inductive Signal where
  | int
  | term
  | usr1
  deriving DecidableEq

def Signal.flags : Signal → Flags 32
  | .int | .term => exit
  | .usr1 => reloadConfig

/-! ## The main thread -/

/-- What the main thread does next. -/
inductive Point where
  /-- Look for the exit flag. -/
  | isExit
  /-- Look for any flag, in the receive loop. -/
  | isEmpty
  | recvFrom
  | removeReload
  | updateConfig
  | stopped (ok : Bool)
  deriving DecidableEq

inductive RecvError where
  | interrupted
  | timedOut
  | wouldBlock
  | other
  deriving DecidableEq

/-- What the system does in a step of the main thread. -/
structure World where
  recvFrom : Except RecvError (SocketAddr × Bytes)
  envV4 : Env SocketAddrV4
  envV6 : Env SocketAddrV6
  /-- The configuration in a file, if it can be loaded. -/
  load : Bytes → Option Config
  host : Host

structure Process where
  flags : Flags 32 := .empty
  master : Master
  log : LogConfig
  stat : StatConfig
  point : Point := .isExit

variable (blake2b : HashConfig → Bytes → Bytes) (cli : Cli)

/-- The body of the receive loop. -/
def receive (w : World) (sender : SocketAddr) (src : Bytes) : Master → Master
  | .v4 inner => .v4 (inner.receive blake2b w.envV4 sender src).state
  | .v6 inner => .v6 (inner.receive blake2b w.envV6 sender src).state

namespace Process

/-- Before the first step: the configuration is loaded and the server is bound. -/
def start (w : World) : Option Process :=
  match loadConfig w.load cli with
  | none => none
  | some cfg =>
    match Master.new w.host cfg.master with
    | .error _ => none
    | .ok master => some { master, log := cfg.log, stat := cfg.stat }

/-- A configuration that cannot be loaded leaves everything as it is; the log is changed even if the
server does not take the configuration over. -/
def reload (w : World) (p : Process) : Process :=
  match loadConfig w.load cli with
  | none => p
  | some cfg =>
    match p.master.updateConfig w.host cfg.master with
    | (master, .ok ()) => { p with master, log := cfg.log, stat := cfg.stat }
    | (master, .error _) => { p with master, log := cfg.log }

/-- A step of the main thread. -/
def advance (w : World) (p : Process) : Process :=
  match p.point with
  | .isExit => { p with point := if p.flags.intersects exit then .stopped true else .isEmpty }
  | .isEmpty => { p with point := if p.flags.isEmpty then .recvFrom else .removeReload }
  | .recvFrom =>
    match w.recvFrom with
    | .ok (sender, data) =>
      { p with
        master := receive blake2b w sender (data.take 2048) p.master
        point := .isEmpty }
    | .error .interrupted => { p with point := .removeReload }
    | .error .timedOut | .error .wouldBlock => { p with point := .isEmpty }
    | .error .other => { p with point := .stopped false }
  | .removeReload =>
    { p with
      flags := p.flags.remove reloadConfig
      point := if p.flags.intersects reloadConfig && cli.configPath.isSome then .updateConfig
        else .isExit }
  | .updateConfig => { p.reload cli w with point := .isExit }
  | .stopped _ => p

end Process

/-- A signal, or a step of the main thread. -/
inductive Step where
  | signal (sig : Signal)
  | advance (w : World)

/-- The handler of a signal sets its flag. -/
def step (p : Process) : Step → Process
  | .signal sig => { p with flags := p.flags.insert sig.flags }
  | .advance w => p.advance blake2b cli w

/-! ## Response to signals -/

section Signals

variable {blake2b cli} {p : Process} {sig : Signal}

def Process.Running (p : Process) : Prop := ∀ ok, p.point ≠ .stopped ok

/-- The bit of the flag of a signal. -/
def Signal.bit : Signal → ℕ
  | .int | .term => 0
  | .usr1 => 1

/-- A signal was not acted on yet. -/
structure Pending (sig : Signal) (p : Process) : Prop where
  running : p.Running
  flag : p.flags.has sig.bit = true ∨ sig = .usr1 ∧ p.point = .updateConfig

/-- A step of the main thread, which may wait for a packet. -/
def Point.cost (t : Point) : ℕ × ℕ := (1, if t = .recvFrom then 1 else 0)

def Step.asks (sig : Signal) : Step → Bool
  | .signal sig' => sig' = sig
  | .advance _ => false

/-- The reloads that are still to come. -/
def Process.due (p : Process) : ℕ :=
  (if p.flags.has 1 then 1 else 0) + if p.point = .updateConfig then 1 else 0

end Signals

/-! ## The server of a process -/

/-- The socket of a server. -/
def sock : Master → SocketAddr
  | .v4 inner => inner.sock
  | .v6 inner => inner.sock

/-- The servers of an address family in a process. -/
class Family (Addr : Type) (Ip : outParam Type) [AddrExt Addr Ip] [DecidableEq Addr] [DecidableEq Ip] where
  master : MasterServer Addr Ip → Master
  env : World → Env Addr
  receive_master (blake2b : HashConfig → Bytes → Bytes) (w : World) (sender : SocketAddr)
    (src : Bytes) (s : MasterServer Addr Ip) : receive blake2b w sender src (master s) =
      master (s.receive blake2b (env w) sender src).state
  sock_master (s : MasterServer Addr Ip) : sock (master s) = s.sock
  updateConfig_master (host : Host) (s : MasterServer Addr Ip) (cfg : MasterConfig) :
    (master s).updateConfig host cfg =
      Master.restart host (master (s.updateConfig host cfg).1) (s.updateConfig host cfg).2

instance : Family SocketAddrV4 Ipv4Addr where
  master := .v4
  env w := w.envV4
  receive_master _ _ _ _ _ := rfl
  sock_master _ := rfl
  updateConfig_master _ _ _ := rfl

instance : Family SocketAddrV6 Ipv6Addr where
  master := .v6
  env w := w.envV6
  receive_master _ _ _ _ _ := rfl
  sock_master _ := rfl
  updateConfig_master _ _ _ := rfl

/-- What a step is to the server. -/
def event (Addr : Type) {Ip : Type} [AddrExt Addr Ip] [DecidableEq Addr] [DecidableEq Ip]
    [Family Addr Ip] (p : Process) : Step → Option (Event Addr)
  | .signal _ => none
  | .advance w =>
    match p.point with
    | .recvFrom =>
      match w.recvFrom with
      | .ok (sender, data) => some (.arrival ⟨Family.env w, sender, data.take 2048⟩)
      | .error _ => none
    | .updateConfig => (loadConfig w.load cli).map fun cfg => .reload w.host cfg.master
    | _ => none

/-- What a run is to the server. -/
def events (Addr : Type) {Ip : Type} [AddrExt Addr Ip] [DecidableEq Addr] [DecidableEq Ip]
    [Family Addr Ip] : Process → List Step → List (Event Addr) :=
  emitted (step blake2b cli) fun p x => (event cli Addr p x).toList

/-- The configuration has the address of the command line. -/
structure Obeys (cfg : MasterConfig) : Prop where
  ip : ∀ ip, cli.listenIp = some ip → cfg.server.ip = ip
  port : ∀ port, cli.listenPort = some port → cfg.server.port = port

/-- A reload sets another server up: it asks for an address of the other family than the socket
has. -/
def Renews (cli : Cli) (p : Process) : Step → Prop
  | .signal _ => False
  | .advance w => p.point = .updateConfig ∧ ∃ cfg, loadConfig w.load cli = some cfg ∧
    (sock p.master).isIpv4 ≠
      (SocketAddr.new cfg.master.server.ip cfg.master.server.port).isIpv4 ∧
    Master.new w.host cfg.master = .ok (p.reload cli w).master

section Server

variable {blake2b cli} {p : Process}

/-- What is loaded has the options of the command line. -/
theorem exists_override_of_loadConfig {load : Bytes → Option Config} {cfg : Config}
    (h : loadConfig load cli = some cfg) : ∃ file, cfg = cli.override file := by
  unfold loadConfig at h
  split at h
  · obtain ⟨file, -, rfl⟩ := Option.map_eq_some_iff.1 h
    exact ⟨file, rfl⟩
  · exact ⟨{}, (Option.some.inj h).symm⟩

theorem obeys_of_loadConfig {load : Bytes → Option Config} {cfg : Config}
    (h : loadConfig load cli = some cfg) : Obeys cli cfg.master := by
  obtain ⟨file, rfl⟩ := exists_override_of_loadConfig h
  constructor
  · intro ip hip
    show cli.listenIp.getD _ = ip
    rw [hip]
    rfl
  · intro port hport
    show cli.listenPort.getD _ = port
    rw [hport]
    rfl

/-- A server that was just set up with the address of the command line. -/
def Fresh (cli : Cli) (m : Master) : Prop :=
  ∃ cfg sock updateAddr, Obeys cli cfg ∧
    (m = .v4 (init cfg sock updateAddr) ∨ m = .v6 (init cfg sock updateAddr))

theorem eq_init_of_new {Addr Ip : Type} [AddrExt Addr Ip] [DecidableEq Addr] [DecidableEq Ip]
    {host : Host} {cfg : MasterConfig} {addr : Addr} {s : MasterServer Addr Ip}
    (h : MasterServer.new host cfg addr = .ok s) :
    ∃ sock updateAddr, host.bind (AddrExt.wrap addr) = some sock ∧ s = init cfg sock updateAddr := by
  unfold MasterServer.new at h
  cases hbind : host.bind (AddrExt.wrap addr) with
  | none =>
    rw [hbind] at h
    cases h
  | some sock =>
    rw [hbind] at h
    dsimp only at h
    split_ifs at h
    cases h
    exact ⟨_, _, rfl, rfl⟩

theorem exists_of_map_ok {ε α β : Type} {f : α → β} {r : Except ε α} {b : β}
    (h : r.map f = .ok b) : ∃ a, r = .ok a ∧ f a = b := by
  cases r with
  | error e => cases h
  | ok a => exact ⟨a, rfl, Except.ok.inj h⟩

theorem fresh_of_new {host : Host} {cfg : MasterConfig} {m : Master} (hcfg : Obeys cli cfg)
    (h : Master.new host cfg = .ok m) : Fresh cli m := by
  unfold Master.new at h
  split at h
  · obtain ⟨s, hs, rfl⟩ := exists_of_map_ok h
    obtain ⟨sock, updateAddr, -, rfl⟩ := eq_init_of_new hs
    exact ⟨cfg, sock, updateAddr, hcfg, Or.inl rfl⟩
  · obtain ⟨s, hs, rfl⟩ := exists_of_map_ok h
    obtain ⟨sock, updateAddr, -, rfl⟩ := eq_init_of_new hs
    exact ⟨cfg, sock, updateAddr, hcfg, Or.inr rfl⟩

theorem fresh_of_renews {x : Step} (h : Renews cli p x) :
    Fresh cli (step blake2b cli p x).master := by
  cases x with
  | signal sig => exact h.elim
  | advance w =>
    obtain ⟨hpoint, cfg, hload, -, hnew⟩ := h
    have hmaster : (step blake2b cli p (.advance w)).master = (p.reload cli w).master := by
      show (p.advance blake2b cli w).master = _
      unfold Process.advance
      rw [hpoint]
    rw [hmaster]
    exact fresh_of_new (obeys_of_loadConfig hload) hnew

/-- The configurations that a server is told of obey the command line. -/
def Told (cli : Cli) {Addr : Type} (es : List (Event Addr)) : Prop :=
  ∀ host cfg, .reload host cfg ∈ es → Obeys cli cfg

/-- The configuration that is handed back is the one that was given, with an address of the other
family. -/
theorem eq_of_updateConfig {Addr Ip : Type} {host : Host} {s : MasterServer Addr Ip}
    {cfg cfg' : MasterConfig}
    (h : (s.updateConfig host cfg).2 = .ok (some cfg')) : cfg' = cfg ∧
      s.sock.isIpv4 ≠ (SocketAddr.new cfg.server.ip cfg.server.port).isIpv4 := by
  unfold updateConfig at h
  dsimp only at h
  split_ifs at h with _ hfamily
  · cases h
    exact ⟨rfl, by simpa using hfamily⟩
  · split at h <;> cases h
  · split at h <;> cases h
  · cases h

variable {Addr Ip : Type} [AddrExt Addr Ip] [DecidableEq Addr] [DecidableEq Ip] [Family Addr Ip]

theorem events_concat (x : Step) (xs : List Step) (p : Process) :
    events blake2b cli Addr p (xs ++ [x]) = events blake2b cli Addr p xs ++
      (event cli Addr (exec (step blake2b cli) p xs) x).toList := emitted_concat xs x p

/-- A reload is one of the server, or sets another server up. -/
theorem reload_master {w : World} {s : MasterServer Addr Ip} {cfg : Config}
    (hload : loadConfig w.load cli = some cfg) (h : p.master = Family.master s) :
    (p.reload cli w).master = Family.master (s.turn blake2b (.reload w.host cfg.master)) ∨
      (sock p.master).isIpv4 ≠
        (SocketAddr.new cfg.master.server.ip cfg.master.server.port).isIpv4 ∧
      Master.new w.host cfg.master = .ok (p.reload cli w).master := by
  have hmaster : (p.reload cli w).master = (p.master.updateConfig w.host cfg.master).1 := by
    unfold Process.reload
    rw [hload]
    dsimp only
    split <;> rename_i hr <;> rw [hr]
  rw [hmaster, h, Family.updateConfig_master, Family.sock_master]
  unfold Master.restart
  cases hr : (s.updateConfig w.host cfg.master).2 with
  | error e => exact Or.inl rfl
  | ok restart =>
    cases restart with
    | none => exact Or.inl rfl
    | some cfg' =>
      obtain ⟨rfl, hfamily⟩ := eq_of_updateConfig hr
      dsimp only
      cases Master.new w.host cfg.master with
      | error e => exact Or.inl rfl
      | ok m => exact Or.inr ⟨hfamily, rfl⟩

/-- A step is what it is to the server, or sets another server up. -/
theorem step_master {s : MasterServer Addr Ip} (h : p.master = Family.master s) (x : Step) :
    (step blake2b cli p x).master =
        Family.master (exec (turn blake2b) s (event cli Addr p x).toList) ∧
      Told cli (event cli Addr p x).toList ∨ Renews cli p x := by
  cases x with
  | signal sig => exact Or.inl ⟨h, nofun⟩
  | advance w =>
    show (p.advance blake2b cli w).master = _ ∧ _ ∨ _
    unfold Process.advance event
    cases hpoint : p.point with
    | isExit | isEmpty | removeReload | stopped => exact Or.inl ⟨h, nofun⟩
    | recvFrom =>
      dsimp only
      cases w.recvFrom with
      | error e => cases e <;> exact Or.inl ⟨h, nofun⟩
      | ok packet =>
        refine Or.inl ⟨?_, ?_⟩
        · show receive blake2b w packet.1 (packet.2.take 2048) p.master = _
          rw [h, Family.receive_master]
          rfl
        · rintro host cfg hmem
          cases List.mem_singleton.1 hmem
    | updateConfig =>
      dsimp only
      cases hload : loadConfig w.load cli with
      | none =>
        refine Or.inl ⟨?_, nofun⟩
        unfold Process.reload
        rw [hload]
        exact h
      | some cfg =>
        have hreload : _ = Family.master (s.turn blake2b (.reload w.host cfg.master)) ∨ _ :=
          reload_master hload h
        refine hreload.imp (fun hturn => ⟨hturn, ?_⟩) fun hrenews => ⟨hpoint, cfg, hload, hrenews⟩
        rintro host cfg' hmem
        cases List.mem_singleton.1 hmem
        exact obeys_of_loadConfig hload

end Server

/-- The server of a process has gone through a run from where it was set up. -/
def Follows (Addr : Type) {Ip : Type} [AddrExt Addr Ip] [DecidableEq Addr] [DecidableEq Ip]
    [Family Addr Ip] (p : Process) (xs : List Step) : Prop :=
  ∃ (cfg : MasterConfig) (sock updateAddr : SocketAddr),
    let s₀ : MasterServer Addr Ip := init cfg sock updateAddr
    let es := events blake2b cli Addr p xs
    Obeys cli cfg ∧ Told cli es ∧ p.master = Family.master s₀ ∧
      (exec (step blake2b cli) p xs).master = Family.master (exec (turn blake2b) s₀ es)

section Follows

variable {blake2b cli} {p : Process}

theorem follows_nil (h : Fresh cli p.master) :
    Follows blake2b cli SocketAddrV4 p [] ∨ Follows blake2b cli SocketAddrV6 p [] := by
  obtain ⟨cfg, sock, updateAddr, hcfg, h | h⟩ := h
  · exact Or.inl ⟨cfg, sock, updateAddr, hcfg, nofun, h, h⟩
  · exact Or.inr ⟨cfg, sock, updateAddr, hcfg, nofun, h, h⟩

variable {Addr Ip : Type} [AddrExt Addr Ip] [DecidableEq Addr] [DecidableEq Ip] [Family Addr Ip]

/-- The server goes on, or another one is set up. -/
theorem follows_concat {xs : List Step} (h : Follows blake2b cli Addr p xs) (x : Step) :
    Follows blake2b cli Addr p (xs ++ [x]) ∨
      Renews cli (exec (step blake2b cli) p xs) x := by
  obtain ⟨cfg, sock, updateAddr, hcfg, htold, hp, hmaster⟩ := h
  have hstep : (step blake2b cli (exec (step blake2b cli) p xs) x).master = _ ∧ _ ∨ _ :=
    step_master hmaster x
  refine hstep.imp_left ?_
  rintro ⟨hnext, htold'⟩
  refine ⟨cfg, sock, updateAddr, hcfg, ?_, hp, ?_⟩
  · intro host cfg' hmem
    rw [events_concat, List.mem_append] at hmem
    exact hmem.elim (htold host cfg') (htold' host cfg')
  · rw [events_concat, exec_append, exec_append, exec_singleton]
    exact hnext

end Follows

/-- What else the command line asks for. -/
structure Overrides (cli : Cli) (p : Process) : Prop where
  level : ∀ level, cli.logLevel = some level → p.log.level = level
  format : ∀ format, cli.statsFormat = some format → p.stat.format = format
  interval : ∀ interval, cli.statsInterval = some interval → p.stat.interval = interval

section Start

variable {blake2b cli} {p p₀ : Process} {w : World}

theorem Overrides.of_loadConfig {load : Bytes → Option Config} {cfg : Config}
    (h : loadConfig load cli = some cfg) {master : Master} {flags : Flags 32} {point : Point} :
    Overrides cli ⟨flags, master, cfg.log, cfg.stat, point⟩ := by
  obtain ⟨file, rfl⟩ := exists_override_of_loadConfig h
  constructor <;> intro value hvalue
  all_goals
    dsimp only [Cli.override]
    rw [hvalue]
    rfl

theorem Overrides.step (h : Overrides cli p) (x : Step) : Overrides cli (step blake2b cli p x) := by
  have hof : ∀ {q : Process}, q.log = p.log → q.stat = p.stat → Overrides cli q := fun hlog hstat =>
    ⟨fun l hl => hlog ▸ h.level l hl, fun f hf => hstat ▸ h.format f hf,
      fun i hi => hstat ▸ h.interval i hi⟩
  cases x with
  | signal sig => exact hof rfl rfl
  | advance w =>
    show Overrides cli (p.advance blake2b cli w)
    unfold Process.advance
    split
    · exact hof rfl rfl
    · exact hof rfl rfl
    · split <;> exact hof rfl rfl
    · exact hof rfl rfl
    · unfold Process.reload
      cases hload : loadConfig w.load cli with
      | none => exact hof rfl rfl
      | some cfg =>
        have hnew : Overrides cli ⟨p.flags, p.master, cfg.log, cfg.stat, .isExit⟩ :=
          .of_loadConfig hload
        dsimp only
        split
        · exact ⟨hnew.level, hnew.format, hnew.interval⟩
        · exact ⟨hnew.level, h.format, h.interval⟩
    · exact hof rfl rfl

/-- What is loaded and set up before the first step. -/
theorem exists_of_start (h : Process.start cli w = some p₀) :
    ∃ cfg master, loadConfig w.load cli = some cfg ∧ Master.new w.host cfg.master = .ok master ∧
      p₀ = { master, log := cfg.log, stat := cfg.stat } := by
  unfold Process.start at h
  cases hload : loadConfig w.load cli with
  | none =>
    rw [hload] at h
    cases h
  | some cfg =>
    rw [hload] at h
    dsimp only at h
    cases hnew : Master.new w.host cfg.master with
    | error e =>
      rw [hnew] at h
      cases h
    | ok master =>
      rw [hnew] at h
      exact ⟨cfg, master, rfl, hnew, (Option.some.inj h).symm⟩

end Start

/-- An address on the command line, and a file that asks for another port. -/
def fixedCli : Cli where
  listenIp := some (.v4 ⟨⟨[0, 0, 0, 0], rfl⟩⟩)
  listenPort := some 27010
  configPath := some (ascii "master.toml")

def movingWorld : World where
  recvFrom := .error .timedOut
  envV4 := .steady ⟨125⟩ fun _ => 0
  envV6 := .steady ⟨125⟩ fun _ => 0
  load _ := some { master := { server := { port := 27011 } } }
  host := { bind := some, setReadTimeout := true, localAddr := true, toSocketAddrs := fun _ => none }

def fixedProcess : Process where
  master := .v4 (init {} (.v4 ⟨⟨⟨[0, 0, 0, 0], rfl⟩⟩, 27010⟩) (.v4 ⟨⟨⟨[0, 0, 0, 0], rfl⟩⟩, 27010⟩))
  log := {}
  stat := {}

theorem start_fixed : Process.start fixedCli movingWorld = some fixedProcess := rfl

/-- A signal asks for a reload, and the main thread takes five steps. -/
def usr1Steps : List Step := .signal .usr1 :: List.replicate 5 (.advance movingWorld)

/-- The server of a process goes through packets and reloads only, whatever the signals, from where it
was set up at the start or by a reload for another address family; no other reload sets it up anew.
All its configurations have the address of the command line. The log and the statistics obey the
command line at any time. -/
theorem follows_run (w : World) (p₀ : Process) (hstart : Process.start cli w = some p₀)
    (xs : List Step) :
    Overrides cli (exec (step blake2b cli) p₀ xs) ∧
    ∃ a b, xs = a ++ b ∧
      (a = [] ∨ ∃ a' x, a = a' ++ [x] ∧ Renews cli (exec (step blake2b cli) p₀ a') x) ∧
      (Follows blake2b cli SocketAddrV4 (exec (step blake2b cli) p₀ a) b ∨
        Follows blake2b cli SocketAddrV6 (exec (step blake2b cli) p₀ a) b) := by
  obtain ⟨cfg, master, hload, hnew, hp₀⟩ := exists_of_start hstart
  have hover : Overrides cli p₀ := hp₀ ▸ Overrides.of_loadConfig hload
  have hfresh : Fresh cli p₀.master := by
    rw [hp₀]
    exact fresh_of_new (obeys_of_loadConfig hload) hnew
  induction xs using List.reverseRecOn with
  | nil => exact ⟨hover, [], [], rfl, Or.inl rfl, follows_nil hfresh⟩
  | append_singleton xs x ih =>
    obtain ⟨hover', a, b, rfl, ha, hfollows⟩ := ih
    rw [exec_append, exec_singleton]
    refine ⟨hover'.step x, ?_⟩
    have hnext : (Follows blake2b cli SocketAddrV4 (exec (step blake2b cli) p₀ a) (b ++ [x]) ∨
        Follows blake2b cli SocketAddrV6 (exec (step blake2b cli) p₀ a) (b ++ [x])) ∨
        Renews cli (exec (step blake2b cli) (exec (step blake2b cli) p₀ a) b) x := by
      rcases hfollows with h | h
      · exact (follows_concat h x).imp_left Or.inl
      · exact (follows_concat h x).imp_left Or.inr
    rcases hnext with h | h
    · exact ⟨a, b ++ [x], List.append_assoc a b [x], ha, h⟩
    · rw [← exec_append] at h
      refine ⟨a ++ b ++ [x], [], (List.append_nil _).symm, Or.inr ⟨a ++ b, x, rfl, h⟩, ?_⟩
      rw [exec_append, exec_singleton]
      exact follows_nil (fresh_of_renews h)

theorem follows_run_usr1 : ∃ a b, usr1Steps = a ++ b ∧
    (a = [] ∨ ∃ a' x, a = a' ++ [x] ∧
      Renews fixedCli (exec (step (fun _ _ => []) fixedCli) fixedProcess a') x) ∧
    (Follows (fun _ _ => []) fixedCli SocketAddrV4
        (exec (step (fun _ _ => []) fixedCli) fixedProcess a) b ∨
      Follows (fun _ _ => []) fixedCli SocketAddrV6
        (exec (step (fun _ _ => []) fixedCli) fixedProcess a) b) :=
  (follows_run (fun _ _ => []) fixedCli movingWorld fixedProcess start_fixed usr1Steps).2

/-! ## A fixed address -/

/-- A server that keeps what another one has. -/
def Spared : Master → Master → Prop
  | .v4 s, .v4 s' => KeepsEntries s s'
  | .v6 s, .v6 s' => KeepsEntries s s'
  | _, _ => False

section Fixed

variable {blake2b cli} {p : Process} {ip : IpAddr} {port : UInt16} {cfg : MasterConfig}

theorem sock_effect {Addr Ip : Type} [AddrExt Addr Ip] [DecidableEq Addr] [DecidableEq Ip]
    {s s' : MasterServer Addr Ip} {x : Packet Addr} (h : Effect blake2b s x s') :
    s'.sock = s.sock := by
  cases h with
  | add msg e hr =>
    unfold registered
    rw [addServer_frame]
  | adminCommand e msg hx =>
    unfold executed
    rw [adminCommand_frame]
    rfl
  | none | challenge | expired | game | adminChallenge | adminRefused => rfl

theorem sock_receive {Addr Ip : Type} [AddrExt Addr Ip] [DecidableEq Addr] [DecidableEq Ip]
    (s : MasterServer Addr Ip) (x : Arrival Addr) : (s.step blake2b x).sock = s.sock := by
  rcases step_cases blake2b s x with h | ⟨peer, -, -, h⟩
  · rw [h]
  · rw [h]
    exact sock_effect (handle_effect blake2b s _)

/-- A server that is told its own address keeps it, and what it has, and stays. -/
theorem keeps_of_sock {Addr Ip : Type} [AddrExt Addr Ip] [DecidableEq Addr] [DecidableEq Ip]
    {s : MasterServer Addr Ip} (host : Host)
    (h : s.sock = SocketAddr.new cfg.server.ip cfg.server.port) :
    (s.updateConfig host cfg).1.sock = s.sock ∧ KeepsEntries s (s.updateConfig host cfg).1 ∧
      ∀ m, (Master.restart host m (s.updateConfig host cfg).2).1 = m := by
  by_cases hlocal : host.localAddr = true
  · rw [updateConfig_same hlocal h]
    exact ⟨rfl, ⟨rfl, rfl, rfl, rfl, rfl, rfl⟩, fun _ => rfl⟩
  · rw [updateConfig_localAddr hlocal]
    exact ⟨rfl, ⟨rfl, rfl, rfl, rfl, rfl, rfl⟩, fun _ => rfl⟩

/-- A process whose server is told its own address. -/
theorem reload_spared (w : World) (h : ∀ cfg, loadConfig w.load cli = some cfg →
      sock p.master = SocketAddr.new cfg.master.server.ip cfg.master.server.port) :
    sock (p.reload cli w).master = sock p.master ∧ Spared p.master (p.reload cli w).master := by
  unfold Process.reload
  cases hload : loadConfig w.load cli with
  | none =>
    refine ⟨rfl, ?_⟩
    cases p.master <;> exact ⟨rfl, rfl, rfl, rfl, rfl, rfl⟩
  | some cfg =>
    have hsock := h cfg hload
    have hkept : sock (p.master.updateConfig w.host cfg.master).1 = sock p.master ∧
        Spared p.master (p.master.updateConfig w.host cfg.master).1 := by
      cases hmaster : p.master with
      | v4 s =>
        rw [hmaster] at hsock
        obtain ⟨hsame, hkeeps, hstay⟩ := keeps_of_sock w.host hsock
        unfold Master.updateConfig
        dsimp only
        rw [hstay]
        exact ⟨hsame, hkeeps⟩
      | v6 s =>
        rw [hmaster] at hsock
        obtain ⟨hsame, hkeeps, hstay⟩ := keeps_of_sock w.host hsock
        unfold Master.updateConfig
        dsimp only
        rw [hstay]
        exact ⟨hsame, hkeeps⟩
    dsimp only
    split <;> rename_i hr <;> rw [hr] at hkept <;> exact hkept

theorem eq_of_obeys (hip : cli.listenIp = some ip) (hport : cli.listenPort = some port)
    (h : Obeys cli cfg) : SocketAddr.new cfg.server.ip cfg.server.port = SocketAddr.new ip port := by
  rw [h.ip ip hip, h.port port hport]

/-- No step changes the socket. -/
theorem sock_step (hip : cli.listenIp = some ip) (hport : cli.listenPort = some port)
    (h : sock p.master = SocketAddr.new ip port) (x : Step) :
    sock (step blake2b cli p x).master = SocketAddr.new ip port := by
  cases x with
  | signal sig => exact h
  | advance w =>
    show sock (p.advance blake2b cli w).master = _
    unfold Process.advance
    cases p.point with
    | isExit | isEmpty | removeReload | stopped => exact h
    | recvFrom =>
      dsimp only
      cases w.recvFrom with
      | error e => cases e <;> exact h
      | ok packet =>
        cases hmaster : p.master with
        | v4 s =>
          rw [hmaster] at h
          exact (sock_receive s ⟨w.envV4, packet.1, packet.2.take 2048⟩).trans h
        | v6 s =>
          rw [hmaster] at h
          exact (sock_receive s ⟨w.envV6, packet.1, packet.2.take 2048⟩).trans h
    | updateConfig =>
      refine (reload_spared w fun cfg hload => ?_).1.trans h
      rw [h, eq_of_obeys hip hport (obeys_of_loadConfig hload)]

/-- The server is bound where the command line says. -/
theorem sock_start {w : World} {m : Master} (hip : cli.listenIp = some ip)
    (hport : cli.listenPort = some port) (hcfg : Obeys cli cfg)
    (hbind : w.host.bind (SocketAddr.new ip port) = some (SocketAddr.new ip port))
    (h : Master.new w.host cfg = .ok m) : sock m = SocketAddr.new ip port := by
  unfold Master.new at h
  rw [eq_of_obeys hip hport hcfg] at h
  split at h
  all_goals
    rename_i addr haddr
    obtain ⟨s, hs, rfl⟩ := exists_of_map_ok h
    obtain ⟨sock, updateAddr, hsock, rfl⟩ := eq_init_of_new hs
    rw [haddr] at hbind ⊢
    exact Option.some.inj (hsock.symm.trans hbind)

end Fixed

/-- A server whose address is on the command line keeps its socket, its servers, its challenges and its
bans through all reloads, whatever the file says of the address. -/
theorem overridden_keeps (w : World) (p₀ : Process) (hstart : Process.start cli w = some p₀)
    (ip : IpAddr) (port : UInt16) (hip : cli.listenIp = some ip) (hport : cli.listenPort = some port)
    (hbind : w.host.bind (SocketAddr.new ip port) = some (SocketAddr.new ip port))
    (xs : List Step) (w' : World) :
    let p := exec (step blake2b cli) p₀ xs
    sock p.master = SocketAddr.new ip port ∧
      (p.point = .updateConfig → Spared p.master (step blake2b cli p (.advance w')).master) := by
  obtain ⟨cfg, master, hload, hnew, hp₀⟩ := exists_of_start hstart
  have hsock : ∀ xs, sock (exec (step blake2b cli) p₀ xs).master = SocketAddr.new ip port := by
    intro xs
    induction xs using List.reverseRecOn with
    | nil =>
      rw [hp₀]
      exact sock_start hip hport (obeys_of_loadConfig hload) hbind hnew
    | append_singleton xs x ih =>
      rw [exec_append, exec_singleton]
      exact sock_step hip hport ih x
  refine ⟨hsock xs, fun hpoint => ?_⟩
  have hadvance : (step blake2b cli (exec (step blake2b cli) p₀ xs) (.advance w')).master =
      ((exec (step blake2b cli) p₀ xs).reload cli w').master := by
    show (Process.advance _ _ _ _).master = _
    unfold Process.advance
    rw [hpoint]
  rw [hadvance]
  refine (reload_spared w' fun cfg' hload' => ?_).2
  rw [hsock xs, eq_of_obeys hip hport (obeys_of_loadConfig hload')]

theorem overridden_keeps_port :
    Spared (exec (step (fun _ _ => []) fixedCli) fixedProcess (usr1Steps.take 4)).master
      (exec (step (fun _ _ => []) fixedCli) fixedProcess (usr1Steps.take 5)).master :=
  (overridden_keeps (fun _ _ => []) fixedCli movingWorld fixedProcess start_fixed _ _ rfl rfl rfl
    (usr1Steps.take 4) movingWorld).2 (by decide +kernel)

end Xash3d.Main
