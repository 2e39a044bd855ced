import Xash3d.Master.MasterServer

/-!
# Failed reloads

A reload that fails should leave the server as it is. It does, except that the socket is replaced
before its read timeout is set: `reload_all_or_nothing_iff`. `Master` is a server of either family,
which a reload may replace as a whole.
-/

namespace Xash3d

open Lib AddrExt

/-- A master server of either address family. -/
inductive MasterServer.Master where
  | v4 (inner : MasterServer SocketAddrV4 Ipv4Addr)
  | v6 (inner : MasterServer SocketAddrV6 Ipv6Addr)

namespace MasterServer.Master

open MasterServer (Host)

def new (host : Host) (cfg : MasterConfig) : Except Error Master :=
  match SocketAddr.new cfg.server.ip cfg.server.port with
  | .v4 addr => (MasterServer.new host cfg addr).map v4
  | .v6 addr => (MasterServer.new host cfg addr).map v6

/-- What a server does with the configuration that its reload hands back, if it does. -/
def restart (host : Host) (m : Master) :
    Except Error (Option MasterConfig) → Master × Except Error Unit
  | .error e => (m, .error e)
  | .ok none => (m, .ok ())
  | .ok (some cfg) =>
    match new host cfg with
    | .error e => (m, .error e)
    | .ok m => (m, .ok ())

def updateConfig (host : Host) (m : Master) (cfg : MasterConfig) : Master × Except Error Unit :=
  match m with
  | v4 inner => restart host (v4 (inner.updateConfig host cfg).1) (inner.updateConfig host cfg).2
  | v6 inner => restart host (v6 (inner.updateConfig host cfg).1) (inner.updateConfig host cfg).2

/-- The reload needs another server. -/
def Restarts (host : Host) (cfg : MasterConfig) : Master → Prop
  | v4 inner => ∃ cfg', (inner.updateConfig host cfg).2 = .ok (some cfg')
  | v6 inner => ∃ cfg', (inner.updateConfig host cfg).2 = .ok (some cfg')

end MasterServer.Master

namespace MasterServer

variable {Addr Ip : Type} {host : Host} {s s' : MasterServer Addr Ip} {cfg : MasterConfig}

/-- No entry and no ban is removed. -/
structure KeepsEntries (s s' : MasterServer Addr Ip) : Prop where
  servers : s'.servers.map = s.servers.map
  challenges : s'.challenges.map = s.challenges.map
  adminChallenges : s'.adminChallenges.map = s.adminChallenges.map
  adminLimit : s'.adminLimit.map = s.adminLimit.map
  clientRateLimit : s'.clientRateLimit.map = s.clientRateLimit.map
  blocklist : s'.blocklist = s.blocklist

/-- The configured timeouts are those of another server. -/
structure SameTimeouts (s s' : MasterServer Addr Ip) : Prop where
  servers : s'.servers.timeout = s.servers.timeout
  challenges : s'.challenges.timeout = s.challenges.timeout
  adminChallenges : s'.adminChallenges.timeout = s.adminChallenges.timeout
  adminLimit : s'.adminLimit.timeout = s.adminLimit.timeout

/-- The server is to listen elsewhere, and gets a socket there whose read timeout cannot be set. -/
def LosesSocket (host : Host) (s : MasterServer Addr Ip) (cfg : MasterConfig) : Prop :=
  host.localAddr = true ∧
    s.sock.isIpv4 = (SocketAddr.new cfg.server.ip cfg.server.port).isIpv4 ∧
    s.sock ≠ SocketAddr.new cfg.server.ip cfg.server.port ∧
    (∃ sock, host.bind (SocketAddr.new cfg.server.ip cfg.server.port) = some sock ∧
      sock ≠ s.sock) ∧
    host.setReadTimeout = false

/-- A server that cannot tell its address stays. -/
theorem updateConfig_localAddr (h : ¬ host.localAddr = true) :
    s.updateConfig host cfg = (s, .error .io) := by
  unfold updateConfig
  rw [if_pos (by simpa using h)]

theorem updateConfig_family (h : host.localAddr = true)
    (hf : s.sock.isIpv4 ≠ (SocketAddr.new cfg.server.ip cfg.server.port).isIpv4) :
    s.updateConfig host cfg = (s, .ok (some cfg)) := by
  unfold updateConfig
  rw [h, if_neg (by simp)]
  dsimp only
  rw [if_pos (by simpa using hf)]

theorem updateConfig_same (h : host.localAddr = true)
    (hs : s.sock = SocketAddr.new cfg.server.ip cfg.server.port) :
    s.updateConfig host cfg =
      (s.setConfig host cfg (SocketAddr.new cfg.server.ip cfg.server.port), .ok none) := by
  unfold updateConfig
  rw [h, if_neg (by simp)]
  dsimp only
  rw [if_neg (by rw [hs]; simp), if_neg (not_not_intro hs)]

theorem updateConfig_unbound (h : host.localAddr = true)
    (hf : s.sock.isIpv4 = (SocketAddr.new cfg.server.ip cfg.server.port).isIpv4)
    (hs : s.sock ≠ SocketAddr.new cfg.server.ip cfg.server.port)
    (hbind : host.bind (SocketAddr.new cfg.server.ip cfg.server.port) = none) :
    s.updateConfig host cfg = (s, .error .bindSocket) := by
  unfold updateConfig
  rw [h, if_neg (by simp)]
  dsimp only
  rw [if_neg (by simpa using hf), if_pos hs, hbind]

/-- The socket is replaced before its timeout is set. -/
theorem updateConfig_bound {sock : SocketAddr} (h : host.localAddr = true)
    (hf : s.sock.isIpv4 = (SocketAddr.new cfg.server.ip cfg.server.port).isIpv4)
    (hs : s.sock ≠ SocketAddr.new cfg.server.ip cfg.server.port)
    (hbind : host.bind (SocketAddr.new cfg.server.ip cfg.server.port) = some sock) :
    s.updateConfig host cfg =
      if !host.setReadTimeout then ({ s with sock }, .error .io)
      else (({ s with sock } : MasterServer Addr Ip).clear.setConfig host cfg
        (SocketAddr.new cfg.server.ip cfg.server.port), .ok none) := by
  unfold updateConfig
  rw [h, if_neg (by simp)]
  dsimp only
  rw [if_neg (by simpa using hf), if_pos hs, hbind]

/-- The configuration is handed back by a server that stays. -/
theorem updateConfig_some {cfg' : MasterConfig}
    (hr : (s.updateConfig host cfg).2 = .ok (some cfg')) : (s.updateConfig host cfg).1 = s := by
  by_cases h : host.localAddr = true
  · by_cases hf : s.sock.isIpv4 = (SocketAddr.new cfg.server.ip cfg.server.port).isIpv4
    · by_cases hs : s.sock = SocketAddr.new cfg.server.ip cfg.server.port
      · rw [updateConfig_same h hs] at hr
        cases hr
      · cases hbind : host.bind (SocketAddr.new cfg.server.ip cfg.server.port) with
        | none =>
          rw [updateConfig_unbound h hf hs hbind] at hr
          cases hr
        | some sock =>
          rw [updateConfig_bound h hf hs hbind] at hr
          split_ifs at hr
          cases hr
    · rw [updateConfig_family h hf]
  · rw [updateConfig_localAddr h] at hr
    cases hr

theorem sock_inj {sock : SocketAddr} : { s with sock } = s ↔ sock = s.sock :=
  ⟨fun h => congrArg MasterServer.sock h, fun h => h ▸ rfl⟩

variable [AddrExt Addr Ip]

/-- A failed reload changes nothing; one of a server that goes on listening keeps its entries and
has the timeouts of a new server; one that hands the configuration back changes nothing. -/
def AllOrNothing (host : Host) (s : MasterServer Addr Ip) (cfg : MasterConfig) : Prop :=
  (∀ e, (s.updateConfig host cfg).2 = .error e → (s.updateConfig host cfg).1 = s) ∧
  ((s.updateConfig host cfg).2 = .ok none →
    s.sock = SocketAddr.new cfg.server.ip cfg.server.port →
    KeepsEntries s (s.updateConfig host cfg).1 ∧
      ∀ host' addr n, new host' cfg addr = .ok n → SameTimeouts n (s.updateConfig host cfg).1) ∧
  ∀ cfg', (s.updateConfig host cfg).2 = .ok (some cfg') → (s.updateConfig host cfg).1 = s

theorem sameTimeouts_of_new {host host' : Host} {addr : Addr} {sockAddr : SocketAddr}
    {n : MasterServer Addr Ip} (h : new host' cfg addr = .ok n) :
    SameTimeouts n (s.setConfig host cfg sockAddr) := by
  unfold new at h
  cases hbind : host'.bind (wrap addr) with
  | none =>
    rw [hbind] at h
    cases h
  | some sock =>
    rw [hbind] at h
    dsimp only at h
    split_ifs at h
    cases h
    exact ⟨rfl, rfl, rfl, rfl⟩

theorem allOrNothing_moved (h : host.localAddr = true)
    (hf : s.sock.isIpv4 = (SocketAddr.new cfg.server.ip cfg.server.port).isIpv4)
    (hs : s.sock ≠ SocketAddr.new cfg.server.ip cfg.server.port) :
    s.AllOrNothing host cfg ↔ ¬ s.LosesSocket host cfg := by
  unfold AllOrNothing LosesSocket
  cases hbind : host.bind (SocketAddr.new cfg.server.ip cfg.server.port) with
  | none =>
    rw [updateConfig_unbound h hf hs hbind]
    refine iff_of_true ⟨fun _ _ => rfl, nofun, nofun⟩ ?_
    rintro ⟨-, -, -, ⟨sock, hsock, -⟩, -⟩
    cases hsock
  | some sock =>
    rw [updateConfig_bound h hf hs hbind]
    cases htimeout : host.setReadTimeout with
    | true =>
      rw [if_neg (by simp)]
      refine iff_of_true ⟨nofun, fun _ hsame => absurd hsame hs, nofun⟩ ?_
      rintro ⟨-, -, -, -, hfalse⟩
      cases hfalse
    | false =>
      rw [if_pos (by simp)]
      constructor
      · rintro ⟨herror, -, -⟩ ⟨-, -, -, ⟨sock', hsock, hne⟩, -⟩
        cases hsock
        exact hne (sock_inj.1 (herror _ rfl))
      · intro hl
        refine ⟨fun _ _ => sock_inj.2 ?_, nofun, nofun⟩
        by_contra hne
        exact hl ⟨h, hf, hs, ⟨sock, rfl, hne⟩, rfl⟩

/-- Nothing but a lost socket is left of a failed reload. -/
theorem allOrNothing_iff : s.AllOrNothing host cfg ↔ ¬ s.LosesSocket host cfg := by
  by_cases h : host.localAddr = true
  · by_cases hf : s.sock.isIpv4 = (SocketAddr.new cfg.server.ip cfg.server.port).isIpv4
    · by_cases hs : s.sock = SocketAddr.new cfg.server.ip cfg.server.port
      · refine iff_of_true ?_ fun hl => hl.2.2.1 hs
        unfold AllOrNothing
        rw [updateConfig_same h hs]
        exact ⟨nofun, fun _ _ => ⟨⟨rfl, rfl, rfl, rfl, rfl, rfl⟩, fun _ _ _ hn =>
          sameTimeouts_of_new hn⟩, nofun⟩
      · exact allOrNothing_moved h hf hs
    · refine iff_of_true ?_ fun hl => hf hl.2.1
      unfold AllOrNothing
      rw [updateConfig_family h hf]
      exact ⟨nofun, nofun, fun _ _ => rfl⟩
  · refine iff_of_true ?_ fun hl => h hl.1
    unfold AllOrNothing
    rw [updateConfig_localAddr h]
    exact ⟨fun _ _ => rfl, nofun, nofun⟩

end MasterServer

namespace MasterServer.Master

open MasterServer (Host)

variable {host : Host} {cfg : MasterConfig}

theorem restart_error {m : Master} {cfg' : MasterConfig} {e : Error}
    (h : (restart host m (.ok (some cfg'))).2 = .error e) :
    (restart host m (.ok (some cfg'))).1 = m := by
  unfold restart at h ⊢
  dsimp only at h ⊢
  cases hnew : new host cfg' with
  | error e => rfl
  | ok n =>
    rw [hnew] at h
    cases h

/-- A server that cannot be replaced stays. -/
theorem restart_failed {m : Master} {e : Error} (hr : m.Restarts host cfg)
    (h : (m.updateConfig host cfg).2 = .error e) : (m.updateConfig host cfg).1 = m := by
  cases m with
  | v4 inner =>
    obtain ⟨cfg', hr⟩ := hr
    have hkept : (inner.updateConfig host cfg).1 = inner :=
      (inner.updateConfig_some hr)
    unfold updateConfig at h ⊢
    dsimp only at h ⊢
    rw [hr, hkept] at h ⊢
    exact restart_error h
  | v6 inner =>
    obtain ⟨cfg', hr⟩ := hr
    have hkept : (inner.updateConfig host cfg).1 = inner :=
      (inner.updateConfig_some hr)
    unfold updateConfig at h ⊢
    dsimp only at h ⊢
    rw [hr, hkept] at h ⊢
    exact restart_error h

end MasterServer.Master

/-- A reload is all or nothing exactly where it does not lose the socket; where it needs another
server that cannot be started, the one that runs stays as it is. -/
theorem reload_all_or_nothing_iff {Addr Ip : Type} [AddrExt Addr Ip] [DecidableEq Addr]
    [DecidableEq Ip] (host : MasterServer.Host) (s : MasterServer Addr Ip) (cfg : MasterConfig) :
    (s.AllOrNothing host cfg ∧ ∀ (m : MasterServer.Master) (e : Error), m.Restarts host cfg →
      (m.updateConfig host cfg).2 = .error e → (m.updateConfig host cfg).1 = m) ↔
    ¬ s.LosesSocket host cfg := by
  rw [← MasterServer.allOrNothing_iff, and_iff_left]
  exact fun m e hr h => MasterServer.Master.restart_failed hr h

/-- A server that moves to another port, where no read timeout can be set. -/
theorem reload_loses_socket : ¬ ∀ (host : MasterServer.Host)
    (s : MasterServer SocketAddrV4 Ipv4Addr) (cfg : MasterConfig), s.AllOrNothing host cfg := by
  intro h
  let old : SocketAddr := .v4 ⟨⟨⟨[0, 0, 0, 0], rfl⟩⟩, 27010⟩
  let cfg : MasterConfig := { server := { port := 27011 } }
  have hall := h ⟨some, false, true, fun _ => none⟩ (.init {} old old) cfg
  refine MasterServer.allOrNothing_iff.1 hall ⟨rfl, rfl, by decide, ?_, rfl⟩
  exact ⟨SocketAddr.new cfg.server.ip cfg.server.port, rfl, by decide⟩

end Xash3d
