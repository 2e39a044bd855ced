import Xash3d.Protocol.SocketAddr
import Xash3d.Protocol.Text

/-!
# Configuration of the master server
-/

namespace Xash3d

open Lib

inductive IpAddr where
  | v4 (ip : Ipv4Addr)
  | v6 (ip : Ipv6Addr)
  deriving DecidableEq

/-- The socket address of an IP address and a port. -/
def SocketAddr.new (ip : IpAddr) (port : UInt16) : SocketAddr :=
  match ip with
  | .v4 ip => .v4 ⟨ip, port⟩
  | .v6 ip => .v6 ⟨ip, port, 0, 0⟩

def SocketAddr.port : SocketAddr → UInt16
  | .v4 a => a.port
  | .v6 a => a.port

def SocketAddr.isIpv4 : SocketAddr → Bool
  | .v4 _ => true
  | .v6 _ => false

/-- Timeouts in seconds. -/
structure TimeoutConfig where
  challenge : UInt32 := 10
  server : UInt32 := 300
  admin : UInt32 := 10
  deriving DecidableEq

structure ServerConfig where
  ip : IpAddr := .v4 ⟨⟨[0, 0, 0, 0], rfl⟩⟩
  port : UInt16 := 27010
  maxServersPerIp : UInt16 := 14
  minVersion : Version := .new 0 21
  timeout : TimeoutConfig := {}
  /-- Game requests per second of an IP address, not limited if zero. -/
  clientRateLimit : UInt32 := 0
  deriving DecidableEq

structure ClientConfig where
  minVersion : Version := .new 0 21
  minEngineBuildnum : UInt32 := 0
  minOldEngineBuildnum : UInt32 := 3500
  updateMap : Bytes := ascii "Update please"
  updateTitle : Bytes := ascii "https://github.com/FWGS/xash3d-fwgs"
  updateAddr : Option Bytes := none
  deriving DecidableEq

/-- Parameters of the keyed hash of admin passwords. -/
structure HashConfig where
  len : ℕ := 64
  key : Bytes := ascii "Half-Life"
  personal : Bytes := ascii "Freeman"
  deriving DecidableEq

structure AdminConfig where
  name : Bytes
  password : Bytes
  deriving DecidableEq

structure MasterConfig where
  server : ServerConfig := {}
  client : ClientConfig := {}
  hash : HashConfig := {}
  adminList : List AdminConfig := []
  deriving DecidableEq

end Xash3d
