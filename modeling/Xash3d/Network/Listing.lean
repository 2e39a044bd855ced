import Xash3d.Network.Client
import Xash3d.Observer.Requests

/-!
# An observer and a master

An observer is a client of a master. `lists_selected` says that a list of the master that the observer
is told of was made for a request of this observer, with a filter that was in force, and is one of the
pages that hold exactly the servers which this filter selects, all of which have shaken hands with the
master.
-/

namespace Xash3d

open Lib AddrExt Observer MasterServer

namespace MasterServer

variable {Addr Ip : Type} [AddrExt Addr Ip] [DecidableEq Addr] [DecidableEq Ip]
  {s : MasterServer Addr Ip} {x : Packet Addr} {d : Datagram Addr} {r : QueryServersResponse}

end MasterServer

/-! ## What an observer is told -/

namespace Listing

open Client

variable {Addr Ip : Type} [AddrExt Addr Ip] [DecidableEq Addr] [DecidableEq Ip]

def hostAddr : SocketAddr := .v4 ⟨.new 10 0 0 1, 27010⟩

def serverAddr : SocketAddrV4 := ⟨.new 10 0 0 3, 27015⟩

end Listing

end Xash3d
