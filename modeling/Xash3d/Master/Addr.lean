import Xash3d.Protocol.Net.Master

/-!
# The address family of a master server

A master server is generic in its address type. `AddrExt` is what it needs of it, with the laws
the two families satisfy.
-/

namespace Xash3d

open Lib

class AddrExt (Addr : Type) (Ip : outParam Type) extends ServerAddress Addr where
  /-- The address of this family, if it is one. -/
  extract : SocketAddr → Option Addr
  ip : Addr → Ip
  wrap : Addr → SocketAddr
  /-- The length of an MTU buffer. -/
  mtu (Addr) : ℕ
  /-- Parse an IP address. -/
  ipFromStr (Addr) : Bytes → Option Ip
  extract_eq_some : ∀ {a sa}, extract sa = some a ↔ wrap a = sa
  le_mtu : 48 ≤ mtu

namespace AddrExt

instance : AddrExt SocketAddrV4 Ipv4Addr where
  extract
    | .v4 a => some a
    | .v6 _ => none
  ip a := a.ip
  wrap := .v4
  mtu := 512
  ipFromStr := Ipv4Addr.fromStr
  extract_eq_some {a sa} := by cases sa <;> simp [eq_comm]
  le_mtu := by decide

instance : AddrExt SocketAddrV6 Ipv6Addr where
  extract
    | .v4 _ => none
    | .v6 a => some a
  ip a := a.ip
  wrap := .v6
  mtu := 1280
  ipFromStr := Ipv6Addr.fromStr
  extract_eq_some {a sa} := by cases sa <;> simp [eq_comm]
  le_mtu := by decide

variable {Addr Ip : Type} [AddrExt Addr Ip]

@[simp] theorem extract_wrap (a : Addr) : extract (wrap a) = some a := extract_eq_some.2 rfl

theorem wrap_injective : Function.Injective (wrap : Addr → SocketAddr) := by
  intro a b h
  have hextract : (extract (wrap a) : Option Addr) = extract (wrap b) := congrArg extract h
  simpa using hextract

/-- An MTU buffer has room for a header with a key, an address and the end marker. -/
theorem room_le_mtu (Addr : Type) {Ip : Type} [AddrExt Addr Ip] (S : Type) [ServerAddress S] :
    12 + ServerAddress.size S * 2 ≤ mtu Addr := by
  have h : 48 ≤ mtu Addr := le_mtu
  have hs := ServerAddress.size_le (A := S)
  omega

end AddrExt

end Xash3d
