import Xash3d.Lib.Network
import Xash3d.Master.Replies

/-!
# A client and a master

A client sends packets to a master and takes its answers, over a network that loses, repeats and
reorders datagrams (`network`). Other parties may send them anything, under addresses of their own.

* `exists_request`: an answer of the master to the client answers a packet of the client.
-/

namespace Xash3d

open Lib AddrExt MasterServer

/-- The IPv4 address of four bytes. -/
def Ipv4Addr.new (a b c d : UInt8) : Ipv4Addr := ⟨⟨[a, b, c, d], rfl⟩⟩

/-- A party that talks to a master: the packets that its actions send and take. -/
structure Client (α : Type) where
  address : SocketAddr
  sends : α → SocketAddr → Bytes → Prop
  takes : α → SocketAddr → Bytes → Prop

/-- What happens: an action of the client, or an event of the master. -/
inductive Step (α Addr : Type) where
  | client (a : α)
  | master (z : MasterServer.Event Addr)

structure Transfer where
  src : SocketAddr
  dest : SocketAddr
  packet : Bytes
  deriving DecidableEq

namespace Step

variable {α Addr : Type}

def client? : Step α Addr → Option α
  | client a => some a
  | master _ => none

def event? : Step α Addr → Option (MasterServer.Event Addr)
  | client _ => none
  | master z => some z

theorem client?_eq_some {e : Step α Addr} {a : α} (h : e.client? = some a) : e = .client a := by
  cases e with
  | client b => exact congrArg _ (Option.some.inj h)
  | master z => cases h

theorem event?_eq_some {e : Step α Addr} {z : MasterServer.Event Addr} (h : e.event? = some z) :
    e = .master z := by
  cases e with
  | client a => cases h
  | master z' => exact congrArg _ (Option.some.inj h)

theorem events_append_cons (p q : List (Step α Addr)) (z : MasterServer.Event Addr) :
    (p ++ .master z :: q).filterMap event? = p.filterMap event? ++ z :: q.filterMap event? := by
  rw [List.filterMap_append]
  rfl

end Step

namespace Client

variable {α Addr Ip : Type} [AddrExt Addr Ip] [DecidableEq Addr] [DecidableEq Ip]

/-- The master after the events of a history. -/
def masterAt (blake2b : HashConfig → Bytes → Bytes) (s₀ : MasterServer Addr Ip)
    (es : List (Step α Addr)) : MasterServer Addr Ip :=
  exec (turn blake2b) s₀ (es.filterMap Step.event?)

theorem masterAt_append_cons (blake2b : HashConfig → Bytes → Bytes) (s₀ : MasterServer Addr Ip)
    (p q : List (Step α Addr)) (z : MasterServer.Event Addr) :
    masterAt blake2b s₀ (p ++ .master z :: q) =
      exec (turn blake2b) ((masterAt blake2b s₀ p).turn blake2b z) (q.filterMap Step.event?) := by
  unfold masterAt
  rw [Step.events_append_cons, exec_append, exec_cons]

section Network

variable (c : Client α) (blake2b : HashConfig → Bytes → Bytes) (s₀ : MasterServer Addr Ip)
  (host : SocketAddr)

/-- The master has the address `host`. -/
inductive Sends : List (Step α Addr) → Step α Addr → Transfer → Prop
  | client (es : List (Step α Addr)) (a : α) (dest : SocketAddr) (packet : Bytes)
      (h : c.sends a dest packet) : Sends es (.client a) ⟨c.address, dest, packet⟩
  | master (es : List (Step α Addr)) (x : Arrival Addr) (d : Datagram Addr)
      (h : d ∈ ((masterAt blake2b s₀ es).receive blake2b x.env x.sender x.src).sent) :
    Sends es (.master (.arrival x)) ⟨host, wrap d.dest, d.packet⟩

/-- What client and master take from each other. -/
inductive Takes : Step α Addr → Transfer → Prop
  | client (a : α) (packet : Bytes) (h : c.takes a host packet) :
    Takes (.client a) ⟨host, c.address, packet⟩
  | master (x : Arrival Addr) (h : x.sender = c.address) :
    Takes (.master (.arrival x)) ⟨c.address, host, x.src⟩

def network : Network (Step α Addr) Transfer := ⟨Sends c blake2b s₀ host, Takes c host⟩

end Network

variable {c : Client α} {blake2b : HashConfig → Bytes → Bytes} {s₀ : MasterServer Addr Ip}
  {host : SocketAddr} {p q : List (Step α Addr)}

/-- What the master takes from the client was sent by an action of it. -/
theorem exists_send (hne : c.address ≠ host) {x : Arrival Addr}
    (h : (c.network blake2b s₀ host).Carried (p ++ .master (.arrival x) :: q))
    (hx : x.sender = c.address) :
    ∃ p₁ a p₂, p = p₁ ++ .client a :: p₂ ∧ c.sends a host x.src := by
  obtain ⟨p₁, e, p₂, rfl, hsends⟩ := h p _ q rfl _ (Takes.master x hx)
  generalize hm : (⟨c.address, host, x.src⟩ : Transfer) = m at hsends
  cases hsends with
  | client a dest packet ha =>
    obtain ⟨-, rfl, rfl⟩ := Transfer.mk.inj hm
    exact ⟨p₁, a, p₂, rfl, ha⟩
  | master y d hd => exact absurd (Transfer.mk.inj hm).1 hne

/-- What the client takes from the master is a reply to a packet that an action of it has sent, if it
is not the announce of another one. -/
theorem exists_request (hne : c.address ≠ host) {a : α} {packet : Bytes}
    (h : (c.network blake2b s₀ host).Carried (p ++ .client a :: q)) (ha : c.takes a host packet)
    (hno : ¬ ClientAnnounce.header <+: packet) :
    ∃ p₁ b p₂ x p₃ peer d, p = (p₁ ++ .client b :: p₂) ++ .master (.arrival x) :: p₃ ∧
      c.sends b host x.src ∧ x.sender = c.address ∧ c.address = wrap peer ∧ d.packet = packet ∧
      ip peer ∉ (masterAt blake2b s₀ (p₁ ++ .client b :: p₂)).blocklist ∧
      Replies (masterAt blake2b s₀ (p₁ ++ .client b :: p₂)) (⟨x.env, peer, x.src⟩ : Packet Addr) d := by
  obtain ⟨p', e, p₃, rfl, hsends⟩ := h p _ q rfl _ (Takes.client a packet ha)
  have hcarried : (c.network blake2b s₀ host).Carried (p' ++ e :: p₃) := h.left
  generalize hm : (⟨host, c.address, packet⟩ : Transfer) = m at hsends
  cases hsends with
  | client b dest packet' hb => exact absurd (Transfer.mk.inj hm).1.symm hne
  | master x d hd =>
    obtain ⟨-, hdest, rfl⟩ := Transfer.mk.inj hm
    obtain ⟨peer, hpeer, hb, hreplies⟩ := replies_of_mem_receive hd
    have hsame : d.dest = peer := by
      rcases hreplies.cases_dest with ⟨h, -⟩ | ⟨h, -⟩
      · exact h
      · exact absurd (h ▸ List.prefix_append _ _) hno
    have hsender : x.sender = c.address := by rw [hpeer, hdest, hsame]
    obtain ⟨p₁, b, p₂, rfl, hsent⟩ := exists_send hne hcarried hsender
    exact ⟨p₁, b, p₂, x, p₃, peer, d, rfl, hsent, hsender, by rw [hdest, hsame], rfl, hb, hreplies⟩

end Client

end Xash3d
