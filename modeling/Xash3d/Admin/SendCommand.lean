import Xash3d.Lib.Hoare
import Xash3d.Master.AdminDispatch
import Xash3d.Protocol.Net.Packets

/-!
# The admin client

`sendCommand` asks a master for a pair of challenges, hashes the password of the admin with the second
one, and sends the command with the first one and the hash. `Trace` says what it sends and when.
-/

namespace Xash3d.Admin

open Lib

/-- The options of the command line. -/
structure Cli where
  command : Bytes
  hash : HashConfig := {}
  deriving DecidableEq

inductive Error where
  | unexpectedPacket
  | protocol (e : ProtocolError)
  | io
  deriving DecidableEq

/-- What the client does with its socket, which is connected to the master, and with the terminal. -/
inductive Action where
  | send (packet : Bytes) (ok : Bool)
  | recv (datagram : Bytes)
  | recvError
  | readPassword
  deriving DecidableEq

/-- What the system answers. -/
structure System where
  /-- Whether the socket takes a packet, by the number of actions before. -/
  send : ℕ → Bool
  /-- A datagram that is received, or an error. -/
  recv : Option Bytes
  /-- The password, if one is entered, or an error. -/
  readPassword : Except Unit (Option Bytes)

abbrev Prog (α : Type) := EStateM Error (List Action) α

def send (sys : System) (packet : Bytes) : Prog Unit := fun t =>
  let t' := t ++ [.send packet (sys.send t.length)]
  if sys.send t.length then .ok () t' else .error .io t'

/-- What does not fit the buffer is cut off. -/
def recv (sys : System) : Prog Bytes := fun t =>
  match sys.recv with
  | some datagram => .ok (datagram.take 512) (t ++ [.recv datagram])
  | none => .error .io (t ++ [.recvError])

def readPassword (sys : System) : Prog (Option Bytes) := fun t =>
  match sys.readPassword with
  | .ok password => .ok password (t ++ [.readPassword])
  | .error _ => .error .io (t ++ [.readPassword])

def ofProtocol {α : Type} (r : Except ProtocolError α) : Prog α :=
  match r with
  | .ok a => pure a
  | .error e => throw (.protocol e)

/-- The challenges in the response of a master. -/
def challenges (parseAddr : Bytes → Option SocketAddr) (data : Bytes) : Prog (UInt32 × UInt32) := do
  match ← ofProtocol (MasterPacket.decode parseAddr data) with
  | some (.adminChallengeResponse p) => return (p.masterChallenge, p.hashChallenge)
  | _ => throw .unexpectedPacket

/-- The command of an admin who has the password. -/
def Cli.signed (cli : Cli) (blake2b : HashConfig → Bytes → Bytes) (password : Bytes)
    (c : UInt32 × UInt32) : AdminCommand :=
  ⟨c.1, blake2b cli.hash (password ++ u32Le c.2), cli.command⟩

def sendCommand (blake2b : HashConfig → Bytes → Bytes) (parseAddr : Bytes → Option SocketAddr)
    (sys : System) (cli : Cli) : Prog Unit := do
  let packet ← ofProtocol (AdminChallenge.mk.encode 512)
  send sys packet
  let data ← recv sys
  let c ← challenges parseAddr data
  match ← readPassword sys with
  | none => return
  | some password => do
    let packet ← ofProtocol ((cli.signed blake2b password c).encode 512)
    send sys packet

/-- What the client has done in the end. -/
def Cli.trace (cli : Cli) (blake2b : HashConfig → Bytes → Bytes)
    (parseAddr : Bytes → Option SocketAddr) (sys : System) : List Action :=
  match sendCommand blake2b parseAddr sys cli [] with
  | .ok _ t => t
  | .error _ t => t

/-! ## What is sent -/

section Sent

variable {blake2b : HashConfig → Bytes → Bytes} {parseAddr : Bytes → Option SocketAddr}
  {sys : System} {cli : Cli}

theorem encode_adminChallenge : AdminChallenge.mk.encode 512 = .ok AdminChallenge.header := by
  unfold AdminChallenge.encode
  rw [(Writes.putBytes AdminChallenge.header).run, if_pos (by decide)]

/-- The actions before the command: the response holds the challenges. -/
structure Prepares (parseAddr : Bytes → Option SocketAddr) (sys : System) (password : Bytes)
    (c : UInt32 × UInt32) (datagram : Bytes) (t : List Action) : Prop where
  trace : t = [.send AdminChallenge.header true, .recv datagram, .readPassword]
  decoded : MasterPacket.decode parseAddr (datagram.take 512) =
    .ok (some (.adminChallengeResponse ⟨c.1, c.2⟩))
  password : sys.readPassword = .ok (some password)

/-- The client sends a request, and then nothing or the signed command. -/
inductive Trace (blake2b : HashConfig → Bytes → Bytes) (parseAddr : Bytes → Option SocketAddr)
    (sys : System) (cli : Cli) : List Action → Prop
  | request (ok : Bool) (t : List Action) (h : ∀ packet ok, .send packet ok ∉ t) :
    Trace blake2b parseAddr sys cli (.send AdminChallenge.header ok :: t)
  | command {password datagram : Bytes} {c : UInt32 × UInt32} {t : List Action}
      (h : Prepares parseAddr sys password c datagram t) (ok : Bool) :
    Trace blake2b parseAddr sys cli (t ++ [.send (cli.signed blake2b password c).wire ok])

theorem triple_send {P : List Action → Prop} {packet : Bytes} {Q : Unit → List Action → Prop}
    {E : Error → List Action → Prop} (hok : ∀ t, P t → Q () (t ++ [.send packet true]))
    (herror : ∀ t, P t → E .io (t ++ [.send packet false])) : Triple P (send sys packet) Q E := by
  intro t ht
  unfold send
  cases sys.send t.length with
  | true => exact hok t ht
  | false => exact herror t ht

theorem triple_ofProtocol {α : Type} {P : List Action → Prop} {r : Except ProtocolError α}
    {Q : α → List Action → Prop} {E : Error → List Action → Prop}
    (hok : ∀ a t, r = .ok a → P t → Q a t) (herror : ∀ e t, P t → E (.protocol e) t) :
    Triple P (ofProtocol r) Q E := by
  intro t ht
  cases r with
  | ok a => exact hok a t rfl ht
  | error e => exact herror e t ht

theorem triple_challenges {data : Bytes} {t : List Action} {E : Error → List Action → Prop}
    (hE : ∀ e, E e t) : Triple (· = t) (challenges parseAddr data) (fun c t' => t' = t ∧
      MasterPacket.decode parseAddr data = .ok (some (.adminChallengeResponse ⟨c.1, c.2⟩))) E := by
  unfold challenges
  refine Triple.bind (Q := fun p t' => t' = t ∧ MasterPacket.decode parseAddr data = .ok p)
    (triple_ofProtocol (fun p t' hp ht => ⟨ht, hp⟩) fun e t' ht => ht ▸ hE _) fun p => ?_
  split
  · exact Triple.pure fun t' ht => ht
  · exact Triple.throw fun t' ht => ht.1 ▸ hE _

theorem trace_sendCommand : Triple (· = []) (sendCommand blake2b parseAddr sys cli)
    (fun _ => Trace blake2b parseAddr sys cli) fun _ => Trace blake2b parseAddr sys cli := by
  unfold sendCommand
  rw [encode_adminChallenge]
  refine Triple.bind (Q := fun packet t => t = [] ∧ packet = AdminChallenge.header)
    (fun t ht => ⟨ht, rfl⟩) fun packet => ?_
  refine Triple.bind (Q := fun _ t => t = [.send AdminChallenge.header true]) (triple_send ?_ ?_)
    fun _ => ?_
  · rintro t ⟨rfl, rfl⟩
    rfl
  · rintro t ⟨rfl, rfl⟩
    exact .request false [] (by simp)
  refine Triple.bind (Q := fun data t => ∃ datagram, data = datagram.take 512 ∧
    t = [.send AdminChallenge.header true, .recv datagram]) ?_ fun data => ?_
  · rintro t rfl
    unfold recv
    cases sys.recv with
    | none => exact .request true [.recvError] (by simp)
    | some datagram => exact ⟨datagram, rfl, rfl⟩
  refine Triple.of_exists fun datagram => ?_
  refine Triple.bind (Q := fun c t => t = [.send AdminChallenge.header true, .recv datagram] ∧
    MasterPacket.decode parseAddr (datagram.take 512) =
      .ok (some (.adminChallengeResponse ⟨c.1, c.2⟩))) ?_ fun c => ?_
  · rintro t ⟨rfl, rfl⟩
    exact triple_challenges (fun e => .request true [.recv datagram] (by simp)) _ rfl
  refine Triple.bind (Q := fun password t =>
    t = [.send AdminChallenge.header true, .recv datagram, .readPassword] ∧
    MasterPacket.decode parseAddr (datagram.take 512) =
      .ok (some (.adminChallengeResponse ⟨c.1, c.2⟩)) ∧
    sys.readPassword = .ok password) ?_ fun password => ?_
  · rintro t ⟨rfl, hdata⟩
    unfold readPassword
    cases hp : sys.readPassword with
    | ok password => exact ⟨rfl, hdata, rfl⟩
    | error e => exact .request true [.recv datagram, .readPassword] (by simp)
  cases password with
  | none =>
    refine Triple.pure ?_
    rintro t ⟨rfl, -⟩
    exact .request true [.recv datagram, .readPassword] (by simp)
  | some password =>
    refine Triple.bind (Q := fun packet t => packet = (cli.signed blake2b password c).wire ∧
      Prepares parseAddr sys password c datagram t) (triple_ofProtocol ?_ ?_) fun packet => ?_
    · rintro packet t hpacket ⟨ht, hdata, hpassword⟩
      rw [AdminCommand.encode_eq] at hpacket
      split_ifs at hpacket
      cases hpacket
      exact ⟨rfl, ht, hdata, hpassword⟩
    · rintro e t ⟨rfl, -⟩
      exact .request true [.recv datagram, .readPassword] (by simp)
    · refine triple_send ?_ ?_
      · rintro t ⟨rfl, h⟩
        exact .command h true
      · rintro t ⟨rfl, h⟩
        exact .command h false

/-- The actions of a whole run. -/
theorem trace_cli (blake2b : HashConfig → Bytes → Bytes) (parseAddr : Bytes → Option SocketAddr)
    (sys : System) (cli : Cli) :
    Trace blake2b parseAddr sys cli (cli.trace blake2b parseAddr sys) := by
  unfold Cli.trace
  cases hr : sendCommand blake2b parseAddr sys cli [] with
  | ok a t => exact trace_sendCommand.ok rfl hr
  | error e t => exact trace_sendCommand.error rfl hr

/-- A packet of the client is the request, or the signed command. -/
theorem Trace.send {t u v : List Action} (h : Trace blake2b parseAddr sys cli t) {packet : Bytes}
    {ok : Bool} (ht : t = u ++ .send packet ok :: v) : packet = AdminChallenge.header ∧ u = [] ∨
      ∃ password c datagram, Prepares parseAddr sys password c datagram u ∧
        packet = (cli.signed blake2b password c).wire ∧ v = [] := by
  cases h with
  | request ok' t' hsends =>
    rcases u with _ | ⟨a, u⟩
    · cases ht
      exact Or.inl ⟨rfl, rfl⟩
    · obtain ⟨-, rfl⟩ := List.cons.inj ht
      exact absurd (by simp) (hsends packet ok)
  | @command password datagram c t' hprepares ok' =>
    rcases append_cons_eq_snoc ht.symm with ⟨v', -, ht'⟩ | ⟨rfl, hsend, rfl⟩
    · rw [hprepares.trace] at ht'
      rcases u with _ | ⟨a, _ | ⟨b, _ | ⟨c, u⟩⟩⟩ <;> simp at ht'
      exact Or.inl ⟨ht'.1.1.symm, rfl⟩
    · cases hsend
      exact Or.inr ⟨password, c, datagram, hprepares, rfl, rfl⟩

end Sent

end Xash3d.Admin
