import Xash3d.Master.Run

/-!
# Dispatch of admin packets

The header of an admin command is a prefix of the header of an admin challenge, which is tested
first. `admin_command_iff` says which commands are taken for themselves: those whose challenge,
hash and command do not go on like the longer header.
-/

namespace Xash3d

open Lib

namespace AdminCommand

/-- The bytes of the packet. -/
def wire (m : AdminCommand) : Bytes :=
  header ++ (u32Le m.masterChallenge ++ (m.hash ++ m.command))

/-- What follows the header completes the longer header. -/
def Collides (m : AdminCommand) : Prop :=
  (ascii "challenge").isPrefixOf (u32Le m.masterChallenge ++ (m.hash ++ m.command)) = true

instance (m : AdminCommand) : Decidable m.Collides := inferInstanceAs (Decidable (_ = true))

theorem encode_eq (cap : ℕ) (m : AdminCommand) : m.encode cap =
    if m.wire.length ≤ cap then .ok m.wire else .error (.cursorError .bufferOverflow) := by
  apply Writes.run
  exact (Writes.putBytes _).seq ((Writes.putU32Le _).seq ((Writes.putBytes _).seq
    (Writes.putBytes _)))

theorem isPrefixOf_wire (m : AdminCommand) : header.isPrefixOf m.wire = true := by
  rw [List.isPrefixOf_iff_prefix]
  exact List.prefix_append _ _

theorem collides_iff (m : AdminCommand) :
    AdminChallenge.header.isPrefixOf m.wire = true ↔ m.Collides := by
  have hheader : AdminChallenge.header = header ++ ascii "challenge" := by decide
  unfold Collides wire
  rw [hheader, List.isPrefixOf_iff_prefix, List.isPrefixOf_iff_prefix,
    List.prefix_append_right_inj]

theorem getStr_after {pre s : Bytes} (hs : isUtf8 s = true) :
    Cursor.getStr s.length (.after pre s) = (.ok s, .after (pre ++ s) []) := by
  have h := Cursor.getBytes_after pre s [] rfl
  rw [List.append_nil] at h
  unfold Cursor.getStr
  rw [h]
  exact if_pos hs

/-- The command is decoded when it is taken for one. -/
theorem decodeWithHashLen_wire {m : AdminCommand} (hu : isUtf8 m.command = true) :
    decodeWithHashLen m.hash.length m.wire = .ok m := by
  unfold decodeWithHashLen Read.run
  rw [wire, Cursor.new_eq, Read.bind_ok (Read.lift_ok (Cursor.expect_after _ _ _)),
    Read.bind_ok (Read.lift_ok (Cursor.getU32Le_after _ _ _)),
    Read.bind_ok (Read.lift_ok (Cursor.getBytes_after _ _ _ rfl)),
    Read.bind_ok (Cursor.rest_after _ _), Read.bind_ok (Read.lift_ok (getStr_after hu)),
    Read.bind_ok (Read.lift_ok (Cursor.expectEmpty_after _))]
  rfl

theorem decode_wire_iff {m : AdminCommand} (hu : isUtf8 m.command = true) :
    AdminPacket.decode m.hash.length m.wire = .ok (some (.adminCommand m)) ↔ ¬ m.Collides := by
  unfold AdminPacket.decode
  by_cases hc : m.Collides
  · rw [if_pos (m.collides_iff.2 hc)]
    constructor
    · intro h
      cases hd : AdminChallenge.decode m.wire with
      | error e =>
        rw [hd] at h
        cases h
      | ok c =>
        rw [hd] at h
        cases h
    · intro h
      exact absurd hc h
  · rw [if_neg (mt m.collides_iff.1 hc), if_pos m.isPrefixOf_wire, decodeWithHashLen_wire hu]
    exact iff_of_true rfl hc

end AdminCommand

namespace MasterServer

/-- The handlers of the packets a master server receives. -/
inductive Handler where
  | serverChallenge
  | serverAdd
  | serverRemove
  | gameQueryServers
  | gameGetServerInfo
  | adminChallenge
  | adminCommand
  deriving DecidableEq

/-- The handler whose header a packet starts with. -/
def dispatch (src : Bytes) : Option Handler :=
  if Challenge.header.isPrefixOf src then some .serverChallenge
  else if ServerAdd.header.isPrefixOf src then some .serverAdd
  else if ServerRemove.header.isPrefixOf src then some .serverRemove
  else if QueryServers.header.isPrefixOf src then some .gameQueryServers
  else if GetServerInfo.header.isPrefixOf src then some .gameGetServerInfo
  else if AdminChallenge.header.isPrefixOf src then some .adminChallenge
  else if AdminCommand.header.isPrefixOf src then some .adminCommand
  else none

variable {Addr Ip : Type} [AddrExt Addr Ip] [DecidableEq Addr] [DecidableEq Ip]

/-- What a handler does with a packet. -/
def handleWith (blake2b : HashConfig → Bytes → Bytes) (env : Env Addr) (s : MasterServer Addr Ip)
    (peer : Addr) (src : Bytes) : Option Handler → Outcome (MasterServer Addr Ip) Addr
  | some .serverChallenge =>
    handleDecoded s (Challenge.decode src) (s.handleServerChallenge env peer)
  | some .serverAdd => handleDecoded s (ServerAdd.decode src) (s.handleServerAdd env peer)
  | some .serverRemove =>
    handleDecoded s (ServerRemove.decode src) fun _ => s.handleServerRemove peer
  | some .gameQueryServers =>
    let (allowed, s) := s.allowGameRequest env peer
    handleAllowed allowed s <|
      handleDecoded s (QueryServers.decode src) (s.handleGameQueryServers env peer)
  | some .gameGetServerInfo =>
    let (allowed, s) := s.allowGameRequest env peer
    handleAllowed allowed s <|
      handleDecoded s (GetServerInfo.decode src) (s.handleGameGetServerInfo env peer)
  | some .adminChallenge =>
    handleAllowed (s.allowAdminRequest env peer) s <|
      handleDecoded s (AdminChallenge.decode src) fun _ => s.handleAdminChallenge env peer
  | some .adminCommand =>
    handleAllowed (s.allowAdminRequest env peer) s <|
      handleDecoded s (AdminCommand.decodeWithHashLen s.cfg.hash.len src)
        (s.handleAdminCommand blake2b env peer)
  | none => .fail s .undefinedPacket

/-- A packet is handled by the handler it is dispatched to. -/
theorem handlePacket_eq (blake2b : HashConfig → Bytes → Bytes) (env : Env Addr)
    (s : MasterServer Addr Ip) (peer : Addr) (src : Bytes) :
    s.handlePacket blake2b env peer src = s.handleWith blake2b env peer src (dispatch src) := by
  unfold handlePacket dispatch
  split_ifs <;> rfl

theorem dispatch_wire_iff (m : AdminCommand) :
    dispatch m.wire = some .adminCommand ↔ ¬ m.Collides := by
  have hp := m.isPrefixOf_wire
  unfold dispatch
  rw [if_neg (not_isPrefixOf (by decide) hp), if_neg (not_isPrefixOf (by decide) hp),
    if_neg (not_isPrefixOf (by decide) hp), if_neg (not_isPrefixOf (by decide) hp),
    if_neg (not_isPrefixOf (by decide) hp)]
  by_cases hc : m.Collides
  · rw [if_pos (m.collides_iff.2 hc)]
    simpa using hc
  · rw [if_neg (mt m.collides_iff.1 hc), if_pos hp]
    exact iff_of_true rfl hc

/-- An encoded command is decoded to itself and handled as a command, exactly when its challenge,
hash and command do not complete the header of an admin challenge. -/
theorem admin_command_iff {n : ℕ} {m : AdminCommand} (hn : m.hash.length = n)
    (hu : isUtf8 m.command = true) :
    (∀ cap out, m.encode cap = .ok out →
      AdminPacket.decode n out = .ok (some (.adminCommand m)) ∧
      dispatch out = some .adminCommand ∧
      ∀ (blake2b : HashConfig → Bytes → Bytes) (env : Env Addr) (s : MasterServer Addr Ip)
        (peer : Addr), s.cfg.hash.len = n →
          s.handlePacket blake2b env peer out = handleAllowed (s.allowAdminRequest env peer) s
            (s.handleAdminCommand blake2b env peer m)) ↔ ¬ m.Collides := by
  subst hn
  constructor
  · intro h
    have henc : m.encode m.wire.length = .ok m.wire := by
      rw [m.encode_eq]
      exact if_pos le_rfl
    exact (AdminCommand.decode_wire_iff hu).1 (h _ _ henc).1
  · intro hc cap out henc
    have hout : out = m.wire := by
      rw [m.encode_eq] at henc
      split at henc
      · exact (Except.ok.inj henc).symm
      · cases henc
    have hd := (dispatch_wire_iff m).2 hc
    rw [hout]
    refine ⟨(AdminCommand.decode_wire_iff hu).2 hc, hd, ?_⟩
    intro blake2b env s peer hs
    rw [handlePacket_eq, hd]
    show handleAllowed _ s (handleDecoded s _ _) = _
    rw [hs, AdminCommand.decodeWithHashLen_wire hu]
    rfl

/-- The command of the test. -/
theorem admin_command_iff_test :
    AdminPacket.decode 64 (AdminCommand.wire ⟨0x12345678, List.replicate 64 1, ascii "foo bar baz"⟩) =
      .ok (some (.adminCommand ⟨0x12345678, List.replicate 64 1, ascii "foo bar baz"⟩)) := by
  have henc : AdminCommand.encode 512 ⟨0x12345678, List.replicate 64 1, ascii "foo bar baz"⟩ =
      .ok (AdminCommand.wire ⟨0x12345678, List.replicate 64 1, ascii "foo bar baz"⟩) := by
    rw [AdminCommand.encode_eq]
    exact if_pos (by decide +kernel)
  exact ((@admin_command_iff SocketAddrV4 Ipv4Addr _ _ _ _ _ (by decide +kernel)
    (by decide +kernel)).2 (by decide +kernel) _ _ henc).1

/-- A challenge of `chal` and a hash that starts with `lenge` are taken for the longer header. -/
theorem command_taken_for_challenge : ¬ ∀ (n : ℕ) (m : AdminCommand), m.hash.length = n →
    isUtf8 m.command = true → ∀ cap out, m.encode cap = .ok out →
      AdminPacket.decode n out = .ok (some (.adminCommand m)) ∧
        dispatch out = some .adminCommand := by
  intro h
  have henc : AdminCommand.encode 512
      ⟨0x6c616863, ascii "lenge" ++ List.replicate 59 0, ascii "status"⟩ =
      .ok (AdminCommand.wire ⟨0x6c616863, ascii "lenge" ++ List.replicate 59 0, ascii "status"⟩) := by
    rw [AdminCommand.encode_eq]
    exact if_pos (by decide +kernel)
  have hd := (h 64 _ (by decide +kernel) (by decide +kernel) 512 _ henc).2
  exact (dispatch_wire_iff _).1 hd (by decide +kernel)

end MasterServer

end Xash3d
