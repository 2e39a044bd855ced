import Xash3d.Protocol.CheckedDecoders
import Xash3d.Protocol.Keyless

/-!
# Packets with their checks

The decoders of requests, of responses of a master server and of admin packets on checked reads,
and the packets of each kind by their headers. A hash is as long as the configuration says, which
holds a signed number of 64 bits.
-/

namespace Xash3d

open Lib

variable {src : Bytes} {parseAddr : Bytes → Option SocketAddr}

/-- A decoded packet as one of a kind. -/
def packetOf {P Q : Type} (f : P → Q) (r : Except Fault (Except ProtocolError P)) :
    Except Fault (Except ProtocolError (Option Q)) := r.map fun x => x.map (some ∘ f)

/-! ## Packets of a game server -/

namespace Server

def Packet.decodeChecked (src : Bytes) : Except Fault (Except ProtocolError (Option Packet)) :=
  if Challenge.header.isPrefixOf src then packetOf challenge (Challenge.decodeChecked src)
  else if ServerAdd.header.isPrefixOf src then packetOf serverAdd (ServerAdd.decodeChecked src)
  else if ServerRemove.header.isPrefixOf src then
    packetOf (fun _ => serverRemove) (ServerRemove.decodeChecked src)
  else if GetServerInfoResponse.header.isPrefixOf src then
    packetOf getServerInfoResponse (GetServerInfoResponse.decodeChecked src)
  else if GetChallengeResponse.header.isPrefixOf src then
    packetOf getChallengeResponse (GetChallengeResponse.decodeChecked src)
  else if GetServerInfo2Response.header.isPrefixOf src then
    packetOf getServerInfo2Response (GetServerInfo2Response.decodeChecked src)
  else if GetServerInfo2ResponseOld.header.isPrefixOf src then
    packetOf getServerInfo2ResponseOld (GetServerInfo2ResponseOld.decodeChecked src)
  else if GetPlayersResponse.header.isPrefixOf src then
    packetOf getPlayersResponse (GetPlayersResponse.decodeChecked src)
  else .ok (.ok none)

theorem Packet.decodeChecked_eq (h : src.length < 2 ^ 63) :
    Packet.decodeChecked src = .ok (Packet.decode src) := by
  unfold Packet.decodeChecked Packet.decode
  rw [Challenge.decodeChecked_eq h, ServerAdd.decodeChecked_eq h, ServerRemove.decodeChecked_eq h,
    GetServerInfoResponse.decodeChecked_eq h, GetChallengeResponse.decodeChecked_eq h,
    GetServerInfo2Response.decodeChecked_eq h, GetServerInfo2ResponseOld.decodeChecked_eq h,
    GetPlayersResponse.decodeChecked_eq h]
  split_ifs
  all_goals rfl

end Server

/-! ## Requests of a game client -/

namespace Filter

def fromSliceChecked (src : Bytes) : Except Fault (Except ProtocolError Filter) := do
  match ← MapIter.fromSliceChecked src with
  | .ok iter => iter.tryFoldChecked visit default
  | .error e => return .error e

theorem fromSliceChecked_eq (h : src.length < 2 ^ 63) :
    fromSliceChecked src = .ok (fromSlice src) := by
  unfold fromSliceChecked fromSlice
  rw [MapIter.fromSliceChecked_eq]
  cases hiter : MapIter.fromSlice src with
  | error e => rfl
  | ok iter => exact MapIter.tryFoldChecked_eq _ (MapIter.clean_of_fromSlice h hiter) _

end Filter

namespace QueryServers

def decodeChecked (src : Bytes) : Except Fault (Except ProtocolError (QueryServers Filter)) :=
  Checked.run (do
    (Checked.expect header).lift
    let b ← Checked.getU8.lift
    let region ← Checked.ofExcept ((Region.tryFrom b).mapError fun _ => .invalidRegion)
    let last ← Checked.getCstr.lift
    let cstr ← Checked.getCstrFfi.attempt
    match cstr with
    | .ok s => do
      Checked.expectEmpty.lift
      let filter ← Checked.outcome (Filter.fromSliceChecked (Cursor.toBytes s))
      return ⟨region, last, filter⟩
    | .error (_ : CursorError) => do
      let s ← Checked.rest
      let filter ← Checked.outcome (Filter.fromSliceChecked s)
      return ⟨region, last, filter⟩) src

theorem decodeChecked_eq (h : src.length < 2 ^ 63) : decodeChecked src = .ok (decode src) := by
  apply Safe.run h
  intro c hc
  refine (Safe.expect hc (by decide)).lift.bind fun _ c hc _ => ?_
  refine (Safe.getU8 hc).lift.bind fun b c hc _ => ?_
  refine (Safe.ofExcept hc _).bind fun region c hc _ => ?_
  refine (Safe.getCstr hc).lift.bind fun last c hc _ => ?_
  refine (Safe.getCstrFfi hc).attempt.bind fun cstr c₁ hc₁ hcstr => ?_
  have hcstr := Read.attempt_eq_ok hcstr
  cases cstr with
  | error e =>
    refine (Safe.rest hc₁).bind fun s c hc hrest => ?_
    cases hrest
    refine (Safe.outcome hc (Filter.fromSliceChecked_eq hc₁.length_asSlice_lt)).bind ?_
    exact fun _ _ hc _ => .pure hc _
  | ok s =>
    refine (Safe.expectEmpty hc₁).lift.bind fun _ c₂ hc₂ _ => ?_
    have hlen := Safe.length_of_getCstrFfi hc hcstr
    refine (Safe.outcome hc₂ (Filter.fromSliceChecked_eq hlen)).bind ?_
    exact fun _ _ hc _ => .pure hc _

end QueryServers

namespace GetServerInfo

def decodeChecked (src : Bytes) : Except Fault (Except ProtocolError GetServerInfo) :=
  Checked.run (do
    (Checked.expect header).lift
    let n ← Checked.remaining
    let s ← (Checked.getStr n).lift
    match parseUnsigned 255 10 s with
    | some n => return ⟨UInt8.ofNat n⟩
    | none => Checked.fail .invalidPacket) src

theorem decodeChecked_eq (h : src.length < 2 ^ 63) : decodeChecked src = .ok (decode src) := by
  apply Safe.run h
  intro c hc
  refine (Safe.expect hc (by decide)).lift.bind fun _ c hc _ => ?_
  refine Safe.remaining hc ?_
  refine (Safe.getStr hc hc.length_asSlice_lt).lift.bind fun s c hc _ => ?_
  cases parseUnsigned 255 10 s with
  | none => exact .fail hc _
  | some n => exact .pure hc _

end GetServerInfo

namespace GetChallenge

def decodeChecked (src : Bytes) : Except Fault (Except ProtocolError GetChallenge) :=
  Checked.run (do
    (Checked.expect header).lift
    Checked.expectEmpty.lift
    return ⟨⟩) src

theorem decodeChecked_eq (h : src.length < 2 ^ 63) : decodeChecked src = .ok (decode src) := by
  apply Safe.run h
  intro c hc
  refine (Safe.expect hc (by decide)).lift.bind fun _ c hc _ => ?_
  refine (Safe.expectEmpty hc).lift.bind fun _ c hc _ => ?_
  exact .pure hc _

end GetChallenge

namespace GetServerInfo2

def decodeChecked (src : Bytes) : Except Fault (Except ProtocolError GetServerInfo2) :=
  Checked.run (do
    (Checked.expect header).lift
    let more ← Checked.hasRemaining
    let challenge ←
      if !more then pure none
      else do
        let challenge ← Checked.getU32Le.lift
        pure (some challenge)
    Checked.expectEmpty.lift
    return ⟨challenge⟩) src

theorem decodeChecked_eq (h : src.length < 2 ^ 63) : decodeChecked src = .ok (decode src) := by
  apply Safe.run h
  intro c hc
  refine (Safe.expect hc (by decide)).lift.bind fun _ c hc _ => ?_
  refine Safe.hasRemaining ?_
  rw [Bool.not_not]
  refine Safe.ite (fun _ => ?_) fun _ => ?_
  · refine (Safe.expectEmpty hc).lift.bind fun _ c hc _ => ?_
    exact .pure hc _
  · refine (Safe.getU32Le hc).lift.bind fun _ c hc _ => ?_
    refine (Safe.expectEmpty hc).lift.bind fun _ c hc _ => ?_
    exact .pure hc _

end GetServerInfo2

namespace GetPlayers

def decodeChecked (src : Bytes) : Except Fault (Except ProtocolError GetPlayers) :=
  Checked.run (do
    (Checked.expect header).lift
    let challenge ← Checked.getU32Le.lift
    if challenge = 0xffffffff then Checked.fail .invalidPacket
    else do
      Checked.expectEmpty.lift
      return ⟨challenge⟩) src

theorem decodeChecked_eq (h : src.length < 2 ^ 63) : decodeChecked src = .ok (decode src) := by
  apply Safe.run h
  intro c hc
  refine (Safe.expect hc (by decide)).lift.bind fun _ c hc _ => ?_
  refine (Safe.getU32Le hc).lift.bind fun _ c hc _ => ?_
  refine Safe.ite (fun _ => .fail hc _) fun _ => ?_
  refine (Safe.expectEmpty hc).lift.bind fun _ c hc _ => ?_
  exact .pure hc _

end GetPlayers

def GamePacket.decodeChecked (src : Bytes) :
    Except Fault (Except ProtocolError (Option GamePacket)) :=
  if QueryServers.header.isPrefixOf src then packetOf queryServers (QueryServers.decodeChecked src)
  else if GetChallenge.header.isPrefixOf src then
    packetOf getChallenge (GetChallenge.decodeChecked src)
  else if GetServerInfo.header.isPrefixOf src then
    packetOf getServerInfo (GetServerInfo.decodeChecked src)
  else if GetServerInfo2.header.isPrefixOf src then
    packetOf getServerInfo2 (GetServerInfo2.decodeChecked src)
  else if GetPlayers.header.isPrefixOf src then packetOf getPlayers (GetPlayers.decodeChecked src)
  else .ok (.ok none)

theorem GamePacket.decodeChecked_eq (h : src.length < 2 ^ 63) :
    GamePacket.decodeChecked src = .ok (GamePacket.decode src) := by
  unfold GamePacket.decodeChecked GamePacket.decode
  rw [QueryServers.decodeChecked_eq h, GetChallenge.decodeChecked_eq h,
    GetServerInfo.decodeChecked_eq h, GetServerInfo2.decodeChecked_eq h,
    GetPlayers.decodeChecked_eq h]
  split_ifs
  all_goals rfl

/-! ## Responses of a master server -/

namespace ChallengeResponse

def decodeChecked (src : Bytes) : Except Fault (Except ProtocolError ChallengeResponse) :=
  Checked.run (do
    (Checked.expect header).lift
    let masterChallenge ← Checked.getU32Le.lift
    let n ← Checked.remaining
    let serverChallenge ←
      if n = 4 then do
        let challenge ← Checked.getU32Le.lift
        pure (some challenge)
      else pure none
    Checked.expectEmpty.lift
    return ⟨masterChallenge, serverChallenge⟩) src

theorem decodeChecked_eq (h : src.length < 2 ^ 63) : decodeChecked src = .ok (decode src) := by
  apply Safe.run h
  intro c hc
  refine (Safe.expect hc (by decide)).lift.bind fun _ c hc _ => ?_
  refine (Safe.getU32Le hc).lift.bind fun _ c hc _ => ?_
  refine Safe.remaining hc ?_
  refine Safe.ite (fun _ => ?_) fun _ => ?_
  · refine (Safe.getU32Le hc).lift.bind fun _ c hc _ => ?_
    refine (Safe.expectEmpty hc).lift.bind fun _ c hc _ => ?_
    exact .pure hc _
  · refine (Safe.expectEmpty hc).lift.bind fun _ c hc _ => ?_
    exact .pure hc _

end ChallengeResponse

/-- Addresses whose reading has no faults. -/
class CheckedAddress (A : Type) extends ServerAddress A where
  getChecked : Checked ProtocolError A
  safe_get : ∀ {c : Cursor}, c.Fits → Safe getChecked get c

/-- Reading an array and a port. -/
def getAddrChecked (n : ℕ) : Checked ProtocolError (ByteArr n × UInt16) := do
  let octets ← (Checked.getArray n).lift
  let port ← Checked.getU16Be.lift
  return (octets, port)

theorem safe_getAddr {c : Cursor} (hc : c.Fits) {n : ℕ} (h : n < 2 ^ 63) :
    Safe (getAddrChecked n) (getAddr n) c := by
  refine (Safe.getArray hc h).lift.bind fun octets c hc _ => ?_
  refine (Safe.getU16Be hc).lift.bind fun port c hc _ => ?_
  exact .pure hc _

instance : CheckedAddress SocketAddrV4 where
  getChecked := do
    let (octets, port) ← getAddrChecked 4
    return ⟨⟨octets⟩, port⟩
  safe_get hc := (safe_getAddr hc (by decide)).bind fun _ _ hc _ => .pure hc _

instance : CheckedAddress SocketAddrV6 where
  getChecked := do
    let (octets, port) ← getAddrChecked 16
    return ⟨⟨octets⟩, port, 0, 0⟩
  safe_get hc := (safe_getAddr hc (by decide)).bind fun _ _ hc _ => .pure hc _

namespace QueryServersResponse

/-- The test for the header of a key, which indexes the bytes. -/
def hasKeyChecked (s : Bytes) : Except Fault Bool :=
  if 6 ≤ s.length then do
    let first ← sliceIndex s 0
    if first = 0x7f then
      let last ← sliceIndex s 5
      return last = 8
    else return false
  else return false

/-- The four bytes of the key. -/
def keyChecked (s : Bytes) : Except Fault Bytes := do
  let b₁ ← sliceIndex s 1
  let b₂ ← sliceIndex s 2
  let b₃ ← sliceIndex s 3
  let b₄ ← sliceIndex s 4
  return [b₁, b₂, b₃, b₄]

def decodeChecked (src : Bytes) : Except Fault (Except ProtocolError QueryServersResponse) :=
  Checked.run (do
    (Checked.expect header).lift
    let s ← Checked.rest
    let hasKey ← Checked.check (hasKeyChecked s)
    if hasKey then
      let key ← Checked.check (keyChecked s)
      let inner ← Checked.check (sliceRange s 6 s.length)
      return ⟨inner, some (ofU32Le key)⟩
    else return ⟨s, none⟩) src

/-- The rest of the list is an address with the port zero. -/
def isEndChecked (A : Type) [ServerAddress A] (cur : Cursor) : Except Fault Bool := do
  let n ← wordSub cur.buffer.length cur.pos
  if n = ServerAddress.size A then
    let s ← sliceRange cur.buffer cur.pos cur.buffer.length
    return [0, 0].isSuffixOf s
  else return false

/-- One step of the address iterator. -/
def nextChecked (A : Type) [CheckedAddress A] (cur : Cursor) :
    Except Fault (Option A × Cursor) := do
  if ← isEndChecked A cur then return (none, cur)
  else match ← CheckedAddress.getChecked (A := A) cur with
    | (.ok a, cur) => return (some a, cur)
    | (.error _, cur) => return (none, cur)

theorem exists_six {s : Bytes} (h : 6 ≤ s.length) :
    ∃ a b₁ b₂ b₃ b₄ z t, s = a :: b₁ :: b₂ :: b₃ :: b₄ :: z :: t := by
  match s, h with
  | a :: b₁ :: b₂ :: b₃ :: b₄ :: z :: t, _ => exact ⟨a, b₁, b₂, b₃, b₄, z, t, rfl⟩

theorem hasKeyChecked_eq (s : Bytes) : hasKeyChecked s =
    .ok (decide (s.length ≥ 6 ∧ s[0]? = some 0x7f ∧ s[5]? = some 8)) := by
  unfold hasKeyChecked
  by_cases h : 6 ≤ s.length
  · obtain ⟨a, b₁, b₂, b₃, b₄, z, t, rfl⟩ := exists_six h
    rw [if_pos h]
    show ((if a = 0x7f then _ else _ : Except Fault Bool)) = _
    by_cases ha : a = 0x7f
    · rw [if_pos ha]
      simp [ha, sliceIndex]
    · rw [if_neg ha]
      simp only [List.getElem?_cons_zero, Option.some.injEq, ha, false_and, and_false,
        decide_false]
      rfl
  · rw [if_neg h, decide_eq_false fun hs => h hs.1]
    rfl

theorem keyChecked_eq {s : Bytes} (h : 6 ≤ s.length) :
    keyChecked s = .ok ((s.drop 1).take 4) := by
  obtain ⟨a, b₁, b₂, b₃, b₄, z, t, rfl⟩ := exists_six h
  rfl

theorem decodeChecked_eq (h : src.length < 2 ^ 63) : decodeChecked src = .ok (decode src) := by
  apply Safe.run h
  intro c hc
  refine (Safe.expect hc (by decide)).lift.bind fun _ c hc _ => ?_
  refine (Safe.rest hc).bind fun s c hc _ => ?_
  refine Safe.check (hasKeyChecked_eq s) ?_
  by_cases hkey : s.length ≥ 6 ∧ s[0]? = some 0x7f ∧ s[5]? = some 8
  · rw [if_pos hkey, if_pos (decide_eq_true hkey)]
    refine Safe.check (keyChecked_eq hkey.1) ?_
    refine Safe.check (sliceRange_rest hkey.1) ?_
    exact .pure hc _
  · rw [if_neg hkey, if_neg (fun h => hkey (of_decide_eq_true h))]
    exact .pure hc _

theorem isEndChecked_eq {A : Type} [ServerAddress A] {cur : Cursor} (hc : cur.Fits) :
    isEndChecked A cur =
      .ok (decide (cur.remaining = ServerAddress.size A ∧ [0, 0].isSuffixOf cur.asSlice)) := by
  unfold isEndChecked
  rw [wordSub_ok hc.1, sliceRange_rest hc.1]
  show (if cur.remaining = ServerAddress.size A then _ else _ : Except Fault Bool) = _
  by_cases h : cur.remaining = ServerAddress.size A
  · rw [if_pos h]
    refine congrArg Except.ok ?_
    rw [Bool.eq_iff_iff, decide_eq_true_iff]
    exact ⟨fun hs => ⟨h, hs⟩, fun hs => hs.2⟩
  · rw [if_neg h, decide_eq_false fun hs => h hs.1]
    rfl

theorem nextChecked_eq {A : Type} [CheckedAddress A] {cur : Cursor} (hc : cur.Fits) :
    nextChecked A cur = .ok (next A cur) ∧ (next A cur).2.Fits := by
  unfold nextChecked next
  rw [isEndChecked_eq hc]
  by_cases h : cur.remaining = ServerAddress.size A ∧ [0, 0].isSuffixOf cur.asSlice
  · rw [if_pos h, decide_eq_true h]
    exact ⟨rfl, hc⟩
  · obtain ⟨hget, hfits⟩ := CheckedAddress.safe_get (A := A) hc
    rw [if_neg h, decide_eq_false h]
    show (CheckedAddress.getChecked (A := A) cur >>= _) = _ ∧ _
    rw [hget]
    rcases hr : ServerAddress.get (A := A) cur with ⟨r, cur'⟩
    rw [hr] at hfits
    cases r with
    | ok a => exact ⟨rfl, hfits⟩
    | error e => exact ⟨rfl, hfits⟩

/-- The iterator over the addresses has no faults. -/
theorem calls_nextChecked (A : Type) [CheckedAddress A] {r : QueryServersResponse}
    (h : r.inner.length < 2 ^ 63) (n : ℕ) :
    calls (nextChecked A) n (.new r.inner) = .ok (returned (next A) n (.new r.inner)) :=
  calls_ok (fun _ hcur => nextChecked_eq hcur) (⟨Nat.zero_le _, h⟩ : (Cursor.new r.inner).Fits) n

/-- The bytes of the addresses are in the packet. -/
theorem length_inner_le {r : QueryServersResponse} (h : decode src = .ok r) :
    r.inner.length ≤ src.length := by
  obtain ⟨s, rfl⟩ := List.isPrefixOf_iff_prefix.1 (isPrefixOf_of_run h)
  rw [decode_header] at h
  rw [List.length_append]
  by_cases hkey : LooksLikeKey s
  · rw [if_pos hkey] at h
    cases h
    rw [List.length_drop]
    omega
  · rw [if_neg hkey] at h
    cases h
    exact Nat.le_add_left _ _

end QueryServersResponse

namespace ClientAnnounce

def decodeChecked (parseAddr : Bytes → Option SocketAddr) (src : Bytes) :
    Except Fault (Except ProtocolError ClientAnnounce) :=
  Checked.run (do
    (Checked.expect header).lift
    let n ← Checked.remaining
    let s ← (Checked.getStr n).lift
    match parseAddr s with
    | some addr => do
      Checked.expectEmpty.lift
      return ⟨addr⟩
    | none => Checked.fail .invalidClientAnnounceIp) src

theorem decodeChecked_eq (h : src.length < 2 ^ 63) :
    decodeChecked parseAddr src = .ok (decode parseAddr src) := by
  apply Safe.run h
  intro c hc
  refine (Safe.expect hc (by decide)).lift.bind fun _ c hc _ => ?_
  refine Safe.remaining hc ?_
  refine (Safe.getStr hc hc.length_asSlice_lt).lift.bind fun s c hc _ => ?_
  cases parseAddr s with
  | none => exact .fail hc _
  | some addr =>
    refine (Safe.expectEmpty hc).lift.bind fun _ c hc _ => ?_
    exact .pure hc _

end ClientAnnounce

namespace AdminChallengeResponse

def decodeChecked (src : Bytes) : Except Fault (Except ProtocolError AdminChallengeResponse) :=
  Checked.run (do
    (Checked.expect header).lift
    let masterChallenge ← Checked.getU32Le.lift
    let hashChallenge ← Checked.getU32Le.lift
    Checked.expectEmpty.lift
    return ⟨masterChallenge, hashChallenge⟩) src

theorem decodeChecked_eq (h : src.length < 2 ^ 63) : decodeChecked src = .ok (decode src) := by
  apply Safe.run h
  intro c hc
  refine (Safe.expect hc (by decide)).lift.bind fun _ c hc _ => ?_
  refine (Safe.getU32Le hc).lift.bind fun _ c hc _ => ?_
  refine (Safe.getU32Le hc).lift.bind fun _ c hc _ => ?_
  refine (Safe.expectEmpty hc).lift.bind fun _ c hc _ => ?_
  exact .pure hc _

end AdminChallengeResponse

def MasterPacket.decodeChecked (parseAddr : Bytes → Option SocketAddr) (src : Bytes) :
    Except Fault (Except ProtocolError (Option MasterPacket)) :=
  if ChallengeResponse.header.isPrefixOf src then
    packetOf challengeResponse (ChallengeResponse.decodeChecked src)
  else if QueryServersResponse.header.isPrefixOf src then
    packetOf queryServersResponse (QueryServersResponse.decodeChecked src)
  else if ClientAnnounce.header.isPrefixOf src then
    packetOf clientAnnounce (ClientAnnounce.decodeChecked parseAddr src)
  else if AdminChallengeResponse.header.isPrefixOf src then
    packetOf adminChallengeResponse (AdminChallengeResponse.decodeChecked src)
  else .ok (.ok none)

theorem MasterPacket.decodeChecked_eq (h : src.length < 2 ^ 63) :
    MasterPacket.decodeChecked parseAddr src = .ok (MasterPacket.decode parseAddr src) := by
  unfold MasterPacket.decodeChecked MasterPacket.decode
  rw [ChallengeResponse.decodeChecked_eq h, QueryServersResponse.decodeChecked_eq h,
    ClientAnnounce.decodeChecked_eq h, AdminChallengeResponse.decodeChecked_eq h]
  split_ifs
  all_goals rfl

/-! ## Admin packets -/

namespace AdminCommand

def decodeWithHashLenChecked (hashLen : ℕ) (src : Bytes) :
    Except Fault (Except ProtocolError AdminCommand) :=
  Checked.run (do
    (Checked.expect header).lift
    let masterChallenge ← Checked.getU32Le.lift
    let hash ← (Checked.getBytes hashLen).lift
    let n ← Checked.remaining
    let command ← (Checked.getStr n).lift
    Checked.expectEmpty.lift
    return ⟨masterChallenge, hash, command⟩) src

theorem decodeWithHashLenChecked_eq {hashLen : ℕ} (hhash : hashLen < 2 ^ 63)
    (h : src.length < 2 ^ 63) :
    decodeWithHashLenChecked hashLen src = .ok (decodeWithHashLen hashLen src) := by
  apply Safe.run h
  intro c hc
  refine (Safe.expect hc (by decide)).lift.bind fun _ c hc _ => ?_
  refine (Safe.getU32Le hc).lift.bind fun _ c hc _ => ?_
  refine (Safe.getBytes hc hhash).lift.bind fun _ c hc _ => ?_
  refine Safe.remaining hc ?_
  refine (Safe.getStr hc hc.length_asSlice_lt).lift.bind fun _ c hc _ => ?_
  refine (Safe.expectEmpty hc).lift.bind fun _ c hc _ => ?_
  exact .pure hc _

end AdminCommand

/-- The request for a challenge is compared as a whole, so it has no reads. -/
def AdminPacket.decodeChecked (hashLen : ℕ) (src : Bytes) :
    Except Fault (Except ProtocolError (Option AdminPacket)) :=
  if AdminChallenge.header.isPrefixOf src then
    packetOf (fun _ => adminChallenge) (.ok (AdminChallenge.decode src))
  else if AdminCommand.header.isPrefixOf src then
    packetOf adminCommand (AdminCommand.decodeWithHashLenChecked hashLen src)
  else .ok (.ok none)

theorem AdminPacket.decodeChecked_eq {hashLen : ℕ} (hhash : hashLen < 2 ^ 63)
    (h : src.length < 2 ^ 63) :
    AdminPacket.decodeChecked hashLen src = .ok (AdminPacket.decode hashLen src) := by
  unfold AdminPacket.decodeChecked AdminPacket.decode
  rw [AdminCommand.decodeWithHashLenChecked_eq hhash h]
  split_ifs
  all_goals rfl

end Xash3d
