import Xash3d.Protocol.InfoRoundTrip
import Xash3d.Protocol.Net.Admin
import Xash3d.Protocol.Net.Game
import Xash3d.Protocol.Players

/-!
# Buffers that just fit

An encoder that appends its bytes one write after another succeeds exactly on the buffers that hold
them. `GetServerInfo2Response` leaves out a byte before it knows that the byte is needed, and so
wants one byte more where there is no extra data: `buffer_fits_iff`.
-/

namespace Xash3d

open Lib

/-! ## The encoders left -/

namespace Challenge

open CursorMut in
def encode (cap : ℕ) (r : Challenge) : Except ProtocolError Bytes :=
  encodeTo cap <|
    putBytes header >=>
    match r.serverChallenge with
    | some serverChallenge => putU32Le serverChallenge
    | none => .ok

end Challenge

namespace ServerRemove

def encode (cap : ℕ) (_ : ServerRemove) : Except ProtocolError Bytes :=
  encodeTo cap (CursorMut.putBytes header)

end ServerRemove

namespace GetChallengeResponse

open CursorMut in
def encode (cap : ℕ) (r : GetChallengeResponse) : Except ProtocolError Bytes :=
  encodeTo cap (putBytes header >=> putU32Le r.challenge)

end GetChallengeResponse

/-- The messages that game servers, game clients and admins encode; the filter of a query is any
type that can be printed. -/
inductive Message (T : Type) where
  | challenge (r : Challenge)
  | serverAdd (r : ServerAdd)
  | serverRemove (r : ServerRemove)
  | getServerInfoResponse (r : GetServerInfoResponse)
  | getChallengeResponse (r : GetChallengeResponse)
  | getServerInfo2Response (r : GetServerInfo2Response)
  | getServerInfo2ResponseOld (r : GetServerInfo2ResponseOld)
  | getPlayersResponse (players : List PlayerInfo)
  | queryServers (q : QueryServers T)
  | getServerInfo (r : GetServerInfo)
  | getServerInfo2 (r : GetServerInfo2)
  | getPlayers (r : GetPlayers)
  | getChallenge (r : GetChallenge)
  | adminChallenge (m : AdminChallenge)
  | adminCommand (m : AdminCommand)

namespace Message

variable {T : Type}

/-- Encode a message; only the player list can panic. -/
def encode (display : T → List Bytes) (cap : ℕ) : Message T → Except PutPlayersError Bytes
  | challenge r => (r.encode cap).mapError .error
  | serverAdd r => (r.encode cap).mapError .error
  | serverRemove r => (r.encode cap).mapError .error
  | getServerInfoResponse r => (r.encode cap).mapError .error
  | getChallengeResponse r => (r.encode cap).mapError .error
  | getServerInfo2Response r => (r.encode cap).mapError .error
  | getServerInfo2ResponseOld r => (r.encode cap).mapError .error
  | getPlayersResponse players => GetPlayersResponse.encode cap players
  | queryServers q => (QueryServers.encodeWith display cap q).mapError .error
  | getServerInfo r => (r.encode cap).mapError .error
  | getServerInfo2 r => (r.encode cap).mapError .error
  | getPlayers r => (r.encode cap).mapError .error
  | getChallenge r => (r.encode cap).mapError .error
  | adminChallenge m => (m.encode cap).mapError .error
  | adminCommand m => (m.encode cap).mapError .error

end Message

/-! ## Exact buffers -/

/-- What the encoder gives on some buffer, it gives on every buffer that holds it, and on no
other. -/
def ExactBuffer (encode : ℕ → Except PutPlayersError Bytes) : Prop :=
  ∀ cap out, encode cap = .ok out → ∀ cap', encode cap' =
    if out.length ≤ cap' then .ok out else .error (.error (.cursorError .bufferOverflow))

theorem exactBuffer_of_eq {encode : ℕ → Except PutPlayersError Bytes} {s : Bytes}
    (h : ∀ cap, encode cap = if s.length ≤ cap then .ok s
      else .error (.error (.cursorError .bufferOverflow))) : ExactBuffer encode := by
  intro cap out hout
  rw [h cap] at hout
  by_cases hcap : s.length ≤ cap
  · rw [if_pos hcap] at hout
    cases hout
    exact h
  · rw [if_neg hcap] at hout
    cases hout

/-- An encoder that does not panic. -/
theorem exactBuffer_mapError {encode : ℕ → Except ProtocolError Bytes} {s : Bytes}
    (h : ∀ cap, encode cap = if s.length ≤ cap then .ok s
      else .error (.cursorError .bufferOverflow)) :
    ExactBuffer fun cap => (encode cap).mapError .error := by
  apply exactBuffer_of_eq (s := s)
  intro cap
  rw [h cap]
  split_ifs
  · rfl
  · rfl

theorem exactBuffer_writes {p : Put} {s : Bytes} (h : Writes p s) :
    ExactBuffer fun cap => (encodeTo cap p).mapError .error :=
  exactBuffer_mapError h.run

/-- A list that is too long is never encoded. -/
theorem exactBuffer_players (players : List PlayerInfo) :
    ExactBuffer fun cap => GetPlayersResponse.encode cap players := by
  by_cases hlen : players.length ≤ 255
  · exact exactBuffer_of_eq (GetPlayersResponse.encode_eq hlen)
  · intro cap out hout
    exact absurd (GetPlayersResponse.length_of_encode hout) hlen

namespace GetServerInfo2Response

variable {r : GetServerInfo2Response}

/-- There is some data behind the version. -/
def HasExtra (r : GetServerInfo2Response) : Prop :=
  r.port.isSome = true ∨ r.steamId.isSome = true ∨ r.sourceTv.isSome = true ∨
    r.keywords.isSome = true ∨ 2 ^ 16 ≤ r.appId.toNat

instance : DecidablePred HasExtra := fun _ => inferInstanceAs (Decidable (_ ∨ _))

theorem longAppId_isSome (r : GetServerInfo2Response) :
    r.longAppId.isSome = true ↔ 2 ^ 16 ≤ r.appId.toNat := by
  unfold longAppId
  split_ifs with h
  · exact iff_of_false Bool.false_ne_true (not_le.2 h)
  · exact iff_of_true rfl (not_lt.1 h)

theorem hasExtra_iff : r.HasExtra ↔ ¬ r.extraFlags.isEmpty = true := by
  rw [HasExtra, ← longAppId_isSome]
  constructor
  · intro h hempty
    obtain ⟨hport, hsteamId, hsourceTv, hkeywords, happId⟩ := isSome_of_isEmpty hempty
    rw [hport, hsteamId, hsourceTv, hkeywords, happId] at h
    simp at h
  · intro h
    by_contra hnone
    simp only [not_or, Bool.not_eq_true] at hnone
    obtain ⟨hport, hsteamId, hsourceTv, hkeywords, happId⟩ := hnone
    refine h (Flags.isEmpty_iff.2 fun i => ?_)
    rw [has_extraFlags, hport, hsteamId, hsourceTv, hkeywords, happId]
    simp

theorem exactBuffer_iff :
    (ExactBuffer fun cap => (r.encode cap).mapError .error) ↔ r.HasExtra := by
  rw [hasExtra_iff]
  by_cases hempty : r.extraFlags.isEmpty = true
  · refine iff_of_false ?_ (not_not_intro hempty)
    intro h
    have hwire : r.wire = r.wireWith [] := by rw [wire, if_pos hempty]
    have hlen : r.wire.length + 1 = (r.wireWith []).length + 1 + r.extras.length := by
      rw [hwire, extras_eq_nil hempty]
      rfl
    -- the byte that was left out is the one that is missing
    have hok : (r.encode (r.wire.length + 1)).mapError PutPlayersError.error = .ok r.wire := by
      rw [encode_eq, if_pos hlen.ge]
      rfl
    have hfits : (r.encode r.wire.length).mapError PutPlayersError.error = .ok r.wire :=
      (h _ _ hok _).trans (if_pos le_rfl)
    rw [encode_eq, if_neg (by omega)] at hfits
    cases hfits
  · refine iff_of_true ?_ hempty
    have hwire : r.wire.length = (r.wireWith []).length + 1 + r.extras.length := by
      rw [wire, if_neg hempty, ← wireWith_append, List.length_append, List.length_cons]
      omega
    apply exactBuffer_mapError (s := r.wire)
    intro cap
    rw [encode_eq, hwire]

end GetServerInfo2Response

theorem Challenge.exactBuffer (r : Challenge) :
    ExactBuffer fun cap => (r.encode cap).mapError .error := by
  obtain ⟨_ | serverChallenge⟩ := r
  · exact exactBuffer_writes ((Writes.putBytes _).seq (Writes.putAsStr []))
  · exact exactBuffer_writes ((Writes.putBytes _).seq (Writes.putU32Le serverChallenge))

theorem GetServerInfo2.exactBuffer (r : GetServerInfo2) :
    ExactBuffer fun cap => (r.encode cap).mapError .error := by
  obtain ⟨_ | challenge⟩ := r
  · exact exactBuffer_writes ((Writes.putBytes _).seq (Writes.putAsStr []))
  · exact exactBuffer_writes ((Writes.putBytes _).seq (Writes.putU32Le challenge))

theorem QueryServers.exactBuffer {T : Type} (display : T → List Bytes) (q : QueryServers T) :
    ExactBuffer fun cap => (q.encodeWith display cap).mapError .error :=
  exactBuffer_writes ((Writes.putBytes _).seq ((Writes.putU8 _).seq ((Writes.putAsStr _).seq
    ((Writes.putU8 0).seq ((Writes.putAsStr _).seq (Writes.putU8 0))))))

theorem AdminCommand.exactBuffer (m : AdminCommand) :
    ExactBuffer fun cap => (m.encode cap).mapError .error :=
  exactBuffer_writes ((Writes.putBytes _).seq ((Writes.putU32Le _).seq
    ((Writes.putBytes _).seq (Writes.putBytes _))))

/-- If the message leaves out a byte, it needs the byte. -/
def Message.Needed {T : Type} : Message T → Prop
  | getServerInfo2Response r => r.HasExtra
  | _ => True

/-- A buffer that can hold the packet is enough exactly where no byte is left out for nothing. -/
theorem buffer_fits_iff {T : Type} (display : T → List Bytes) (m : Message T) :
    ExactBuffer (fun cap => m.encode display cap) ↔ m.Needed := by
  cases m with
  | getServerInfo2Response r => exact GetServerInfo2Response.exactBuffer_iff
  | challenge r => exact iff_of_true r.exactBuffer trivial
  | serverAdd r => exact iff_of_true (exactBuffer_mapError r.encode_eq) trivial
  | serverRemove r => exact iff_of_true (exactBuffer_writes (Writes.putBytes _)) trivial
  | getServerInfoResponse r => exact iff_of_true (exactBuffer_mapError r.encode_eq) trivial
  | getChallengeResponse r =>
    exact iff_of_true (exactBuffer_writes ((Writes.putBytes _).seq (Writes.putU32Le _))) trivial
  | getServerInfo2ResponseOld r => exact iff_of_true (exactBuffer_mapError r.encode_eq) trivial
  | getPlayersResponse players => exact iff_of_true (exactBuffer_players players) trivial
  | queryServers q => exact iff_of_true (q.exactBuffer display) trivial
  | getServerInfo r =>
    exact iff_of_true (exactBuffer_writes ((Writes.putBytes _).seq (Writes.putAsStr _))) trivial
  | getServerInfo2 r => exact iff_of_true r.exactBuffer trivial
  | getPlayers r =>
    exact iff_of_true (exactBuffer_writes ((Writes.putBytes _).seq (Writes.putU32Le _))) trivial
  | getChallenge r => exact iff_of_true (exactBuffer_writes (Writes.putBytes _)) trivial
  | adminChallenge m => exact iff_of_true (exactBuffer_writes (Writes.putBytes _)) trivial
  | adminCommand m => exact iff_of_true m.exactBuffer trivial

/-- A reply without extra data does not fit where its bytes do. -/
theorem buffer_one_short : ¬ ∀ (T : Type) (display : T → List Bytes) (m : Message T),
    ExactBuffer fun cap => m.encode display cap := by
  intro h
  have hexact := h Filter Filter.display (.getServerInfo2Response
    { protocol := 17, host := ascii "test", map := ascii "crossfire", gamedir := ascii "valve",
      game := ascii "Half-Life", appId := 70, players := 4, maxPlayers := 32, bots := 0,
      ty := .dedicated, os := .linux, password := false, secure := true,
      version := ascii "1.1.2.2/Stdio", port := none, steamId := none, sourceTv := none,
      keywords := none })
  rcases GetServerInfo2Response.exactBuffer_iff.1 hexact with h | h | h | h | h <;>
    exact absurd h (by decide)

end Xash3d
