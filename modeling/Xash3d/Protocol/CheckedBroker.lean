import Xash3d.Protocol.Checked
import Xash3d.Protocol.Net.Broker

/-!
# Broker packets with their checks

A `Frame` has a header and a length in front of its payload, so the payload is a part of its bytes.
The arguments of a command are read up to spaces, the last one up to the end.
-/

namespace Xash3d.Broker

open Lib

variable {src : Bytes} {parseAddr : Bytes → Option SocketAddr} {c : Cursor}

/-! ## Arguments -/

namespace Args

/-- The next argument, where the cursor is before it or at the end. -/
def argument : Checked CursorError (Option Bytes) := do
  let i ← (Checked.takeWhile (fun b => b != 32)).attempt
  match i with
  | .ok i => return some i
  | .error (_ : CursorError) => do
    let tail ← Checked.getTail
    return some tail

def tryNextChecked : Checked CursorError (Option Bytes) := do
  let _ ← (Checked.takeWhile (fun b => b == 32)).attempt
  let more ← Checked.hasRemaining
  if more then argument else return none

def nextChecked : Checked CursorError Bytes := do
  match ← tryNextChecked with
  | some s => return s
  | none => Checked.fail .expect

def parseNextChecked {T : Type} (parse : Bytes → Option T) : Checked CursorError T := do
  let s ← nextChecked
  if isUtf8 s then
    match parse s with
    | some v => return v
    | none => Checked.fail .invalidString
  else Checked.fail .invalidString

theorem safe_argument (hc : c.Fits) : Safe argument (fun c =>
    match Cursor.takeWhile (fun b => b != 32) c with
    | (.ok i, c) => (.ok (some i), c)
    | (.error _, c) => (some <$> Cursor.getTail) c) c := by
  obtain ⟨hok, hfits⟩ := Safe.takeWhile hc (fun b => b != 32)
  rcases htake : Cursor.takeWhile (fun b => b != 32) c with ⟨r, c'⟩
  rw [htake] at hok hfits
  unfold argument Safe
  rw [Checked.bind_apply, Checked.attempt, hok]
  cases r with
  | ok i =>
    simp only [htake]
    exact ⟨rfl, hfits⟩
  | error e =>
    simp only [htake]
    exact (Safe.getTail hfits).bind fun tail _ hc _ => .pure hc (some tail)

theorem safe_tryNext (hc : c.Fits) : Safe tryNextChecked tryNext c := by
  obtain ⟨hok, hfits⟩ := Safe.takeWhile hc (fun b => b == 32)
  unfold tryNextChecked tryNext Safe
  rw [Checked.bind_apply, Checked.attempt, hok]
  have hargument := safe_argument hfits
  by_cases hmore : (Cursor.takeWhile (fun b => b == 32) c).2.hasRemaining = true
  · simp only [Except.map, Checked.bind_apply, Checked.hasRemaining, hmore, if_true]
    exact hargument
  · simp only [Except.map, Checked.bind_apply, Checked.hasRemaining, hmore]
    exact ⟨rfl, hfits⟩

theorem safe_next (hc : c.Fits) : Safe nextChecked next c := by
  refine (safe_tryNext hc).bind fun s c hc _ => ?_
  cases s with
  | none => exact .fail hc _
  | some s => exact .pure hc _

theorem safe_parseNext (hc : c.Fits) {T : Type} (parse : Bytes → Option T) :
    Safe (parseNextChecked parse) (parseNext parse) c := by
  refine (safe_next hc).bind fun s c hc _ => ?_
  refine Safe.ite (fun _ => ?_) fun _ => .fail hc _
  cases parse s with
  | none => exact .fail hc _
  | some v => exact .pure hc _

end Args

/-! ## Frames -/

namespace Frame

def payloadChecked (f : Frame) : Except Fault Bytes := sliceRange f.data fixedSize f.data.length

def posChecked : Checked CursorError ℕ := fun cur => .ok (.ok cur.pos, cur)

def decodeLenChecked : Checked CursorError ℕ := do
  Checked.expect header
  let payloadLen ← Checked.getU16Le
  let _ ← Checked.getBytes payloadLen.toNat
  posChecked

/-- The bytes of the frame at the front of a packet. -/
def decodeBytesChecked (src : Bytes) : Except Fault (Except CursorError Bytes) :=
  if src.length < fixedSize then do
    let need ← wordSub fixedSize src.length
    return .error (.needMoreBytes need)
  else do
    match ← decodeLenChecked.run src with
    | .ok len => do
      let data ← sliceRange src 0 len
      return .ok data
    | .error e => return .error e

/-- The command of a frame, followed by its arguments. -/
def expectCommandChecked (expect : Bytes) : Checked CursorError Unit := do
  let name ← Args.nextChecked
  if name = expect then return () else Checked.fail .expect

def expectCommandNoArgsChecked (expect : Bytes) : Checked CursorError Unit := do
  expectCommandChecked expect
  Checked.expectEmpty

/-- A frame is at least as long as its header. -/
theorem payloadChecked_eq (f : Frame) : f.payloadChecked = .ok f.payload := by
  apply sliceRange_rest
  rw [f.data_eq, length_wire, fixedSize_eq]
  exact Nat.le_add_right _ _

theorem decodeLenChecked_eq (h : src.length < 2 ^ 63) :
    decodeLenChecked.run src = .ok (decodeLen.run src) := by
  apply Safe.run h
  intro c hc
  refine (Safe.expect hc (by decide)).bind fun _ c hc _ => ?_
  refine (Safe.getU16Le hc).bind fun v c hc _ => ?_
  have hv : v.toNat < 2 ^ 63 := v.toNat_lt.trans (by decide)
  refine (Safe.getBytes hc hv).bind fun _ c hc _ => ?_
  exact ⟨rfl, hc⟩

/-- The frame ends in the packet. -/
theorem decodeLen_le {len : ℕ} (hsrc : 6 ≤ src.length) (h : decodeLen.run src = .ok len) :
    len ≤ src.length := by
  rcases split_cases hsrc with ⟨v, t, rfl⟩ | hp
  · rw [decodeLen_after] at h
    by_cases hle : v.toNat ≤ t.length
    · rw [if_pos hle] at h
      cases h
      simp only [List.length_append, length_header, length_u16Le]
      omega
    · rw [if_neg hle] at h
      cases h
  · have hbad := decodeBytes_bad hsrc hp
    unfold decodeBytes at hbad
    rw [fixedSize_eq, if_neg (not_lt.2 hsrc), h] at hbad
    cases hbad

theorem decodeBytesChecked_eq (h : src.length < 2 ^ 63) :
    decodeBytesChecked src = .ok (decodeBytes src) := by
  unfold decodeBytesChecked decodeBytes
  by_cases hshort : src.length < fixedSize
  · rw [if_pos hshort, if_pos hshort, wordSub_ok hshort.le]
    rfl
  · rw [if_neg hshort, if_neg hshort, decodeLenChecked_eq h]
    cases hlen : decodeLen.run src with
    | error e => rfl
    | ok len =>
      rw [fixedSize_eq] at hshort
      have hle := decodeLen_le (not_lt.1 hshort) hlen
      show (sliceRange src 0 len >>= fun data => _) = _
      rw [sliceRange_ok (Nat.zero_le _) hle]
      rfl

theorem map_decode (src : Bytes) : (decode src).map data = decodeBytes src := by
  cases h : decode src with
  | ok f => exact (decode_eq_ok.1 h).symm
  | error e => exact (decode_eq_error.1 h).symm

/-- A payload is read from its start. -/
theorem run_payload {ε α : Type} {m : Checked ε α} {m' : Read ε α} (f : Frame)
    (hm : ∀ c, c.Fits → Safe m m' c) :
    (f.payloadChecked >>= m.run) = .ok (m'.run f.payload) := by
  rw [payloadChecked_eq]
  exact Safe.run (f.length_payload_lt.trans (by decide)) hm

theorem safe_expectCommand (hc : c.Fits) (expect : Bytes) :
    Safe (expectCommandChecked expect) (expectCommand expect) c := by
  refine (Args.safe_next hc).bind fun name c hc _ => ?_
  exact Safe.ite (fun _ => .pure hc _) fun _ => .fail hc _

theorem safe_expectCommandNoArgs (hc : c.Fits) (expect : Bytes) :
    Safe (expectCommandNoArgsChecked expect) (expectCommandNoArgs expect) c :=
  (safe_expectCommand hc expect).bind fun _ _ hc _ => Safe.expectEmpty hc

end Frame

/-! ## Messages of a client -/

namespace Gamedir

def decodeChecked (frame : Frame) : Except Fault (Except ProtocolError Gamedir) :=
  frame.payloadChecked >>= Checked.run (do
    (Frame.expectCommandChecked header).lift
    let gamedir ← Args.nextChecked.lift
    Checked.expectEmpty.lift
    return ⟨gamedir⟩)

theorem decodeChecked_eq (frame : Frame) : decodeChecked frame = .ok (decode frame) := by
  apply Frame.run_payload
  intro c hc
  refine (Frame.safe_expectCommand hc header).lift.bind fun _ c hc _ => ?_
  refine (Args.safe_next hc).lift.bind fun gamedir c hc _ => ?_
  refine (Safe.expectEmpty hc).lift.bind fun _ c hc _ => ?_
  exact .pure hc _

end Gamedir

namespace Connect

def decodeChecked (parseAddr : Bytes → Option SocketAddr) (frame : Frame) :
    Except Fault (Except ProtocolError Connect) :=
  frame.payloadChecked >>= Checked.run (do
    (Frame.expectCommandChecked header).lift
    let serverAddress ← (Args.parseNextChecked parseAddr).lift
    let serverSteamId ← (Args.parseNextChecked parseU64).lift
    let s ← Args.nextChecked.lift
    let secure ← Checked.lift <|
      if s = ascii "0" then pure false
      else if s = ascii "1" then pure true
      else Checked.fail .invalidBool
    let challenge ← (Args.parseNextChecked parseU32).lift
    Checked.expectEmpty.lift
    return ⟨serverAddress, serverSteamId, challenge, secure⟩)

theorem safe_secure (hc : c.Fits) (s : Bytes) :
    Safe (if s = ascii "0" then pure false else if s = ascii "1" then pure true
        else Checked.fail CursorError.invalidBool)
      (if s = ascii "0" then pure false else if s = ascii "1" then pure true
        else Read.fail .invalidBool) c := by
  refine Safe.ite (fun _ => .pure hc _) fun _ => ?_
  exact Safe.ite (fun _ => .pure hc _) fun _ => .fail hc _

theorem decodeChecked_eq (frame : Frame) :
    decodeChecked parseAddr frame = .ok (decode parseAddr frame) := by
  apply Frame.run_payload
  intro c hc
  refine (Frame.safe_expectCommand hc header).lift.bind fun _ c hc _ => ?_
  refine (Args.safe_parseNext hc parseAddr).lift.bind fun serverAddress c hc _ => ?_
  refine (Args.safe_parseNext hc parseU64).lift.bind fun serverSteamId c hc _ => ?_
  refine (Args.safe_next hc).lift.bind fun s c hc _ => ?_
  refine (safe_secure hc s).lift.bind fun secure c hc _ => ?_
  refine (Args.safe_parseNext hc parseU32).lift.bind fun challenge c hc _ => ?_
  refine (Safe.expectEmpty hc).lift.bind fun _ c hc _ => ?_
  exact .pure hc _

end Connect

namespace Disconnect

def decodeChecked (parseAddr : Bytes → Option SocketAddr) (frame : Frame) :
    Except Fault (Except ProtocolError Disconnect) :=
  frame.payloadChecked >>= Checked.run (do
    (Frame.expectCommandChecked header).lift
    let serverAddress ← (Args.parseNextChecked parseAddr).lift
    let challenge ← (Args.parseNextChecked parseU32).lift
    Checked.expectEmpty.lift
    return ⟨serverAddress, challenge⟩)

theorem decodeChecked_eq (frame : Frame) :
    decodeChecked parseAddr frame = .ok (decode parseAddr frame) := by
  apply Frame.run_payload
  intro c hc
  refine (Frame.safe_expectCommand hc header).lift.bind fun _ c hc _ => ?_
  refine (Args.safe_parseNext hc parseAddr).lift.bind fun serverAddress c hc _ => ?_
  refine (Args.safe_parseNext hc parseU32).lift.bind fun challenge c hc _ => ?_
  refine (Safe.expectEmpty hc).lift.bind fun _ c hc _ => ?_
  exact .pure hc _

end Disconnect

namespace Terminate

def decodeChecked (frame : Frame) : Except Fault (Except ProtocolError Terminate) :=
  frame.payloadChecked >>= Checked.run (do
    (Frame.expectCommandNoArgsChecked header).lift
    return ⟨⟩)

theorem decodeChecked_eq (frame : Frame) : decodeChecked frame = .ok (decode frame) := by
  apply Frame.run_payload
  intro c hc
  refine (Frame.safe_expectCommandNoArgs hc header).lift.bind fun _ c hc _ => ?_
  exact .pure hc _

end Terminate

/-- A decoded message as one of a kind. -/
def messageOf {M P : Type} (f : M → P) (r : Except Fault (Except ProtocolError M)) :
    Except Fault (Except ProtocolError P) := r.map fun x => x.map f

def ClientPacket.decodeChecked (parseAddr : Bytes → Option SocketAddr) (frame : Frame) :
    Except Fault (Except ProtocolError ClientPacket) := do
  let s ← frame.payloadChecked
  match dispatch s with
  | some .gamedir => messageOf gamedir (Gamedir.decodeChecked frame)
  | some .connect => messageOf connect (Connect.decodeChecked parseAddr frame)
  | some .disconnect => messageOf disconnect (Disconnect.decodeChecked parseAddr frame)
  | some .terminate => messageOf terminate (Terminate.decodeChecked frame)
  | none => return .error .invalidPacket

theorem ClientPacket.decodeChecked_eq (frame : Frame) :
    ClientPacket.decodeChecked parseAddr frame = .ok (ClientPacket.decode parseAddr frame) := by
  unfold ClientPacket.decodeChecked ClientPacket.decode
  rw [Frame.payloadChecked_eq, Gamedir.decodeChecked_eq, Connect.decodeChecked_eq,
    Disconnect.decodeChecked_eq, Terminate.decodeChecked_eq]
  simp only [bind, Except.bind]
  rcases dispatch frame.payload with _ | (_ | _ | _ | _)
  all_goals rfl

/-! ## Messages of the broker -/

namespace ConnectResponse

def decodeChecked (frame : Frame) : Except Fault (Except ProtocolError ConnectResponse) :=
  frame.payloadChecked >>= Checked.run (do
    (Checked.expect header).lift
    let challenge ← Checked.getU32Le.lift
    let clientSteamId ← Checked.getU64Le.lift
    let len ← Checked.getU32Le.lift
    let ticket ← (Checked.getBytes len.toNat).lift
    Checked.expectEmpty.lift
    return ⟨clientSteamId, ticket, challenge⟩)

theorem decodeChecked_eq (frame : Frame) : decodeChecked frame = .ok (decode frame) := by
  apply Frame.run_payload
  intro c hc
  refine (Safe.expect hc (by decide)).lift.bind fun _ c hc _ => ?_
  refine (Safe.getU32Le hc).lift.bind fun challenge c hc _ => ?_
  refine (Safe.getU64Le hc).lift.bind fun clientSteamId c hc _ => ?_
  refine (Safe.getU32Le hc).lift.bind fun len c hc _ => ?_
  have hlen : len.toNat < 2 ^ 63 := len.toNat_lt.trans (by decide)
  refine (Safe.getBytes hc hlen).lift.bind fun ticket c hc _ => ?_
  refine (Safe.expectEmpty hc).lift.bind fun _ c hc _ => ?_
  exact .pure hc _

end ConnectResponse

def ServerPacket.decodeChecked (frame : Frame) :
    Except Fault (Except ProtocolError ServerPacket) := do
  let s ← frame.payloadChecked
  if ConnectResponse.header.isPrefixOf s then
    messageOf connectResponse (ConnectResponse.decodeChecked frame)
  else return .error .invalidPacket

theorem ServerPacket.decodeChecked_eq (frame : Frame) :
    ServerPacket.decodeChecked frame = .ok (ServerPacket.decode frame) := by
  unfold ServerPacket.decodeChecked ServerPacket.decode
  rw [Frame.payloadChecked_eq, ConnectResponse.decodeChecked_eq]
  show (if ConnectResponse.header.isPrefixOf frame.payload = true then _ else _) = _
  split_ifs
  all_goals rfl

end Xash3d.Broker
