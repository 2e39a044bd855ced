import Xash3d.Protocol.SocketAddr
import Xash3d.Protocol.Text

/-!
# Steam API broker packets

A `Frame` is a payload with a header and its length. The messages of a client are text, split into
arguments at spaces; the response of the broker is binary.

* `Frame.decode_wire`, `Frame.decode_eq_ok`: what `Frame.decode` accepts.
* `Frame.encode_eq_ok`: what `Frame.encode` returns.
-/

namespace Xash3d.Broker

open Lib CursorMut

/-! ## Arguments -/

/-! The arguments of a command are what a cursor has not read yet. -/
namespace Args

/-- The next argument, after leading spaces. -/
def tryNext : Read CursorError (Option Bytes) := fun c =>
  let c := (Cursor.takeWhile (fun b => b == 32) c).2
  if c.hasRemaining then
    match Cursor.takeWhile (fun b => b != 32) c with
    | (.ok i, c) => (.ok (some i), c)
    | (.error _, c) => (some <$> Cursor.getTail) c
  else (.ok none, c)

def next : Read CursorError Bytes := do
  match ← tryNext with
  | some s => return s
  | none => Read.fail .expect

/-- The next argument, which must be UTF-8, parsed. -/
def parseNext {T : Type} (parse : Bytes → Option T) : Read CursorError T := do
  let s ← next
  if isUtf8 s then
    match parse s with
    | some v => return v
    | none => Read.fail .invalidString
  else Read.fail .invalidString

end Args

/-! ## Frames -/

namespace Frame

def header : Bytes := ascii "SBRK"

def fixedSize : ℕ := header.length + 2

/-- The bytes of a frame. -/
def wire (payload : Bytes) : Bytes :=
  header ++ (u16Le (UInt16.ofNat payload.length) ++ payload)

/-- A header, the length of the payload, and the payload. -/
def IsFramed (data : Bytes) : Prop := ∃ payload, payload.length < 2 ^ 16 ∧ data = wire payload

end Frame

/-- A complete frame. -/
@[ext]
structure Frame where
  data : Bytes
  framed : Frame.IsFramed data

/-- A write that keeps what the buffer has. -/
def Appends (p : Put) : Prop := ∀ c c', p c = .ok c' → ∃ s, putBytes s c = .ok c'

/-- What is put into a frame. -/
structure Payload where
  put : Put
  appends : Appends put

namespace Frame

variable {s t data src : Bytes} {cap : ℕ}

@[simp] theorem length_header : header.length = 4 := by decide

@[simp] theorem fixedSize_eq : fixedSize = 6 := by decide

@[simp] theorem length_wire (s : Bytes) : (wire s).length = 6 + s.length := by
  simp only [wire, List.length_append, length_header, length_u16Le]
  omega

/-- The payload of a frame. -/
def payload (f : Frame) : Bytes := f.data.drop fixedSize

theorem drop_wire (s : Bytes) : (wire s).drop fixedSize = s := by
  have hlen : fixedSize = (header ++ u16Le (UInt16.ofNat s.length)).length := by simp
  rw [wire, ← List.append_assoc, hlen, List.drop_left]

theorem data_eq (f : Frame) : f.data = wire f.payload := by
  obtain ⟨s, -, h⟩ := f.framed
  rw [payload, h, drop_wire]

theorem length_payload_lt (f : Frame) : f.payload.length < 2 ^ 16 := by
  obtain ⟨s, hs, h⟩ := f.framed
  rwa [payload, h, drop_wire]

/-- The frame of a payload. -/
def ofPayload (s : Bytes) (hs : s.length < 2 ^ 16) : Frame := ⟨wire s, s, hs, rfl⟩

@[simp] theorem payload_ofPayload (hs : s.length < 2 ^ 16) : (ofPayload s hs).payload = s :=
  drop_wire s

/-! ### Decoding -/

/-- The position of the cursor. -/
def pos : Read CursorError ℕ := fun cur => (.ok cur.pos, cur)

/-- The length of the frame at the front of a packet. -/
def decodeLen : Read CursorError ℕ := do
  Cursor.expect header
  let payloadLen ← Cursor.getU16Le
  let _ ← Cursor.getBytes payloadLen.toNat
  pos

/-- The bytes of the frame at the front of a packet. -/
def decodeBytes (src : Bytes) : Except CursorError Bytes :=
  if src.length < fixedSize then .error (.needMoreBytes (fixedSize - src.length))
  else (decodeLen.run src).map fun len => src.take len

/-- Six bytes are the header with a length, or they do not start with the header. -/
theorem split_cases (h : 6 ≤ src.length) :
    (∃ v t, src = header ++ (u16Le v ++ t)) ∨ ¬ header.isPrefixOf src = true := by
  by_cases hp : header.isPrefixOf src = true
  · left
    obtain ⟨r, rfl⟩ := List.isPrefixOf_iff_prefix.1 hp
    have hr : 2 ≤ r.length := by
      rw [List.length_append, length_header] at h
      omega
    refine ⟨ofU16Le (r.take 2), r.drop 2, ?_⟩
    rw [u16Le_ofU16Le (by simp; omega), List.take_append_drop]
  · exact Or.inr hp

theorem decodeLen_after (v : UInt16) (t : Bytes) :
    decodeLen.run (header ++ (u16Le v ++ t)) =
      if v.toNat ≤ t.length then .ok (6 + v.toNat)
      else .error (.needMoreBytes (v.toNat - t.length)) := by
  have hpos : ([] ++ header ++ u16Le v).length = 6 := by simp
  unfold decodeLen Read.run
  rw [Cursor.new_eq, Read.bind_ok (Cursor.expect_after [] header _),
    Read.bind_ok (Cursor.getU16Le_after _ t v)]
  by_cases hle : v.toNat ≤ t.length
  · have hsplit : t = t.take v.toNat ++ t.drop v.toNat := (List.take_append_drop _ t).symm
    have htake : (t.take v.toNat).length = v.toNat := by simp [hle]
    rw [if_pos hle, hsplit, Read.bind_ok (Cursor.getBytes_after _ _ _ htake)]
    simp only [pos, Cursor.after, List.length_append, htake]
    simp
  · have hlt : ¬ (Cursor.after ([] ++ header ++ u16Le v) t).pos + v.toNat ≤
        (Cursor.after ([] ++ header ++ u16Le v) t).buffer.length := by
      simp [Cursor.after]
      omega
    have herr : Cursor.getBytes v.toNat (Cursor.after ([] ++ header ++ u16Le v) t) =
        (.error (.needMoreBytes (v.toNat - t.length)), Cursor.after ([] ++ header ++ u16Le v) t) := by
      unfold Cursor.getBytes
      rw [if_neg hlt]
      simp only [Cursor.after, List.length_append, hpos]
      congr 3
      omega
    rw [if_neg hle, Read.bind_error herr]

/-- After the six bytes, the frame is complete or the rest of its payload is missing. -/
theorem decodeBytes_split (v : UInt16) (t : Bytes) :
    decodeBytes (header ++ (u16Le v ++ t)) =
      if v.toNat ≤ t.length then .ok (wire (t.take v.toNat))
      else .error (.needMoreBytes (v.toNat - t.length)) := by
  unfold decodeBytes
  rw [if_neg (by simp; omega), decodeLen_after]
  by_cases hle : v.toNat ≤ t.length
  · have hlen : (t.take v.toNat).length = v.toNat := by simp [hle]
    have htake : (header ++ (u16Le v ++ t)).take (6 + v.toNat) = wire (t.take v.toNat) := by
      rw [wire, hlen, UInt16.ofNat_toNat, List.take_append, List.take_append,
        List.take_of_length_le (by simp; omega), List.take_of_length_le (by simp; omega)]
      simp only [length_header, length_u16Le]
      congr 3
      omega
    rw [if_pos hle, if_pos hle, Except.map, htake]
  · rw [if_neg hle, if_neg hle, Except.map]

theorem decodeBytes_short (h : src.length < 6) :
    decodeBytes src = .error (.needMoreBytes (6 - src.length)) := by
  unfold decodeBytes
  rw [fixedSize_eq, if_pos h]

theorem decodeBytes_bad (h : 6 ≤ src.length) (hp : ¬ header.isPrefixOf src = true) :
    decodeBytes src = .error .expect := by
  have hexp : Cursor.expect header ⟨src, 0⟩ = (.error .expect, ⟨src, 0⟩) := by
    unfold Cursor.expect
    rw [if_neg (by simp [Cursor.remaining]; omega), if_neg (by simpa [Cursor.asSlice] using hp)]
  unfold decodeBytes decodeLen Read.run
  rw [fixedSize_eq, if_neg (by omega), Read.bind_error hexp, Except.map]

/-- What is decoded is a frame at the front of the packet. -/
theorem decodeBytes_ok (h : decodeBytes src = .ok data) : IsFramed data ∧ data <+: src := by
  by_cases hlen : src.length < 6
  · rw [decodeBytes_short hlen] at h
    cases h
  rcases split_cases (not_lt.1 hlen) with ⟨v, t, rfl⟩ | hp
  · rw [decodeBytes_split] at h
    by_cases hle : v.toNat ≤ t.length
    · rw [if_pos hle] at h
      cases h
      have htake : (t.take v.toNat).length = v.toNat := by simp [hle]
      refine ⟨⟨_, ?_, rfl⟩, t.drop v.toNat, ?_⟩
      · rw [htake]
        exact v.toNat_lt
      · rw [wire, htake, UInt16.ofNat_toNat]
        simp only [List.append_assoc, List.take_append_drop]
    · rw [if_neg hle] at h
      cases h
  · rw [decodeBytes_bad (not_lt.1 hlen) hp] at h
    cases h

/-- Decode a new frame from a buffer. -/
def decode (src : Bytes) : Except CursorError Frame :=
  match h : decodeBytes src with
  | .ok data => .ok ⟨data, (decodeBytes_ok h).1⟩
  | .error e => .error e

theorem decode_eq_ok {f : Frame} : decode src = .ok f ↔ decodeBytes src = .ok f.data := by
  unfold decode
  split
  · rename_i data h
    constructor
    · intro hf
      cases hf
      exact h
    · intro hf
      have hdata : data = f.data := Except.ok.inj (h.symm.trans hf)
      apply congrArg Except.ok
      ext1
      exact hdata
  · rename_i e h
    constructor
    · intro hf
      cases hf
    · intro hf
      cases h.symm.trans hf

theorem decode_eq_error {e : CursorError} :
    decode src = .error e ↔ decodeBytes src = .error e := by
  unfold decode
  split
  · rename_i data h
    constructor
    · intro he
      cases he
    · intro he
      cases h.symm.trans he
  · rename_i e' h
    constructor
    · intro he
      cases he
      exact h
    · intro he
      exact congrArg Except.error (Except.error.inj (h.symm.trans he))

/-- A frame is decoded from its bytes, whatever follows them. -/
theorem decode_data (f : Frame) (t : Bytes) : decode (f.data ++ t) = .ok f := by
  have hlt := f.length_payload_lt
  have hn : (UInt16.ofNat f.payload.length).toNat = f.payload.length := by
    rw [UInt16.toNat_ofNat', Nat.mod_eq_of_lt hlt]
  have hle : (UInt16.ofNat f.payload.length).toNat ≤ (f.payload ++ t).length := by
    rw [hn, List.length_append]
    omega
  rw [decode_eq_ok, f.data_eq, wire, List.append_assoc, List.append_assoc, decodeBytes_split,
    if_pos hle, hn, List.take_left]
  rfl

/-! ### Encoding -/

/-- A length that fits into the frame. -/
def tryFromU16 (n : ℕ) : Except CursorError UInt16 :=
  if n < 2 ^ 16 then .ok (UInt16.ofNat n) else .error .invalidNumber

/-- The bytes of a frame whose payload is written by `payload`. -/
def encodeBytes (cap : ℕ) (payload : Put) : Except CursorError Bytes := do
  let (head, tail) ← (CursorMut.new cap).split fixedSize
  let tail ← payload tail
  let len ← tryFromU16 tail.currentPos
  let head ← (putBytes header >=> putU16Le len) head
  head.expectFull -- the source panics when this fails
  -- the two parts are next to each other in the buffer
  let buf := head.data ++ tail.data
  return buf.take tail.pos

theorem tryFromU16_of_lt {n : ℕ} (h : n < 2 ^ 16) : tryFromU16 n = .ok (UInt16.ofNat n) := if_pos h

theorem tryFromU16_of_not_lt {n : ℕ} (h : ¬ n < 2 ^ 16) : tryFromU16 n = .error .invalidNumber :=
  if_neg h

/-- The part of the buffer for the payload. -/
def tailOf (cap : ℕ) : CursorMut := ⟨cap - 6, [], 6, Nat.zero_le _⟩

/-- The header always fills its part of the buffer. -/
theorem putHeader_full (len : UInt16) :
    (putBytes header >=> putU16Le len) ⟨6, [], 0, Nat.zero_le _⟩ =
      .ok ⟨6, header ++ u16Le len, 0, by simp⟩ := by
  have hw : Writes (putBytes header >=> putU16Le len) (header ++ u16Le len) :=
    (Writes.putBytes header).seq (Writes.putU16Le len)
  rw [hw]
  unfold putBytes
  rw [dif_pos (by simp)]
  rfl

theorem encodeBytes_eq (p : Payload) (hcap : 6 ≤ cap) :
    encodeBytes cap p.put = do
      let tail ← p.put (tailOf cap)
      let _ ← tryFromU16 tail.data.length
      return wire tail.data := by
  have hsplit : (CursorMut.new cap).split fixedSize =
      .ok (⟨6, [], 0, Nat.zero_le _⟩, tailOf cap) := by
    unfold split
    simp only [CursorMut.new, List.length_nil, Nat.zero_add, fixedSize_eq]
    rw [if_pos hcap]
    rfl
  unfold encodeBytes
  rw [hsplit]
  simp only [bind, Except.bind]
  cases ht : p.put (tailOf cap) with
  | error e => rfl
  | ok tail =>
    obtain ⟨s, hs⟩ := p.appends _ _ ht
    have hoff : tail.offset = 6 := by
      unfold putBytes at hs
      split at hs
      · cases hs
        rfl
      · cases hs
    simp only [currentPos]
    by_cases hlt : tail.data.length < 2 ^ 16
    · have htake : (header ++ u16Le (UInt16.ofNat tail.data.length) ++ tail.data).take tail.pos =
          wire tail.data := by
        rw [wire, ← List.append_assoc, List.take_of_length_le]
        simp only [CursorMut.pos, hoff, List.length_append, length_header, length_u16Le]
        omega
      rw [tryFromU16_of_lt hlt]
      simp only [putHeader_full, expectFull, List.length_append, length_header, length_u16Le,
        if_true, htake]
    · rw [tryFromU16_of_not_lt hlt]

theorem encodeBytes_small (put : Put) (hcap : ¬ 6 ≤ cap) :
    encodeBytes cap put = .error .bufferOverflow := by
  have hsplit : (CursorMut.new cap).split fixedSize = .error .bufferOverflow := by
    unfold split
    simp only [CursorMut.new, List.length_nil, Nat.zero_add, fixedSize_eq]
    rw [if_neg hcap]
  unfold encodeBytes
  rw [hsplit]
  rfl

/-- What is encoded is the frame of what the payload has written. -/
theorem encodeBytes_ok {p : Payload} (h : encodeBytes cap p.put = .ok data) :
    6 ≤ cap ∧ ∃ tail, p.put (tailOf cap) = .ok tail ∧ tail.data.length < 2 ^ 16 ∧
      data = wire tail.data := by
  by_cases hcap : 6 ≤ cap
  · refine ⟨hcap, ?_⟩
    rw [encodeBytes_eq p hcap] at h
    cases ht : p.put (tailOf cap) with
    | error e =>
      rw [ht] at h
      cases h
    | ok tail =>
      rw [ht] at h
      by_cases hlt : tail.data.length < 2 ^ 16
      · simp only [bind, Except.bind, tryFromU16_of_lt hlt] at h
        cases h
        exact ⟨tail, rfl, hlt, rfl⟩
      · simp only [bind, Except.bind, tryFromU16_of_not_lt hlt] at h
        cases h
  · rw [encodeBytes_small _ hcap] at h
    cases h

/-- Encode a frame into a buffer of `cap` bytes. -/
def encode (cap : ℕ) (p : Payload) : Except CursorError Frame :=
  match h : encodeBytes cap p.put with
  | .ok data => .ok ⟨data, by
      obtain ⟨-, tail, -, hlt, rfl⟩ := encodeBytes_ok h
      exact ⟨_, hlt, rfl⟩⟩
  | .error e => .error e

/-- The payload of an encoded frame is what its writer has written. -/
theorem encode_eq_ok {p : Payload} {f : Frame} : encode cap p = .ok f ↔
    6 ≤ cap ∧ ∃ tail, p.put (tailOf cap) = .ok tail ∧ tail.data = f.payload := by
  unfold encode
  constructor
  · intro h
    split at h
    · rename_i data hdata
      cases h
      obtain ⟨hcap, tail, htail, -, rfl⟩ := encodeBytes_ok hdata
      exact ⟨hcap, tail, htail, (drop_wire _).symm⟩
    · cases h
  · rintro ⟨hcap, tail, htail, hdata⟩
    have hlt : tail.data.length < 2 ^ 16 := by
      rw [hdata]
      exact f.length_payload_lt
    have hbytes : encodeBytes cap p.put = .ok f.data := by
      rw [encodeBytes_eq p hcap, htail, f.data_eq, ← hdata]
      simp only [bind, Except.bind, tryFromU16_of_lt hlt]
      rfl
    split
    · rename_i data hd
      rw [hbytes] at hd
      cases hd
      rfl
    · rename_i e hd
      rw [hbytes] at hd
      cases hd

/-- A payload whose bytes are known fits into the buffer and the length field, or is refused. -/
theorem encode_writes {p : Payload} (hp : Writes p.put s) {f : Frame} :
    encode cap p = .ok f ↔ 6 + s.length ≤ cap ∧ s = f.payload := by
  rw [encode_eq_ok]
  have hput : p.put (tailOf cap) = putBytes s (tailOf cap) := hp _
  rw [hput]
  unfold putBytes
  constructor
  · rintro ⟨hcap, tail, htail, hdata⟩
    split at htail
    · rename_i hfit
      cases htail
      simp only [tailOf, List.length_nil, List.nil_append] at hfit hdata
      exact ⟨by omega, hdata⟩
    · cases htail
  · rintro ⟨hcap, rfl⟩
    have hfit : (tailOf cap).data.length + f.payload.length ≤ (tailOf cap).cap := by
      simp only [tailOf, List.length_nil]
      omega
    rw [dif_pos hfit]
    exact ⟨by omega, _, rfl, rfl⟩

end Frame

/-! ### Payloads -/

theorem Appends.of_writes {p : Put} {s : Bytes} (hp : Writes p s) : Appends p := by
  intro c c' h
  refine ⟨s, ?_⟩
  rw [← hp c]
  exact h

theorem Appends.seq {p q : Put} (hp : Appends p) (hq : Appends q) : Appends (p >=> q) := by
  intro c c' h
  simp only [Bind.kleisliRight, bind, Except.bind] at h
  cases hc : p c with
  | error e =>
    rw [hc] at h
    cases h
  | ok c₁ =>
    rw [hc] at h
    obtain ⟨s, hs⟩ := hp c c₁ hc
    obtain ⟨t, ht⟩ := hq c₁ c' h
    refine ⟨s ++ t, ?_⟩
    rw [← Writes.putBytes_append]
    simp only [Bind.kleisliRight, bind, Except.bind, hs, ht]

/-- The pieces a formatter writes. -/
def Payload.fmt (pieces : List Bytes) : Payload :=
  ⟨putAsStr pieces, .of_writes (Writes.putAsStr pieces)⟩

namespace Frame

/-- Encode a frame with a printed payload. -/
def encodeFmt (cap : ℕ) (pieces : List Bytes) : Except CursorError Frame :=
  encode cap (.fmt pieces)

/-- A printed payload fits into the buffer and the length field, or is refused. -/
theorem encodeFmt_eq_ok {cap : ℕ} {pieces : List Bytes} {f : Frame} :
    encodeFmt cap pieces = .ok f ↔ 6 + pieces.flatten.length ≤ cap ∧ pieces.flatten = f.payload :=
  encode_writes (Writes.putAsStr pieces)

/-- The command of a frame, followed by its arguments. -/
def expectCommand (expect : Bytes) : Read CursorError Unit := do
  let name ← Args.next
  if name = expect then return () else Read.fail .expect

/-- A command without arguments. -/
def expectCommandNoArgs (expect : Bytes) : Read CursorError Unit := do
  expectCommand expect
  Cursor.expectEmpty

end Frame

/-! ## Messages of a client -/

/-- The game directory of a client. -/
structure Gamedir where
  gamedir : Bytes
  deriving DecidableEq

namespace Gamedir

def header : Bytes := ascii "sb_gamedir"

def decode (frame : Frame) : Except ProtocolError Gamedir := Read.run (do
  (Frame.expectCommand header).lift
  let gamedir ← Args.next.lift
  Cursor.expectEmpty.lift
  return ⟨gamedir⟩) frame.payload

def encode (cap : ℕ) (m : Gamedir) : Except CursorError Frame :=
  Frame.encodeFmt cap ([header, ascii " "] ++ strFormatBytes m.gamedir)

end Gamedir

/-! The numbers and booleans of a command. -/

def parseU64 (s : Bytes) : Option UInt64 := (parseUnsigned (2 ^ 64 - 1) 10 s).map UInt64.ofNat

def parseU32 (s : Bytes) : Option UInt32 := (parseUnsigned (2 ^ 32 - 1) 10 s).map UInt32.ofNat

/-- The request for a connection with a server. -/
structure Connect where
  serverAddress : SocketAddr
  serverSteamId : UInt64
  challenge : UInt32
  secure : Bool
  deriving DecidableEq

namespace Connect

def header : Bytes := ascii "sb_connect"

/-- Decode a request whose address is parsed by `parseAddr`. -/
def decode (parseAddr : Bytes → Option SocketAddr) (frame : Frame) :
    Except ProtocolError Connect := Read.run (do
  (Frame.expectCommand header).lift
  let serverAddress ← (Args.parseNext parseAddr).lift
  let serverSteamId ← (Args.parseNext parseU64).lift
  let s ← Args.next.lift
  let secure ← Read.lift <|
    if s = ascii "0" then pure false
    else if s = ascii "1" then pure true
    else Read.fail .invalidBool
  let challenge ← (Args.parseNext parseU32).lift
  Cursor.expectEmpty.lift
  return ⟨serverAddress, serverSteamId, challenge, secure⟩) frame.payload

def encode (cap : ℕ) (m : Connect) : Except CursorError Frame :=
  Frame.encodeFmt cap
    [header, ascii " ", m.serverAddress.display, ascii " ", numeral 10 m.serverSteamId.toNat,
      ascii " ", numeral 10 m.secure.toNat, ascii " ", numeral 10 m.challenge.toNat]

end Connect

/-- The end of a connection with a server. -/
structure Disconnect where
  serverAddress : SocketAddr
  challenge : UInt32
  deriving DecidableEq

namespace Disconnect

def header : Bytes := ascii "sb_disconnect"

/-- Decode a request whose address is parsed by `parseAddr`. -/
def decode (parseAddr : Bytes → Option SocketAddr) (frame : Frame) :
    Except ProtocolError Disconnect := Read.run (do
  (Frame.expectCommand header).lift
  let serverAddress ← (Args.parseNext parseAddr).lift
  let challenge ← (Args.parseNext parseU32).lift
  Cursor.expectEmpty.lift
  return ⟨serverAddress, challenge⟩) frame.payload

def encode (cap : ℕ) (m : Disconnect) : Except CursorError Frame :=
  Frame.encodeFmt cap
    [header, ascii " ", m.serverAddress.display, ascii " ", numeral 10 m.challenge.toNat]

end Disconnect

/-- The command that stops the broker. -/
structure Terminate where
  deriving DecidableEq

namespace Terminate

def header : Bytes := ascii "sb_terminate"

def decode (frame : Frame) : Except ProtocolError Terminate := Read.run (do
  (Frame.expectCommandNoArgs header).lift
  return ⟨⟩) frame.payload

def encode (cap : ℕ) (_ : Terminate) : Except CursorError Frame :=
  Frame.encodeFmt cap [header]

end Terminate

/-- A message of a client. -/
inductive ClientPacket where
  | gamedir (m : Gamedir)
  | connect (m : Connect)
  | disconnect (m : Disconnect)
  | terminate (m : Terminate)
  deriving DecidableEq

/-- The variants of a message of a client. -/
inductive ClientKind where
  | gamedir
  | connect
  | disconnect
  | terminate
  deriving DecidableEq

namespace ClientPacket

/-- The variant whose header the payload starts with. -/
def dispatch (s : Bytes) : Option ClientKind :=
  if Gamedir.header.isPrefixOf s then some .gamedir
  else if Connect.header.isPrefixOf s then some .connect
  else if Disconnect.header.isPrefixOf s then some .disconnect
  else if Terminate.header.isPrefixOf s then some .terminate
  else none

def decode (parseAddr : Bytes → Option SocketAddr) (frame : Frame) :
    Except ProtocolError ClientPacket :=
  match dispatch frame.payload with
  | some .gamedir => (Gamedir.decode frame).map .gamedir
  | some .connect => (Connect.decode parseAddr frame).map .connect
  | some .disconnect => (Disconnect.decode parseAddr frame).map .disconnect
  | some .terminate => (Terminate.decode frame).map .terminate
  | none => .error .invalidPacket

def kind : ClientPacket → ClientKind
  | .gamedir _ => .gamedir
  | .connect _ => .connect
  | .disconnect _ => .disconnect
  | .terminate _ => .terminate

def encode (cap : ℕ) : ClientPacket → Except CursorError Frame
  | .gamedir m => m.encode cap
  | .connect m => m.encode cap
  | .disconnect m => m.encode cap
  | .terminate m => m.encode cap

end ClientPacket

/-! ## Messages of the broker -/

/-- The answer to a request for a connection. -/
structure ConnectResponse where
  clientSteamId : UInt64
  ticket : Bytes
  challenge : UInt32
  deriving DecidableEq

namespace ConnectResponse

def header : Bytes := ascii "sb_connect\n"

def decode (frame : Frame) : Except ProtocolError ConnectResponse := Read.run (do
  (Cursor.expect header).lift
  let challenge ← Cursor.getU32Le.lift
  let clientSteamId ← Cursor.getU64Le.lift
  let len ← Cursor.getU32Le.lift
  let ticket ← (Cursor.getBytes len.toNat).lift
  Cursor.expectEmpty.lift
  return ⟨clientSteamId, ticket, challenge⟩) frame.payload

/-- Write a length of 32 bits. -/
def putLen (n : ℕ) : Put := fun cur =>
  if n < 2 ^ 32 then putU32Le (UInt32.ofNat n) cur else .error .invalidNumber

def put (m : ConnectResponse) : Put :=
  putBytes header >=>
  putU32Le m.challenge >=>
  putU64Le m.clientSteamId >=>
  putLen m.ticket.length >=>
  putBytes m.ticket

theorem appends_putLen (n : ℕ) : Appends (putLen n) := by
  intro c c' h
  unfold putLen at h
  by_cases hn : n < 2 ^ 32
  · rw [if_pos hn] at h
    exact ⟨_, h⟩
  · rw [if_neg hn] at h
    cases h

theorem appends_put (m : ConnectResponse) : Appends m.put :=
  (Appends.of_writes (Writes.putBytes _)).seq <|
    (Appends.of_writes (Writes.putU32Le _)).seq <|
      (Appends.of_writes (Writes.putU64Le _)).seq <|
        (appends_putLen _).seq (Appends.of_writes (Writes.putBytes _))

def encode (cap : ℕ) (m : ConnectResponse) : Except CursorError Frame :=
  Frame.encode cap ⟨m.put, m.appends_put⟩

end ConnectResponse

/-- A message of the broker. -/
inductive ServerPacket where
  | connectResponse (m : ConnectResponse)
  deriving DecidableEq

def ServerPacket.decode (frame : Frame) : Except ProtocolError ServerPacket :=
  if ConnectResponse.header.isPrefixOf frame.payload then
    (ConnectResponse.decode frame).map .connectResponse
  else .error .invalidPacket

end Xash3d.Broker
