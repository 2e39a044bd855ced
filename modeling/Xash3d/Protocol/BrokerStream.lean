import Xash3d.Lib.Framing
import Xash3d.Protocol.Net.Broker

/-!
# Frames of the broker in a stream

A broker reads frames off a stream that arrives in pieces. `Frame.framing` puts `Frame.decode`
under the rules of a decoder of frames, and `stream_read` says what a reader gets.
-/

namespace Xash3d.Broker

open Lib

namespace Frame

/-- The number of bytes an error asks for. -/
def asks : CursorError → Option ℕ
  | .needMoreBytes n => some n
  | _ => none

theorem length_data (f : Frame) : f.data.length = 6 + f.payload.length := by
  conv_lhs => rw [f.data_eq, length_wire]

/-- A part of a frame without the whole header asks for the rest of the header. -/
theorem decode_take_short (f : Frame) {k : ℕ} (hk : k < 6) :
    decode (f.data.take k) = .error (.needMoreBytes (6 - k)) := by
  have hlen : (f.data.take k).length = k := by
    rw [List.length_take, f.length_data]
    omega
  rw [decode_eq_error, decodeBytes_short (by omega), hlen]

/-- A part of a frame with the header asks for the rest of the payload. -/
theorem decode_take (f : Frame) {k : ℕ} (hk : 6 ≤ k) (hlt : k < f.data.length) :
    decode (f.data.take k) = .error (.needMoreBytes (f.data.length - k)) := by
  have hlen := f.length_data
  have hn : (UInt16.ofNat f.payload.length).toNat = f.payload.length := by
    rw [UInt16.toNat_ofNat', Nat.mod_eq_of_lt f.length_payload_lt]
  have hhead : (header ++ u16Le (UInt16.ofNat f.payload.length)).length = 6 := by simp
  have htake : f.data.take k =
      header ++ (u16Le (UInt16.ofNat f.payload.length) ++ f.payload.take (k - 6)) := by
    conv_lhs => rw [f.data_eq]
    rw [wire, ← List.append_assoc, List.take_append, hhead, List.take_of_length_le (by omega),
      List.append_assoc]
  have hpart : (f.payload.take (k - 6)).length = k - 6 := by
    rw [List.length_take]
    omega
  rw [decode_eq_error, htake, decodeBytes_split, hn, hpart, if_neg (by omega)]
  congr 2
  omega

/-- `Frame.decode` is a decoder of frames. -/
theorem framing : Framing decode data asks where
  length_pos f := by
    have hlen := f.length_data
    omega
  complete := decode_data
  sound _ f h := (decodeBytes_ok (decode_eq_ok.1 h)).2
  starved f k hk := by
    have hlen := f.length_data
    by_cases h6 : 6 ≤ k
    · refine ⟨_, _, f.decode_take h6 hk, rfl, ?_, ?_⟩ <;> omega
    · refine ⟨_, _, f.decode_take_short (not_le.1 h6), rfl, ?_, ?_⟩ <;> omega

end Frame

open Xash3d.Broker.Frame

/-- Frames written one after another are read back one by one with what was written into them; a
part of a frame asks for more, exactly for the rest of the frame once it has the header, and a
reader that fetches what is asked for stops at the end of the frame; and a decoded frame does not
depend on what follows it. -/
theorem stream_read :
    (∀ (ps : List (ℕ × Payload)) (fs : List Frame),
      List.Forall₂ (fun p f => Frame.encode p.1 p.2 = .ok f) ps fs →
      ∀ n, fs.length ≤ n → readAll decode data n (fs.flatMap data) = (fs, []) ∧
        List.Forall₂ (fun p f => ∃ tail,
          p.2.put (tailOf p.1) = .ok tail ∧ tail.data = f.payload) ps fs) ∧
    (∀ (f : Frame) (k : ℕ), k < f.data.length →
      ∃ n, decode (f.data.take k) = .error (.needMoreBytes n) ∧ 0 < n ∧ n ≤ f.data.length - k ∧
        (6 ≤ k → n = f.data.length - k)) ∧
    (∀ (f : Frame) (t : Bytes) (n k : ℕ), k ≤ f.data.length → f.data.length - k < n →
      fetch decode asks (f.data ++ t) n k = some (.ok f, f.data.length)) ∧
    ∀ (src : Bytes) (f : Frame), decode src = .ok f →
      f.data <+: src ∧ ∀ src', f.data <+: src' → decode src' = .ok f := by
  refine ⟨?_, ?_, ?_, ?_⟩
  · intro ps fs henc n hn
    refine ⟨framing.readAll_flatMap fs hn, henc.imp ?_⟩
    intro p f h
    obtain ⟨-, tail, htail, hdata⟩ := Frame.encode_eq_ok.1 h
    exact ⟨tail, htail, hdata⟩
  · intro f k hk
    have hlen := f.length_data
    by_cases h6 : 6 ≤ k
    · exact ⟨_, f.decode_take h6 hk, by omega, le_rfl, fun _ => rfl⟩
    · refine ⟨_, f.decode_take_short (not_le.1 h6), by omega, by omega, ?_⟩
      intro h
      omega
  · intro f t n k hk hn
    exact framing.fetch_frame f t hk hn
  · intro src f h
    refine ⟨framing.sound src f h, ?_⟩
    rintro _ ⟨t, rfl⟩
    exact framing.complete f t

end Xash3d.Broker
