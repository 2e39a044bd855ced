import Mathlib

/-!
# Frames in a stream

A decoder that takes one frame off the front of a stream, and says of an unfinished frame how many
bytes it still needs at least.

* `readAll_flatMap`: reading frame after frame undoes writing one after another.
* `fetch_frame`: a reader that fetches what the decoder asks for stops at the end of the frame.
-/

namespace Xash3d.Lib

variable {α ε φ : Type}

/-- A decoder of frames that are written as `bytes`; `asks` reads the number of missing bytes off
an error. -/
structure Framing (dec : List α → Except ε φ) (bytes : φ → List α) (asks : ε → Option ℕ) :
    Prop where
  length_pos : ∀ f, 0 < (bytes f).length
  /-- A frame at the front is decoded, whatever follows. -/
  complete : ∀ f t, dec (bytes f ++ t) = .ok f
  /-- What is decoded is at the front. -/
  sound : ∀ s f, dec s = .ok f → bytes f <+: s
  /-- A part of a frame asks for more, but not for more than the rest of the frame. -/
  starved : ∀ f k, k < (bytes f).length → ∃ e n, dec ((bytes f).take k) = .error e ∧
    asks e = some n ∧ 0 < n ∧ k + n ≤ (bytes f).length

/-- Decode up to `n` frames one after another; the bytes that are left are returned with them. -/
def readAll (dec : List α → Except ε φ) (bytes : φ → List α) : ℕ → List α → List φ × List α
  | 0, s => ([], s)
  | n + 1, s =>
    match dec s with
    | .error _ => ([], s)
    | .ok f =>
      let (fs, rest) := readAll dec bytes n (s.drop (bytes f).length)
      (f :: fs, rest)

/-- Decode what was fetched of a stream, at first `k` bytes, and fetch what the decoder asks for,
in at most `n` rounds; the number of bytes fetched is returned with the result. -/
def fetch (dec : List α → Except ε φ) (asks : ε → Option ℕ) (stream : List α) :
    ℕ → ℕ → Option (Except ε φ × ℕ)
  | 0, _ => none
  | n + 1, k =>
    match dec (stream.take k) with
    | .ok f => some (.ok f, k)
    | .error e =>
      match asks e with
      | some m => fetch dec asks stream n (k + m)
      | none => some (.error e, k)

namespace Framing

variable {dec : List α → Except ε φ} {bytes : φ → List α} {asks : ε → Option ℕ}

/-- Nothing is decoded from nothing. -/
theorem dec_nil (h : Framing dec bytes asks) : ∃ e, dec [] = .error e := by
  cases hd : dec [] with
  | error e => exact ⟨e, rfl⟩
  | ok f =>
    have hlen := (h.sound [] f hd).length_le
    have hpos := h.length_pos f
    simp only [List.length_nil] at hlen
    omega

/-- Reading frame after frame undoes writing one after another. -/
theorem readAll_flatMap (h : Framing dec bytes asks) (fs : List φ) {n : ℕ} (hn : fs.length ≤ n) :
    readAll dec bytes n (fs.flatMap bytes) = (fs, []) := by
  induction fs generalizing n with
  | nil =>
    obtain ⟨e, he⟩ := h.dec_nil
    cases n with
    | zero => rfl
    | succ n => rw [List.flatMap_nil, readAll, he]
  | cons f fs ih =>
    cases n with
    | zero => simp at hn
    | succ n =>
      have hrest : readAll dec bytes n (fs.flatMap bytes) = (fs, []) := by
        apply ih
        simpa using hn
      rw [List.flatMap_cons, readAll, h.complete]
      simp only [List.drop_left, hrest]

/-- A reader that fetches what the decoder asks for stops at the end of the frame. -/
theorem fetch_frame (h : Framing dec bytes asks) (f : φ) (t : List α) {n k : ℕ}
    (hk : k ≤ (bytes f).length) (hn : (bytes f).length - k < n) :
    fetch dec asks (bytes f ++ t) n k = some (.ok f, (bytes f).length) := by
  induction n generalizing k with
  | zero => omega
  | succ n ih =>
    have htake : (bytes f ++ t).take k = (bytes f).take k := List.take_append_of_le_length hk
    rw [fetch, htake]
    by_cases hlt : k < (bytes f).length
    · obtain ⟨e, m, he, hm, hpos, hle⟩ := h.starved f k hlt
      rw [he]
      simp only [hm]
      apply ih hle
      omega
    · have heq : k = (bytes f).length := by omega
      have hdec : dec (bytes f) = .ok f := by simpa using h.complete f []
      subst heq
      rw [List.take_length, hdec]

end Framing

end Xash3d.Lib
