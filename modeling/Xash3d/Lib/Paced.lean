import Xash3d.Lib.Run

/-!
# Paced schedules

A schedule is polled at times and fires when its due time has come; after that the due time is later
than the poll, and by at least the interval later than it was. The firings of late polls can be
closer than the interval, but not many of them: `countP_interval_lt` bounds the firings in any
closed interval of time, whatever the polls are.
-/

namespace Xash3d.Lib

variable {S : Type*}

/-- A schedule with the interval `len`, on the states with a property that polls keep. -/
structure Paced (ok : S → Prop) (due : S → ℕ) (poll : S → ℕ → Bool × S) (len : ℕ) : Prop where
  len_pos : 0 < len
  kept : ∀ s t, ok s → ok (poll s t).2
  fires_iff : ∀ s t, ok s → ((poll s t).1 = true ↔ due s ≤ t)
  /-- The due time lies ahead after a firing. -/
  ahead : ∀ s t, ok s → due s ≤ t → t < due (poll s t).2
  /-- It has advanced by the interval. -/
  spaced : ∀ s t, ok s → due s ≤ t → due s + len ≤ due (poll s t).2
  waits : ∀ s t, ok s → t < due s → due (poll s t).2 = due s

/-- The times of the polls at which a schedule fires. -/
def fired (poll : S → ℕ → Bool × S) : S → List ℕ → List ℕ
  | _, [] => []
  | s, t :: ts => if (poll s t).1 then t :: fired poll (poll s t).2 ts else fired poll (poll s t).2 ts

namespace Paced

variable {ok : S → Prop} {due : S → ℕ} {poll : S → ℕ → Bool × S} {len : ℕ} {s : S} {t : ℕ}

theorem fired_due (h : Paced ok due poll len) (hs : ok s) (ht : due s ≤ t) (ts : List ℕ) :
    fired poll s (t :: ts) = t :: fired poll (poll s t).2 ts := if_pos ((h.fires_iff s t hs).2 ht)

theorem fired_early (h : Paced ok due poll len) (hs : ok s) (ht : t < due s) (ts : List ℕ) :
    fired poll s (t :: ts) = fired poll (poll s t).2 ts :=
  if_neg fun hfires => absurd ((h.fires_iff s t hs).1 hfires) (not_le.2 ht)

/-- A schedule does not fire before it is due. -/
theorem countP_of_lt (h : Paced ok due poll len) (ts : List ℕ) : ∀ s, ok s → ∀ b, b < due s →
    (fired poll s ts).countP (fun t => t ≤ b) = 0 := by
  induction ts with
  | nil => exact fun _ _ _ _ => rfl
  | cons t ts ih =>
    intro s hs b hb
    rcases Nat.lt_or_ge t (due s) with ht | ht
    · rw [h.fired_early hs ht]
      exact ih _ (h.kept s t hs) b (by rw [h.waits s t hs ht]; exact hb)
    · have hahead := h.ahead s t hs ht
      have hlate : ¬ t ≤ b := by omega
      rw [h.fired_due hs ht, List.countP_cons, if_neg (by simpa using hlate),
        ih _ (h.kept s t hs) b (by omega)]

/-- From a due time on there is at most one firing for each interval, and one more. -/
theorem countP_le (h : Paced ok due poll len) (ts : List ℕ) : ∀ s, ok s → ∀ b, due s ≤ b →
    (fired poll s ts).countP (fun t => t ≤ b) * len ≤ b - due s + len := by
  induction ts with
  | nil =>
    intro s _ b _
    show 0 * len ≤ _
    omega
  | cons t ts ih =>
    intro s hs b hb
    have hok := h.kept s t hs
    rcases Nat.lt_or_ge t (due s) with ht | ht
    · have hrest := ih _ hok b (by rw [h.waits s t hs ht]; exact hb)
      rwa [h.waits s t hs ht, ← h.fired_early hs ht] at hrest
    · have hahead := h.ahead s t hs ht
      have hspaced := h.spaced s t hs ht
      rw [h.fired_due hs ht, List.countP_cons]
      rcases Nat.lt_or_ge b (due (poll s t).2) with hlast | hmore
      · rw [h.countP_of_lt ts _ hok b hlast]
        split_ifs <;> omega
      · have hrest := ih _ hok b hmore
        rw [add_mul]
        split_ifs <;> omega

/-- The firings in a closed interval of time are fewer than the lengths that fit into it and two. -/
theorem countP_interval_lt (h : Paced ok due poll len) {a b : ℕ} (hab : a ≤ b) (ts : List ℕ) :
    ∀ s, ok s →
      (fired poll s ts).countP (fun t => a ≤ t ∧ t ≤ b) * len < b - a + 2 * len := by
  have hlen := h.len_pos
  induction ts with
  | nil =>
    intro s _
    show 0 * len < _
    omega
  | cons t ts ih =>
    intro s hs
    have hok := h.kept s t hs
    rcases Nat.lt_or_ge t (due s) with ht | ht
    · rw [h.fired_early hs ht]
      exact ih _ hok
    · rw [h.fired_due hs ht, List.countP_cons]
      rcases Nat.lt_or_ge t a with hbefore | hin
      · rw [if_neg (by simp; omega)]
        exact ih _ hok
      · -- the due time is later than `a` from here on
        have hahead := h.ahead s t hs ht
        have hmono : (fired poll (poll s t).2 ts).countP (fun t => a ≤ t ∧ t ≤ b) ≤
            (fired poll (poll s t).2 ts).countP (fun t => t ≤ b) :=
          List.countP_mono_left fun x _ hx => by simp_all
        have hcount := Nat.mul_le_mul_right len hmono
        rw [add_mul]
        rcases Nat.lt_or_ge b (due (poll s t).2) with hlast | hmore
        · rw [h.countP_of_lt ts _ hok b hlast] at hcount
          split_ifs <;> omega
        · have hrest := h.countP_le ts _ hok b hmore
          split_ifs <;> omega

end Paced

end Xash3d.Lib
