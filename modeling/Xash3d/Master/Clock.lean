import Xash3d.Master.TimedHashMap

/-!
# How far the relative clock can be trusted

A unit of the clock is 8 milliseconds, not the 125 of `RelativeTime.millisPerUnit`: both
conversions use the other constant. The counter of 32 bits then runs over after `2 ^ 35`
milliseconds, which is 397 days. Two readings are compared correctly exactly if the counter has
not run over between them (`clock_faithful_iff`).
-/

namespace Xash3d

namespace RelativeTime

/-- The time the counter takes to run over. -/
def period : ℕ := 2 ^ 35

/-- The elapsed time between two readings is off by less than a unit of the documentation. -/
def Measures (e n : ℕ) : Prop :=
  (fromMillis n).durationSince (fromMillis e) < (n - e) + millisPerUnit ∧
    n - e < (fromMillis n).durationSince (fromMillis e) + millisPerUnit

/-- An entry created at `e` and looked up at `n` is judged correctly, but for a unit. -/
def Judges (e n : ℕ) : Prop :=
  ∀ (V : Type) (v : V) (secs : UInt32),
    (secs.toNat * 1000 + millisPerUnit < n - e →
      (⟨fromMillis e, v⟩ : Timed V).isValid (fromMillis n) secs = false) ∧
    (n - e + millisPerUnit < secs.toNat * 1000 →
      (⟨fromMillis e, v⟩ : Timed V).isValid (fromMillis n) secs = true)

/-- The clock serves a reading at `n` of what happened at `e`. -/
def Faithful (e n : ℕ) : Prop :=
  Measures e n ∧ fromMillis e ≤ fromMillis n ∧ Judges e n

variable {e n : ℕ}

theorem toNat_fromMillis (ms : ℕ) : (fromMillis ms).units.toNat = ms / 8 % 2 ^ 32 := rfl

theorem durationSince_fromMillis (e n : ℕ) : (fromMillis n).durationSince (fromMillis e) =
    (n / 8 % 2 ^ 32 - e / 8 % 2 ^ 32) * 8 := by
  rw [durationSince_eq, toNat_fromMillis, toNat_fromMillis]

/-- Within a period the counter does not decrease. -/
theorem fromMillis_mono (h : e ≤ n) (hp : n / period = e / period) :
    fromMillis e ≤ fromMillis n := by
  unfold period at hp
  rw [le_def, toNat_fromMillis, toNat_fromMillis]
  omega

/-- Within a period the elapsed time is off by less than the 8 milliseconds of a tick. -/
theorem durationSince_near (h : e ≤ n) (hp : n / period = e / period) :
    (fromMillis n).durationSince (fromMillis e) < (n - e) + 8 ∧
      n - e < (fromMillis n).durationSince (fromMillis e) + 8 := by
  unfold period at hp
  rw [durationSince_fromMillis]
  constructor <;> omega

theorem measures_of_period (h : e ≤ n) (hp : n / period = e / period) : Measures e n := by
  obtain ⟨h1, h2⟩ := durationSince_near h hp
  unfold Measures millisPerUnit
  constructor <;> omega

/-- What measures the age of an entry judges the entry. -/
theorem judges_of_measures (h : Measures e n) : Judges e n := by
  obtain ⟨h1, h2⟩ := h
  intro V v secs
  constructor
  · intro hold
    rw [← Bool.not_eq_true, Timed.isValid_iff]
    show ¬ (fromMillis n).durationSince (fromMillis e) < _
    omega
  · intro hyoung
    rw [Timed.isValid_iff]
    show (fromMillis n).durationSince (fromMillis e) < _
    omega

/-- Once the counter has run over, readings of a correct difference are out of order. -/
theorem period_of_measures (h : e ≤ n) (hm : Measures e n)
    (ho : fromMillis e ≤ fromMillis n) : n / period = e / period := by
  obtain ⟨-, h2⟩ := hm
  rw [le_def, toNat_fromMillis, toNat_fromMillis] at ho
  rw [durationSince_fromMillis] at h2
  unfold millisPerUnit at h2
  unfold period
  omega

/-- The clock is faithful exactly between readings of one period. -/
theorem clock_faithful_iff (h : e ≤ n) : Faithful e n ↔ n / period = e / period := by
  constructor
  · rintro ⟨hm, ho, -⟩
    exact period_of_measures h hm ho
  · intro hp
    have hm := measures_of_period h hp
    exact ⟨hm, fromMillis_mono h hp, judges_of_measures hm⟩

theorem clock_faithful_hour : Faithful 5000 3605000 ↔ 3605000 / period = 5000 / period :=
  clock_faithful_iff (by decide)

/-- After a period a challenge of the first second is as new, and time has run backwards. -/
theorem clock_runs_over :
    period < 2 ^ 32 * millisPerUnit ∧ ¬ Measures 0 period ∧ ¬ Judges 0 period ∧
      fromMillis period < fromMillis (period - 8) := by
  refine ⟨by decide, ?_, ?_, by decide⟩
  · rintro ⟨-, h⟩
    exact absurd h (by decide)
  · intro h
    exact absurd ((h Unit () 10).1 (by decide)) (by decide)

end RelativeTime

end Xash3d
