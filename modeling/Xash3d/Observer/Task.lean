import Xash3d.Lib.Paced
import Xash3d.Observer.Observer

/-!
# Periodic tasks

A task that is polled late keeps its phase if it can, and is scheduled anew from the poll if it
cannot. Either way it is a paced schedule: `task_paced` bounds how often it is due in any interval
of time.
-/

namespace Xash3d

open Lib

namespace Task

variable {t : Task} {now : ℕ}

/-- The task after a number of polls. -/
def polled (t : Task) (nows : List ℕ) : Task := exec (fun t now => (t.updateTime now).2) t nows

/-- The polls that find the task due. -/
def dueAt (t : Task) (nows : List ℕ) : List ℕ := fired updateTime t nows

@[simp] theorem interval_updateTime (t : Task) (now : ℕ) :
    (t.updateTime now).2.interval = t.interval := by
  unfold updateTime
  split_ifs <;> rfl

@[simp] theorem interval_polled (t : Task) (nows : List ℕ) :
    (t.polled nows).interval = t.interval := by
  induction nows using List.reverseRecOn with
  | nil => rfl
  | append_singleton nows now ih =>
    unfold polled
    rw [exec_append, exec_singleton, interval_updateTime]
    exact ih

/-- A task that is not due stays as it is. -/
theorem updateTime_early (h : now < t.time) : t.updateTime now = (false, t) :=
  if_neg (not_le.2 h)

/-- A due task is scheduled at the next time of its phase, or anew if that has passed too. -/
theorem updateTime_due (h : t.time ≤ now) :
    (t.updateTime now).1 = true ∧
      ((t.updateTime now).2.time = t.time + t.interval ∧ now < t.time + t.interval ∨
        (t.updateTime now).2.time = now + t.interval ∧ t.time + t.interval ≤ now) := by
  unfold updateTime
  rw [if_pos h]
  refine ⟨rfl, ?_⟩
  by_cases hlate : t.time + t.interval ≤ now
  · exact Or.inr ⟨if_pos hlate, hlate⟩
  · exact Or.inl ⟨if_neg hlate, not_le.1 hlate⟩

theorem updateTime_fst (t : Task) (now : ℕ) : (t.updateTime now).1 = true ↔ t.time ≤ now := by
  constructor
  · intro h
    by_contra hnow
    rw [updateTime_early (not_le.1 hnow)] at h
    cases h
  · exact fun h => (updateTime_due h).1

/-- Tasks of one interval are a paced schedule. -/
theorem paced {len : ℕ} (hlen : 0 < len) :
    Paced (fun t : Task => t.interval = len) time updateTime len where
  len_pos := hlen
  kept t now h := by rw [interval_updateTime, h]
  fires_iff t now _ := updateTime_fst t now
  ahead t now h hdue := by
    obtain ⟨-, ⟨htime, hnow⟩ | ⟨htime, -⟩⟩ := updateTime_due hdue
    · rwa [htime]
    · rw [htime, h]
      omega
  spaced t now h hdue := by
    obtain ⟨-, ⟨htime, -⟩ | ⟨htime, -⟩⟩ := updateTime_due hdue
    · rw [htime, h]
    · rw [htime, h]
      omega
  waits t now _ h := by rw [updateTime_early h]

/-- The next scheduled time is at most an interval ahead. -/
theorem time_updateTime_le (h : t.time ≤ now) : (t.updateTime now).2.time ≤ now + t.interval := by
  obtain ⟨-, ⟨htime, -⟩ | ⟨htime, -⟩⟩ := updateTime_due h
  · rw [htime]
    omega
  · rw [htime]

end Task

/-- A task is due exactly when its scheduled time has come, it is then scheduled within the interval
after the poll and at least the interval after the old time, and it stays as it is otherwise. So
however late the polls are, it is due less often in a closed interval of time than its interval fits
into it and twice more. -/
theorem task_paced (t : Task) (h : 0 < t.interval) (nows : List ℕ) :
    (∀ p now q, nows = p ++ now :: q →
      let s := t.polled p
      let r := s.updateTime now
      (r.1 = true ↔ s.time ≤ now) ∧ (r.1 = false → r.2 = s) ∧
        (r.1 = true → now < r.2.time ∧ r.2.time ≤ now + t.interval ∧
          s.time + t.interval ≤ r.2.time)) ∧
    ∀ a b, a ≤ b → ((t.dueAt nows).countP fun now => a ≤ now ∧ now ≤ b : ℚ) <
      ((b : ℚ) - a) / t.interval + 2 := by
  have hpaced := Task.paced h
  constructor
  · intro p now q _ s r
    have hs : s.interval = t.interval := Task.interval_polled t p
    refine ⟨s.updateTime_fst now, ?_, ?_⟩
    · intro hearly
      have hnow : ¬ s.time ≤ now := by
        rw [← Task.updateTime_fst]
        exact Bool.eq_false_iff.1 hearly
      exact congrArg Prod.snd (Task.updateTime_early (not_le.1 hnow))
    · intro hdue
      have hnow := (s.updateTime_fst now).1 hdue
      refine ⟨hpaced.ahead s now hs hnow, ?_, hpaced.spaced s now hs hnow⟩
      rw [← hs]
      exact Task.time_updateTime_le hnow
  · intro a b hab
    have hlt := hpaced.countP_interval_lt hab nows t rfl
    have hpos : (0 : ℚ) < t.interval := by exact_mod_cast h
    have hcast : (((fired Task.updateTime t nows).countP fun now => a ≤ now ∧ now ≤ b : ℕ) : ℚ) *
        t.interval < (b - a) + 2 * t.interval := by
      rw [← Nat.cast_sub hab]
      exact_mod_cast hlt
    rw [← sub_lt_iff_lt_add, lt_div_iff₀ hpos]
    show ((((fired Task.updateTime t nows).countP fun now => a ≤ now ∧ now ≤ b : ℕ) : ℚ) - 2) * _ < _
    linarith

/-- The queries for information, polled a second late and a second later: they are due both times. -/
theorem task_paced_late :
    (((Task.mk (secs 2) serverInterval).dueAt [secs 3, secs 4]).countP
        fun now => secs 3 ≤ now ∧ now ≤ secs 4 : ℚ) <
      ((secs 4 : ℚ) - secs 3) / serverInterval + 2 :=
  (task_paced ⟨secs 2, serverInterval⟩ (by decide) [secs 3, secs 4]).2 (secs 3) (secs 4) (by decide)

end Xash3d
