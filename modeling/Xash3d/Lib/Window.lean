import Mathlib

/-!
# Fixed windows of requests

A window opens at a request when no window is open, stays open for a fixed length and counts its
requests. A limiter serves the first `limit` requests of each window (`served`).

* `countP_window_le`: it serves at most `limit` requests in a window;
* `countP_interval_le`: it serves at most `2 * limit` requests in an interval as long as a
  window, wherever the interval starts.
-/

namespace Xash3d.Lib

/-- When a window opened, and the number of its requests. -/
structure Window where
  start : ℕ
  count : ℕ
  deriving DecidableEq

namespace Window

variable (len limit : ℕ)

/-- The window is open at a time. -/
def isOpen (w : Window) (t : ℕ) : Bool := t - w.start < len

/-- The window that is open at a time, if any. -/
def openAt (w : Option Window) (t : ℕ) : Option Window := w.filter (isOpen len · t)

/-- The number of requests in the open window. -/
def seen (w : Option Window) (t : ℕ) : ℕ := ((openAt len w t).map count).getD 0

/-- The window after a request. -/
def arrive (w : Option Window) (t : ℕ) : Window :=
  match openAt len w t with
  | some w => ⟨w.start, w.count + 1⟩
  | none => ⟨t, 1⟩

/-- The window after the requests at some times. -/
def after (w : Option Window) (ts : List ℕ) : Option Window :=
  ts.foldl (fun w t => some (arrive len w t)) w

/-- The requests that are served, each with the opening time of its window. -/
def served : Option Window → List ℕ → List (ℕ × ℕ)
  | _, [] => []
  | w, t :: ts =>
    let w' := arrive len w t
    if seen len w t < limit then (w'.start, t) :: served (some w') ts else served (some w') ts

@[simp] theorem after_nil (w : Option Window) : after len w [] = w := rfl

@[simp] theorem after_append (w : Option Window) (ts us : List ℕ) :
    after len w (ts ++ us) = after len (after len w ts) us := List.foldl_append

variable {len limit} {w : Option Window} {ts : List ℕ} {t l : ℕ}

theorem arrive_of_open {w' : Window} (h : openAt len w t = some w') :
    arrive len w t = ⟨w'.start, w'.count + 1⟩ := by
  unfold arrive
  rw [h]

theorem arrive_of_closed (h : openAt len w t = none) : arrive len w t = ⟨t, 1⟩ := by
  unfold arrive
  rw [h]

theorem count_arrive (len : ℕ) (w : Option Window) (t : ℕ) :
    (arrive len w t).count = seen len w t + 1 := by
  unfold arrive seen
  cases openAt len w t <;> rfl

/-- A request either falls into the open window or opens one. -/
theorem arrive_cases (len s c t : ℕ) :
    (t - s < len ∧ arrive len (some ⟨s, c⟩) t = ⟨s, c + 1⟩ ∧ seen len (some ⟨s, c⟩) t = c) ∨
      (len ≤ t - s ∧ arrive len (some ⟨s, c⟩) t = ⟨t, 1⟩ ∧ seen len (some ⟨s, c⟩) t = 0) := by
  by_cases h : t - s < len
  · have ho : openAt len (some ⟨s, c⟩) t = some ⟨s, c⟩ := by simp [openAt, isOpen, h]
    refine Or.inl ⟨h, arrive_of_open ho, ?_⟩
    unfold seen
    rw [ho]
    rfl
  · have ho : openAt len (some ⟨s, c⟩) t = none := by simp [openAt, isOpen]; omega
    refine Or.inr ⟨by omega, arrive_of_closed ho, ?_⟩
    unfold seen
    rw [ho]
    rfl

/-- Counting the served requests, one request after another. -/
theorem countP_served (p : ℕ × ℕ → Bool) (w : Option Window) (t : ℕ) (ts : List ℕ) :
    (served len limit w (t :: ts)).countP p =
      (served len limit (some (arrive len w t)) ts).countP p +
        if seen len w t < limit ∧ p ((arrive len w t).start, t) = true then 1 else 0 := by
  rw [served]
  by_cases h : seen len w t < limit
  · simp [h, List.countP_cons]
  · simp [h]

/-- At most the rest of the limit is served in the window at hand, and the limit in a later one. -/
theorem countP_window (limit : ℕ) (hlen : 0 < len) (s₀ : ℕ) (ts : List ℕ) : ∀ s c l, s ≤ l →
    (l :: ts).Pairwise (· ≤ ·) →
    (served len limit (some ⟨s, c⟩) ts).countP (fun r => r.1 = s₀) ≤
      if s₀ < s then 0 else if s₀ = s then limit - c else limit := by
  induction ts with
  | nil => intro s c l _ _; exact Nat.zero_le _
  | cons t ts ih =>
    intro s c l hs hl
    rw [List.pairwise_cons] at hl
    have hlt : l ≤ t := hl.1 t (by simp)
    rw [countP_served]
    rcases arrive_cases len s c t with ⟨ho, ha, hseen⟩ | ⟨ho, ha, hseen⟩ <;>
      rw [ha, hseen]
    · have h := ih s (c + 1) t (by omega) hl.2
      simp only [decide_eq_true_eq]
      split_ifs at h ⊢ <;> omega
    · have h := ih t 1 t le_rfl hl.2
      simp only [decide_eq_true_eq]
      split_ifs at h ⊢ <;> omega

/-- A limiter serves at most its limit in a window. -/
theorem countP_window_le (hlen : 0 < len) (hts : ts.Pairwise (· ≤ ·)) (s₀ : ℕ) :
    (served len limit none ts).countP (fun r => r.1 = s₀) ≤ limit := by
  cases ts with
  | nil => exact Nat.zero_le _
  | cons t ts =>
    have h := countP_window limit hlen s₀ ts t 1 t le_rfl hts
    have hseen : seen len none t = 0 := rfl
    rw [countP_served, arrive_of_closed rfl, hseen]
    simp only [decide_eq_true_eq]
    split_ifs at h ⊢ <;> omega

/-- What can be served from now on in the interval of length `len` at `a`, where `l` is the time of
the last request: the interval meets at most one window after the one at hand, and none if that one
opened within the interval. -/
def budget (len limit a l : ℕ) (w : Window) : ℕ :=
  if a + len < w.start then 0
  else if a < w.start then limit - w.count
  else if a ≤ l then limit - w.count + limit
  else 2 * limit

theorem countP_interval (limit : ℕ) (hlen : 0 < len) (a : ℕ) (ts : List ℕ) : ∀ s c l, s ≤ l →
    l < s + len → (l :: ts).Pairwise (· ≤ ·) →
    (served len limit (some ⟨s, c⟩) ts).countP (fun r => a ≤ r.2 ∧ r.2 ≤ a + len) ≤
      budget len limit a l ⟨s, c⟩ := by
  induction ts with
  | nil => intro s c l _ _ _; exact Nat.zero_le _
  | cons t ts ih =>
    intro s c l hs hl hsorted
    rw [List.pairwise_cons] at hsorted
    have hlt : l ≤ t := hsorted.1 t (by simp)
    rw [countP_served]
    rcases arrive_cases len s c t with ⟨ho, ha, hseen⟩ | ⟨ho, ha, hseen⟩ <;>
      rw [ha, hseen]
    · have h := ih s (c + 1) t (by omega) (by omega) hsorted.2
      simp only [budget, decide_eq_true_eq] at h ⊢
      split_ifs at h ⊢ <;> omega
    · have h := ih t 1 t le_rfl (by omega) hsorted.2
      simp only [budget, decide_eq_true_eq] at h ⊢
      split_ifs at h ⊢ <;> omega

/-- A limiter serves at most twice its limit in an interval as long as a window. -/
theorem countP_interval_le (hlen : 0 < len) (hts : ts.Pairwise (· ≤ ·)) (a : ℕ) :
    (served len limit none ts).countP (fun r => a ≤ r.2 ∧ r.2 ≤ a + len) ≤ 2 * limit := by
  cases ts with
  | nil => exact Nat.zero_le _
  | cons t ts =>
    have h := countP_interval limit hlen a ts t 1 t le_rfl (by omega) hts
    have hseen : seen len none t = 0 := rfl
    rw [countP_served, arrive_of_closed rfl, hseen]
    simp only [budget, decide_eq_true_eq] at h ⊢
    split_ifs at h ⊢ <;> omega

end Window

end Xash3d.Lib
