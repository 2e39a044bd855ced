import Mathlib

/-!
# Searches

Where the first element for which a condition holds is in a list. `findIdx?_first` finds it,
`not_of_mem_take` says that it is the first one; the delimiter of a string is the case of one or two
values that are searched for.
-/

namespace Xash3d.Lib

variable {α : Type*} {p : α → Bool} {s : List α} {i : ℕ} {x y : α}

/-- What is searched for follows elements of which the condition does not hold. -/
theorem findIdx?_first (hs : ∀ b ∈ s, p b = false) (hx : p x = true) (t : List α) :
    (s ++ x :: t).findIdx? p = some s.length := by
  rw [List.findIdx?_append, List.findIdx?_eq_none_iff.2 hs, List.findIdx?_cons, if_pos hx]
  simp

theorem lt_length_of_findIdx? (h : s.findIdx? p = some i) : i < s.length :=
  (List.findIdx?_eq_some_iff_findIdx_eq.1 h).1

/-- No element before the first one meets the condition. -/
theorem not_of_mem_take (h : s.findIdx? p = some i) : ∀ b ∈ s.take i, p b = false := by
  intro b hb
  obtain ⟨k, hk, hget⟩ := List.getElem_of_mem hb
  rw [List.length_take] at hk
  have hfirst := (List.findIdx?_eq_some_iff_getElem.1 h).2.2 k (by omega)
  rw [List.getElem_take] at hget
  rw [hget] at hfirst
  exact eq_false_of_ne_true hfirst

variable [BEq α] [LawfulBEq α]

theorem beq_eq_false_of_mem (hx : x ∉ s) : ∀ b ∈ s, (b == x) = false := by
  intro b hb
  rw [beq_eq_false_iff_ne]
  rintro rfl
  exact hx hb

theorem or_beq_eq_false_of_mem (hx : x ∉ s) (hy : y ∉ s) :
    ∀ b ∈ s, (b == x || b == y) = false := by
  intro b hb
  rw [beq_eq_false_of_mem hx b hb, beq_eq_false_of_mem hy b hb]
  rfl

/-- The first delimiter ends a string that has none. -/
theorem findIdx?_delim (t : List α) (hx : x ∉ s) :
    (s ++ x :: t).findIdx? (· == x) = some s.length :=
  findIdx?_first (beq_eq_false_of_mem hx) (beq_self_eq_true x) t

theorem findIdx?_of_not_mem (hx : x ∉ s) : s.findIdx? (· == x) = none :=
  List.findIdx?_eq_none_iff.2 (beq_eq_false_of_mem hx)

theorem not_mem_of_findIdx? (h : s.findIdx? (· == x) = none) : x ∉ s := by
  intro hx
  have hne := List.findIdx?_eq_none_iff.1 h x hx
  rw [beq_self_eq_true] at hne
  cases hne

theorem not_mem_take (h : s.findIdx? (· == x) = some i) : x ∉ s.take i := by
  intro hx
  have hne := not_of_mem_take h x hx
  rw [beq_self_eq_true] at hne
  cases hne

end Xash3d.Lib
