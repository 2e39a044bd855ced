import Mathlib

/-!
# Prefix codes

A code whose words can be read off the front of whatever follows them. A sequence of words then
determines the sequence it encodes (`flatMap_injective`).
-/

namespace Xash3d.Lib

variable {α β : Type*}

/-- The reader takes one word off the front. -/
structure PrefixCode (code : α → List β) (read : List β → Option (α × List β)) : Prop where
  read_word : ∀ a t, read (code a ++ t) = some (a, t)
  read_nil : read [] = none

namespace PrefixCode

variable {code : α → List β} {read : List β → Option (α × List β)}

/-- No word of a prefix code is empty. -/
theorem word_ne_nil (h : PrefixCode code read) (a : α) (t : List β) : code a ++ t ≠ [] := by
  intro hnil
  have hread := h.read_word a t
  rw [hnil, h.read_nil] at hread
  cases hread

/-- Different sequences are encoded differently. -/
theorem flatMap_injective (h : PrefixCode code read) :
    Function.Injective fun l : List α => l.flatMap code := by
  intro l
  induction l with
  | nil =>
    intro m hm
    cases m with
    | nil => rfl
    | cons b m => exact absurd hm.symm (h.word_ne_nil b _)
  | cons a l ih =>
    intro m hm
    cases m with
    | nil => exact absurd hm (h.word_ne_nil a _)
    | cons b m =>
      have hwords : code a ++ l.flatMap code = code b ++ m.flatMap code := hm
      have hread := h.read_word a (l.flatMap code)
      rw [hwords, h.read_word b] at hread
      obtain ⟨rfl, hrest⟩ := Prod.mk.inj (Option.some.inj hread)
      rw [ih hrest.symm]

end PrefixCode

end Xash3d.Lib
