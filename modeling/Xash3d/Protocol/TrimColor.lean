import Xash3d.Protocol.Color

/-!
# Codes in trimmed text

One pass removes every code of a text, but the characters around removed codes meet: a caret in
front of them and a digit behind them are a new code. `trim_color_iff` says that this is the only
way to find a code in trimmed text.
-/

namespace Xash3d

open Lib Lib.Str

/-- A colour code starts at some character. -/
def HasCode (s : Str) : Prop := ∃ u v, s = u ++ v ∧ isColorCode v = true

/-- Codes stand between a caret and a digit. -/
def Joins (s : Str) : Prop := ∃ u digits d v, s = u ++ '^' :: (codes digits ++ d :: v) ∧
  digits ≠ [] ∧ (∀ c ∈ digits, c.isDigit = true) ∧ d.isDigit = true

/-- The host name of a server is written to JSON without its codes. -/
def serializeColored {R : Type} (serializeStr : Str → R) (s : Str) : Option R :=
  (trimColor s).map fun t => serializeStr t.text

/-! ## Codes of a text -/

theorem caret_not_digit : '^'.isDigit = false := by decide

theorem not_hasCode_nil : ¬ HasCode [] := by
  rintro ⟨u, v, huv, hcode⟩
  obtain ⟨-, rfl⟩ := List.append_eq_nil_iff.mp huv.symm
  cases hcode

/-- A code starts at the first character or later. -/
theorem hasCode_cons {c : Char} {s : Str} :
    HasCode (c :: s) ↔ isColorCode (c :: s) = true ∨ HasCode s := by
  constructor
  · rintro ⟨u, v, huv, hcode⟩
    cases u with
    | nil =>
      rw [List.nil_append] at huv
      rw [huv]
      exact Or.inl hcode
    | cons d u =>
      obtain ⟨-, rfl⟩ := List.cons.inj huv
      exact Or.inr ⟨u, v, rfl, hcode⟩
  · rintro (hcode | ⟨u, v, rfl, hcode⟩)
    · exact ⟨[], c :: s, rfl, hcode⟩
    · exact ⟨c :: u, v, rfl, hcode⟩

/-- A code at the first character is a caret in front of a digit. -/
theorem isColorCode_cons {c : Char} {s : Str} :
    isColorCode (c :: s) = true ↔ c = '^' ∧ ∃ d ∈ s.head?, d.isDigit = true := by
  rw [isColorCode_iff]
  constructor
  · rintro ⟨d, t, heq, hd⟩
    obtain ⟨rfl, rfl⟩ := List.cons.inj heq
    exact ⟨rfl, d, rfl, hd⟩
  · rintro ⟨rfl, d, hhead, hd⟩
    obtain ⟨t, rfl⟩ := List.head?_eq_some_iff.mp hhead
    exact ⟨d, t, rfl, hd⟩

/-! ## What one pass leaves -/

theorem stripColors_code {d : Char} (hd : d.isDigit = true) (s : Str) :
    stripColors ('^' :: d :: s) = stripColors s :=
  stripColors_codes (List.forall_mem_singleton.mpr hd) s

theorem stripColors_text {c : Char} {s : Str} (h : isColorCode (c :: s) = false) :
    stripColors (c :: s) = c :: stripColors s := by
  rw [stripColors, scanColors_text h]
  rfl

/-- The first character that is kept is the first one behind the codes. -/
theorem head?_stripColors {s : Str} {d : Char} (hd : d.isDigit = true) :
    (stripColors s).head? = some d ↔
      ∃ digits v, s = codes digits ++ d :: v ∧ ∀ c ∈ digits, c.isDigit = true := by
  constructor
  · intro hhead
    obtain ⟨digits, u, rfl, hdigits, hu, -⟩ := trimStartColor_spec s
    rw [stripColors_codes hdigits] at hhead
    cases u with
    | nil => cases hhead
    | cons c v =>
      rw [stripColors_text hu] at hhead
      obtain rfl : c = d := Option.some.inj hhead
      exact ⟨digits, v, rfl, hdigits⟩
  · rintro ⟨digits, v, rfl, hdigits⟩
    have hplain : isColorCode (d :: v) = false := by
      rw [Bool.eq_false_iff, ne_eq, isColorCode_cons]
      rintro ⟨rfl, -⟩
      rw [caret_not_digit] at hd
      cases hd
    rw [stripColors_codes hdigits, stripColors_text hplain]
    rfl

/-- The character after a caret that starts no code is no digit. -/
theorem joins_code {d : Char} (hd : d.isDigit = true) (s : Str) :
    Joins ('^' :: d :: s) ↔ Joins s := by
  constructor
  · rintro ⟨u, digits, e, v, heq, hne, hdigits, he⟩
    obtain ⟨x, digits', rfl⟩ := List.exists_cons_of_ne_nil hne
    have hcaret : d ≠ '^' := by
      rintro rfl
      rw [caret_not_digit] at hd
      cases hd
    cases u with
    | nil =>
      obtain ⟨-, hrest⟩ := List.cons.inj heq
      exact absurd (List.cons.inj hrest).1 hcaret
    | cons c u =>
      obtain ⟨-, hrest⟩ := List.cons.inj heq
      cases u with
      | nil => exact absurd (List.cons.inj hrest).1 hcaret
      | cons c' u =>
        obtain ⟨-, rfl⟩ := List.cons.inj hrest
        exact ⟨u, x :: digits', e, v, rfl, hne, hdigits, he⟩
  · rintro ⟨u, digits, e, v, rfl, h⟩
    exact ⟨'^' :: d :: u, digits, e, v, rfl, h⟩

theorem joins_cons {c : Char} {s : Str} : Joins (c :: s) ↔
    (c = '^' ∧ ∃ digits d v, s = codes digits ++ d :: v ∧ digits ≠ [] ∧
      (∀ c ∈ digits, c.isDigit = true) ∧ d.isDigit = true) ∨ Joins s := by
  constructor
  · rintro ⟨u, digits, d, v, heq, h⟩
    cases u with
    | nil =>
      obtain ⟨rfl, rfl⟩ := List.cons.inj heq
      exact Or.inl ⟨rfl, digits, d, v, rfl, h⟩
    | cons c' u =>
      obtain ⟨-, rfl⟩ := List.cons.inj heq
      exact Or.inr ⟨u, digits, d, v, rfl, h⟩
  · rintro (⟨rfl, digits, d, v, rfl, h⟩ | ⟨u, digits, d, v, rfl, h⟩)
    · exact ⟨[], digits, d, v, rfl, h⟩
    · exact ⟨c :: u, digits, d, v, rfl, h⟩

/-- A code is found in what is kept exactly where removed codes stood between a caret and a digit. -/
theorem hasCode_stripColors (s : Str) : HasCode (stripColors s) ↔ Joins s := by
  induction hn : s.length using Nat.strong_induction_on generalizing s with
  | _ n ih =>
    by_cases hcode : isColorCode s = true
    · obtain ⟨d, t, rfl, hd⟩ := isColorCode_iff.mp hcode
      have hshorter : t.length < n := by
        rw [← hn, List.length_cons, List.length_cons]
        omega
      rw [stripColors_code hd, joins_code hd]
      exact ih _ hshorter t rfl
    · cases s with
      | nil =>
        refine iff_of_false not_hasCode_nil ?_
        rintro ⟨u, digits, d, v, heq, -⟩
        simp at heq
      | cons c t =>
        have hplain := Bool.eq_false_iff.mpr hcode
        have hrest := ih t.length (by rw [← hn]; exact Nat.lt_succ_self _) t rfl
        rw [stripColors_text hplain, hasCode_cons, isColorCode_cons, joins_cons, hrest]
        refine or_congr_left (and_congr_right fun hc => ?_)
        constructor
        · rintro ⟨d, hhead, hd⟩
          obtain ⟨digits, v, rfl, hdigits⟩ := (head?_stripColors hd).mp hhead
          refine ⟨digits, d, v, rfl, ?_, hdigits, hd⟩
          rintro rfl
          -- without codes in between the caret and the digit are a code of the text itself
          exact hcode (isColorCode_cons.mpr ⟨hc, d, rfl, hd⟩)
        · rintro ⟨digits, d, v, rfl, -, hdigits, hd⟩
          exact ⟨d, (head?_stripColors hd).mpr ⟨digits, v, rfl, hdigits⟩, hd⟩

/-! ## A second pass -/

theorem length_stripColors (s : Str) :
    (stripColors s).length ≤ s.length ∧ (HasCode s → (stripColors s).length < s.length) := by
  induction hn : s.length using Nat.strong_induction_on generalizing s with
  | _ n ih =>
    by_cases hcode : isColorCode s = true
    · obtain ⟨d, t, rfl, hd⟩ := isColorCode_iff.mp hcode
      rw [List.length_cons, List.length_cons] at hn
      have hrest := (ih t.length (by omega) t rfl).1
      rw [stripColors_code hd]
      omega
    · cases s with
      | nil => exact ⟨Nat.zero_le _, fun h => absurd h not_hasCode_nil⟩
      | cons c t =>
        rw [List.length_cons] at hn
        obtain ⟨hle, hlt⟩ := ih t.length (by omega) t rfl
        rw [stripColors_text (Bool.eq_false_iff.mpr hcode), List.length_cons, hasCode_cons]
        refine ⟨by omega, ?_⟩
        rintro (h | h)
        · exact absurd h hcode
        · have := hlt h
          omega

/-- A second pass changes nothing exactly where there is no code. -/
theorem stripColors_eq_self {s : Str} : stripColors s = s ↔ ¬ HasCode s := by
  constructor
  · intro h hcode
    have hlt := (length_stripColors s).2 hcode
    rw [h] at hlt
    exact lt_irrefl _ hlt
  · intro h
    induction s with
    | nil => rfl
    | cons c s ih =>
      rw [hasCode_cons, not_or] at h
      rw [stripColors_text (Bool.eq_false_iff.mpr h.1), ih h.2]

/-- No code is in trimmed text, it is trimmed to itself, and the host name in the JSON has no code,
exactly where no codes stand between a caret and a digit. -/
theorem trim_color_iff (s : Str) : ∃ t t', trimColor s = some t ∧ trimColor t.text = some t' ∧
    ((∀ u v, t.text = u ++ v → isColorCode v = false) ↔ ¬ Joins s) ∧
    (t'.text = t.text ↔ ¬ Joins s) ∧
    ∀ (R : Type) (serializeStr : Str → R),
      serializeColored serializeStr s = some (serializeStr t.text) := by
  obtain ⟨t, htrim, ht⟩ := trimColor_spec s
  obtain ⟨t', htrim', ht'⟩ := trimColor_spec t.text
  refine ⟨t, t', htrim, htrim', ?_, ?_, ?_⟩
  · rw [← hasCode_stripColors, ← ht]
    constructor
    · rintro h ⟨u, v, huv, hcode⟩
      rw [h u v huv] at hcode
      cases hcode
    · intro h u v huv
      by_contra hcode
      exact h ⟨u, v, huv, Bool.not_eq_false _ ▸ hcode⟩
  · rw [ht', stripColors_eq_self, ht, hasCode_stripColors]
  · intro R serializeStr
    rw [serializeColored, htrim]
    rfl

/-- The inner code of `^^11b` is removed, and the outer one is left. -/
theorem trim_color_joined : ¬ ∀ s t, trimColor s = some t →
    ∀ u v, t.text = u ++ v → isColorCode v = false := by
  intro h
  obtain ⟨t, htrim, ht⟩ := trimColor_spec ['^', '^', '1', '1', 'b']
  have hjoins : Joins ['^', '^', '1', '1', 'b'] :=
    ⟨[], ['1'], '1', ['b'], rfl, List.cons_ne_nil _ _, List.forall_mem_singleton.mpr rfl, rfl⟩
  obtain ⟨u, v, huv, hcode⟩ := (hasCode_stripColors _).mpr hjoins
  rw [h _ t htrim u v (ht.trans huv)] at hcode
  cases hcode

end Xash3d
