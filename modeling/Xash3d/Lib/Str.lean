import Mathlib

/-!
# Text

A text is a list of characters that is stored in UTF-8, and its places are byte offsets. A slice
fails unless its ends are boundaries between two characters: such an offset is the length of a
prefix (`splitAt_eq_some`).
-/

namespace Xash3d.Lib

/-- Valid UTF-8, as the characters it encodes. -/
abbrev Str := List Char

namespace Str

/-- The length of a text in bytes. -/
def utf8Len : Str → ℕ
  | [] => 0
  | c :: s => c.utf8Size + utf8Len s

@[simp] theorem utf8Len_nil : utf8Len [] = 0 := rfl

@[simp] theorem utf8Len_cons (c : Char) (s : Str) :
    utf8Len (c :: s) = c.utf8Size + utf8Len s := rfl

@[simp] theorem utf8Len_append (s t : Str) : utf8Len (s ++ t) = utf8Len s + utf8Len t := by
  induction s with
  | nil => simp
  | cons c s ih => simp [ih, Nat.add_assoc]

theorem eq_nil_of_utf8Len {s : Str} (h : utf8Len s = 0) : s = [] := by
  cases s with
  | nil => rfl
  | cons c s =>
    have hc := c.utf8Size_pos
    rw [utf8Len_cons] at h
    omega

/-- The bytes of a text. -/
def asBytes (s : Str) : List UInt8 := s.flatMap String.utf8EncodeChar

@[simp] theorem asBytes_cons (c : Char) (s : Str) :
    asBytes (c :: s) = String.utf8EncodeChar c ++ asBytes s := rfl

/-- An ASCII character is one byte. -/
theorem utf8EncodeChar_ascii {c : Char} (h : c.toNat < 128) :
    String.utf8EncodeChar c = [UInt8.ofNat c.toNat] := by
  have hle : c.val.toNat ≤ 127 := Nat.le_of_lt_succ h
  exact if_pos hle

/-- The bytes of another character start above the ASCII ones. -/
theorem utf8EncodeChar_other {c : Char} (h : ¬ c.toNat < 128) :
    ∃ b bs, String.utf8EncodeChar c = b :: bs ∧ 128 ≤ b.toNat := by
  have hgt : ¬ c.val.toNat ≤ 127 := fun hle => h (Nat.lt_succ_of_le hle)
  unfold String.utf8EncodeChar
  simp only [if_neg hgt]
  split_ifs
  all_goals
    refine ⟨_, _, rfl, ?_⟩
    rw [UInt8.toNat_ofNat']
    omega

/-- A text whose first byte is an ASCII one starts with that character. -/
theorem asBytes_eq_cons {s : Str} {b : UInt8} {bs : List UInt8} (h : asBytes s = b :: bs)
    (hb : b.toNat < 128) : ∃ c t, s = c :: t ∧ c.toNat = b.toNat ∧ asBytes t = bs := by
  cases s with
  | nil => cases h
  | cons c t =>
    rw [asBytes_cons] at h
    by_cases hc : c.toNat < 128
    · rw [utf8EncodeChar_ascii hc] at h
      obtain ⟨rfl, ht⟩ := List.cons.inj h
      refine ⟨c, t, rfl, ?_, ht⟩
      rw [UInt8.toNat_ofNat']
      omega
    · obtain ⟨b', bs', hbytes, hb'⟩ := utf8EncodeChar_other hc
      rw [hbytes] at h
      obtain ⟨rfl, -⟩ := List.cons.inj h
      omega

/-! ## Slices -/

/-- The two parts of a text around a byte offset. -/
def splitAt : Str → ℕ → Option (Str × Str)
  | s, 0 => some ([], s)
  | [], _ + 1 => none
  | c :: s, n + 1 =>
    if c.utf8Size ≤ n + 1 then
      (splitAt s (n + 1 - c.utf8Size)).map fun parts => (c :: parts.1, parts.2)
    else none

/-- The text from a byte offset on. -/
def sliceFrom (s : Str) (n : ℕ) : Option Str := (splitAt s n).map Prod.snd

/-- The text between two byte offsets. -/
def slice (s : Str) (m n : ℕ) : Option Str := do
  let (head, _) ← splitAt s n
  sliceFrom head m

theorem splitAt_append (s t : Str) : splitAt (s ++ t) (utf8Len s) = some (s, t) := by
  induction s with
  | nil => simp [splitAt]
  | cons c s ih =>
    obtain ⟨n, hn⟩ : ∃ n, utf8Len (c :: s) = n + 1 :=
      Nat.exists_eq_add_one.mpr (Nat.add_pos_left c.utf8Size_pos _)
    have hle : c.utf8Size ≤ n + 1 := by rw [← hn, utf8Len_cons]; omega
    have hrest : n + 1 - c.utf8Size = utf8Len s := by rw [← hn, utf8Len_cons]; omega
    rw [hn, List.cons_append, splitAt, if_pos hle, hrest, ih]
    rfl

/-- An offset at which a text splits is the length of a prefix. -/
theorem splitAt_eq_some {s t u : Str} {n : ℕ} :
    splitAt s n = some (t, u) ↔ s = t ++ u ∧ utf8Len t = n := by
  constructor
  · intro h
    fun_induction splitAt s n generalizing t u with
    | case1 s =>
      cases h
      exact ⟨rfl, rfl⟩
    | case2 n => cases h
    | case3 c s n hle ih =>
      obtain ⟨⟨t', u'⟩, hparts, heq⟩ := Option.map_eq_some_iff.mp h
      cases heq
      obtain ⟨hs, hlen⟩ := ih hparts
      refine ⟨by rw [hs, List.cons_append], ?_⟩
      rw [utf8Len_cons, hlen]
      omega
    | case4 c s n hle => cases h
  · rintro ⟨rfl, rfl⟩
    exact splitAt_append t u

theorem sliceFrom_append (s t : Str) : sliceFrom (s ++ t) (utf8Len s) = some t := by
  rw [sliceFrom, splitAt_append]
  rfl

theorem slice_append (s t u : Str) :
    slice (s ++ t ++ u) (utf8Len s) (utf8Len s + utf8Len t) = some t := by
  rw [slice, ← utf8Len_append, splitAt_append]
  exact sliceFrom_append s t

/-- The rest of a text is what an offset leaves of its length. -/
theorem utf8Len_of_sliceFrom {s t : Str} {n : ℕ} (h : sliceFrom s n = some t) :
    utf8Len s = n + utf8Len t := by
  obtain ⟨⟨head, t'⟩, hsplit, heq⟩ := Option.map_eq_some_iff.mp h
  cases heq
  obtain ⟨hs, hlen⟩ := splitAt_eq_some.mp hsplit
  rw [hs, utf8Len_append, hlen]

/-- The characters of a text with their byte offsets, the first of which is `n`. -/
def charIndices (n : ℕ) : Str → List (ℕ × Char)
  | [] => []
  | c :: s => (n, c) :: charIndices (n + c.utf8Size) s

/-- The byte offset of the first place of a character. -/
def find (c : Char) (s : Str) : Option ℕ :=
  ((charIndices 0 s).find? fun place => place.2 == c).map Prod.fst

/-- The search over the places of a text goes past the characters that are not looked for. -/
theorem find?_charIndices {c : Char} {s : Str} (h : c ∉ s) (t : Str) (n : ℕ) :
    (charIndices n (s ++ t)).find? (fun place => place.2 == c) =
      (charIndices (n + utf8Len s) t).find? fun place => place.2 == c := by
  induction s generalizing n with
  | nil => rfl
  | cons d s ih =>
    obtain ⟨hd, hs⟩ := not_or.mp (mt List.mem_cons.mpr h)
    rw [List.cons_append, charIndices, List.find?_cons_of_neg (by simpa using Ne.symm hd), ih hs,
      utf8Len_cons, Nat.add_assoc]

theorem find_append {c : Char} {s : Str} (h : c ∉ s) (t : Str) :
    find c (s ++ c :: t) = some (utf8Len s) := by
  rw [find, find?_charIndices h, Nat.zero_add, charIndices, List.find?_cons_of_pos (by simp)]
  rfl

theorem find_eq_none {c : Char} {s : Str} (h : c ∉ s) : find c s = none := by
  have hfind := find?_charIndices h [] 0
  rw [List.append_nil] at hfind
  rw [find, hfind]
  rfl

end Str

end Xash3d.Lib
