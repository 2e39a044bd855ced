import Xash3d.Lib.Str

/-!
# Colour codes

`trim_color` and `ColorIter` cut the codes `^digit` out of a text. Each slice of them is at a byte
offset, so it may fail; the functions here return `none` in this case.

* `Runs`: the parts of one left-to-right pass, each with the codes in front of it.
* `color_parts`: the iterator ends, its parts are the runs of such a pass, and `trimColor` is their
  text.
-/

namespace Xash3d

open Lib Lib.Str

/-! ## The functions of the source -/

/-- The text starts with a colour code. -/
def isColorCode (s : Str) : Bool :=
  match asBytes s with
  | 94 :: c :: _ => 48 ≤ c && c ≤ 57
  | _ => false

theorem isDigit_iff {c : Char} : c.isDigit = true ↔ 48 ≤ c.toNat ∧ c.toNat ≤ 57 := by
  rw [Char.isDigit, Bool.and_eq_true, decide_eq_true_iff, decide_eq_true_iff, ge_iff_le,
    UInt32.le_iff_toNat_le, UInt32.le_iff_toNat_le]
  exact Iff.rfl

/-- A code is a caret and a digit. -/
theorem isColorCode_iff {s : Str} :
    isColorCode s = true ↔ ∃ d t, s = '^' :: d :: t ∧ d.isDigit = true := by
  constructor
  · intro h
    unfold isColorCode at h
    split at h
    · next b bs hbytes =>
      rw [Bool.and_eq_true, decide_eq_true_iff, decide_eq_true_iff, UInt8.le_iff_toNat_le,
        UInt8.le_iff_toNat_le] at h
      obtain ⟨hlo, hhi⟩ : 48 ≤ b.toNat ∧ b.toNat ≤ 57 := h
      obtain ⟨c, s, rfl, hc, hrest⟩ := asBytes_eq_cons hbytes (by decide)
      obtain ⟨d, t, rfl, hd, -⟩ := asBytes_eq_cons hrest (by omega)
      have hcaret : c = '^' := Char.toNat_inj.mp hc
      subst hcaret
      refine ⟨d, t, rfl, ?_⟩
      rw [isDigit_iff]
      omega
    · cases h
  · rintro ⟨d, t, rfl, hd⟩
    obtain ⟨hlo, hhi⟩ := isDigit_iff.mp hd
    have hbytes : asBytes ('^' :: d :: t) = 94 :: UInt8.ofNat d.toNat :: asBytes t := by
      rw [asBytes_cons, asBytes_cons, utf8EncodeChar_ascii (c := d) (by omega)]
      rfl
    have hmod : (UInt8.ofNat d.toNat).toNat = d.toNat := by
      rw [UInt8.toNat_ofNat']
      omega
    unfold isColorCode
    simp only [hbytes, Bool.and_eq_true, decide_eq_true_eq, UInt8.le_iff_toNat_le, hmod]
    exact ⟨hlo, hhi⟩

/-- The loop of `trim_start_color`, at the offset `n`. -/
def skipCodes (s : Str) (n : ℕ) : Option ℕ :=
  match h : sliceFrom s n with
  | none => none
  | some t => if isColorCode t then skipCodes s (n + 2) else some n
termination_by utf8Len s - n
decreasing_by
  rename_i hcode
  obtain ⟨d, u, rfl, -⟩ := isColorCode_iff.mp hcode
  have hlen := utf8Len_of_sliceFrom h
  have hcaret := Char.utf8Size_pos '^'
  have hdigit := d.utf8Size_pos
  rw [utf8Len_cons, utf8Len_cons] at hlen
  omega

/-- Cut the codes off the start of a text; the first part is the last of them. -/
def trimStartColor (s : Str) : Option (Str × Str) := do
  let n ← skipCodes s 0
  if 0 < n then return (← slice s (n - 2) n, ← sliceFrom s n) else splitAt s 0

/-- The first of the offsets at which a code starts. -/
def findCode (tail : Str) : List ℕ → Option (Option ℕ)
  | [] => some none
  | i :: offsets => do
    if isColorCode (← sliceFrom tail i) then return some i
    findCode tail offsets

namespace ColorIter

/-- The next part with its colour, and the inner text after it. -/
def next (inner : Str) : Option (Option (Str × Str) × Str) :=
  if inner.isEmpty then some (none, inner)
  else do
    let (color, tail) ← trimStartColor inner
    let offset := (← findCode tail ((charIndices 0 tail).map Prod.fst)).getD (utf8Len tail)
    let (head, tail) ← splitAt tail offset
    return (some (color, head), tail)

end ColorIter

/-! ## One pass from left to right -/

/-- What one pass reads: a code with its digit, or a character of the text. -/
inductive ColorToken
  | code (digit : Char)
  | text (c : Char)
deriving DecidableEq, Repr

/-- One pass from left to right. -/
def scanColors : Str → List ColorToken
  | [] => []
  | [c] => [.text c]
  | c :: d :: s =>
    if c = '^' ∧ d.isDigit then .code d :: scanColors s else .text c :: scanColors (d :: s)

example : scanColors "a^^1".toList = [.text 'a', .text '^', .code '1'] := by decide

/-- The codes of these digits, one after another. -/
def codes (digits : List Char) : Str := digits.flatMap fun d => ['^', d]

theorem scanColors_text {c : Char} {s : Str} (h : isColorCode (c :: s) = false) :
    scanColors (c :: s) = .text c :: scanColors s := by
  cases s with
  | nil => rfl
  | cons d s =>
    rw [scanColors, if_neg]
    rintro ⟨rfl, hd⟩
    rw [isColorCode_iff.mpr ⟨d, s, rfl, hd⟩] at h
    cases h

theorem scanColors_codes {digits : List Char} (h : ∀ d ∈ digits, d.isDigit = true) (s : Str) :
    scanColors (codes digits ++ s) = digits.map .code ++ scanColors s := by
  induction digits with
  | nil => rfl
  | cons d digits ih =>
    have hscan : scanColors ('^' :: d :: (codes digits ++ s)) =
        .code d :: scanColors (codes digits ++ s) := by
      rw [scanColors, if_pos ⟨rfl, h d List.mem_cons_self⟩]
    have hrest := ih fun d hd => h d (List.mem_cons_of_mem _ hd)
    rw [hrest] at hscan
    exact hscan

/-- The length of codes; each is two bytes. -/
theorem utf8Len_codes {digits : List Char} (h : ∀ d ∈ digits, d.isDigit = true) :
    utf8Len (codes digits) = 2 * digits.length := by
  induction digits with
  | nil => rfl
  | cons d digits ih =>
    have hd : d.utf8Size = 1 := by
      have := isDigit_iff.mp (h d List.mem_cons_self)
      rw [Char.utf8Size_eq_one_iff, UInt32.le_iff_toNat_le]
      exact this.2.trans (by decide)
    have hcaret : '^'.utf8Size = 1 := rfl
    have hrest := ih fun d hd => h d (List.mem_cons_of_mem _ hd)
    change utf8Len ('^' :: d :: codes digits) = _
    rw [utf8Len_cons, utf8Len_cons, hd, hcaret, hrest, List.length_cons]
    omega

/-- The last of some codes, or nothing. -/
def lastCode (digits : List Char) : Str :=
  match digits.getLast? with
  | some d => ['^', d]
  | none => []

/-! ## What the functions do -/

theorem skipCodes_eq {s t : Str} {n : ℕ} (h : sliceFrom s n = some t) :
    skipCodes s n = if isColorCode t then skipCodes s (n + 2) else some n := by
  rw [skipCodes]
  split
  · next hnone =>
    rw [h] at hnone
    cases hnone
  · next u hsome =>
    rw [h] at hsome
    cases hsome
    rfl

/-- The loop skips all the codes there are. -/
theorem skipCodes_spec (pre t : Str) :
    ∃ digits u, t = codes digits ++ u ∧ (∀ d ∈ digits, d.isDigit = true) ∧
      isColorCode u = false ∧
      skipCodes (pre ++ t) (utf8Len pre) = some (utf8Len pre + utf8Len (codes digits)) := by
  induction hn : t.length using Nat.strong_induction_on generalizing pre t with
  | h n ih =>
    have hstep := skipCodes_eq (sliceFrom_append pre t)
    by_cases hcode : isColorCode t = true
    · obtain ⟨d, t, rfl, hd⟩ := isColorCode_iff.mp hcode
      have hshorter : t.length < n := by
        rw [← hn, List.length_cons, List.length_cons]
        omega
      obtain ⟨digits, u, rfl, hdigits, hu, hskip⟩ := ih _ hshorter (pre ++ ['^', d]) t rfl
      have htwo : utf8Len ['^', d] = 2 := utf8Len_codes (List.forall_mem_singleton.mpr hd)
      rw [if_pos hcode] at hstep
      rw [List.append_assoc, utf8Len_append, htwo] at hskip
      refine ⟨d :: digits, u, rfl, List.forall_mem_cons.mpr ⟨hd, hdigits⟩, hu, ?_⟩
      have hlen : utf8Len (codes (d :: digits)) = 2 + utf8Len (codes digits) := by
        rw [← htwo, ← utf8Len_append]
        rfl
      rw [hstep, hlen, ← Nat.add_assoc]
      exact hskip
    · rw [if_neg hcode] at hstep
      exact ⟨[], t, rfl, List.forall_mem_nil _, Bool.eq_false_iff.mpr hcode, hstep⟩

/-- The start of a text is cut off after its codes. -/
theorem trimStartColor_spec (s : Str) :
    ∃ digits u, s = codes digits ++ u ∧ (∀ d ∈ digits, d.isDigit = true) ∧
      isColorCode u = false ∧ trimStartColor s = some (lastCode digits, u) := by
  obtain ⟨digits, u, rfl, hdigits, hu, hskip⟩ := skipCodes_spec [] s
  refine ⟨digits, u, rfl, hdigits, hu, ?_⟩
  rw [List.nil_append, utf8Len_nil, Nat.zero_add] at hskip
  rw [trimStartColor, hskip]
  rcases List.eq_nil_or_concat digits with rfl | ⟨before, d, rfl⟩
  · have hsplit : splitAt u 0 = some ([], u) := splitAt_append [] u
    exact hsplit
  · rw [List.concat_eq_append] at hdigits ⊢
    have hcode : codes [d] = ['^', d] := rfl
    have htwo : utf8Len (codes [d]) = 2 :=
      utf8Len_codes fun c hc => hdigits c (List.mem_append_right _ hc)
    have hcodes : codes (before ++ [d]) = codes before ++ codes [d] := List.flatMap_append
    have hlen : utf8Len (codes before ++ codes [d]) = utf8Len (codes before) + 2 := by
      rw [utf8Len_append, htwo]
    have hslice := slice_append (codes before) (codes [d]) u
    have hfrom := sliceFrom_append (codes before ++ codes [d]) u
    have hlast : lastCode (before ++ [d]) = codes [d] := by
      rw [lastCode, List.getLast?_append_of_ne_nil _ (List.cons_ne_nil d []), hcode]
      rfl
    rw [htwo] at hslice
    rw [hlen] at hfrom
    rw [hcodes, hlen, hlast]
    simp only [Option.bind_eq_bind, Option.bind_some, if_pos (Nat.succ_pos _), Nat.add_sub_cancel,
      hslice, hfrom]
    rfl

/-! ## One step of the iterator -/

/-- The search stops at the first code; the characters before it are text. -/
theorem findCode_spec (pre t : Str) :
    ∃ head rest, t = head ++ rest ∧
      scanColors t = head.map .text ++ scanColors rest ∧
      (rest = [] ∨ isColorCode rest = true) ∧
      (findCode (pre ++ t) ((charIndices (utf8Len pre) t).map Prod.fst)).map
        (fun offset => offset.getD (utf8Len (pre ++ t))) = some (utf8Len pre + utf8Len head) := by
  induction t generalizing pre with
  | nil =>
    refine ⟨[], [], rfl, rfl, Or.inl rfl, ?_⟩
    rw [List.append_nil]
    rfl
  | cons c t ih =>
    have hslice := sliceFrom_append pre (c :: t)
    rw [charIndices, List.map_cons, findCode, hslice]
    by_cases hcode : isColorCode (c :: t) = true
    · refine ⟨[], c :: t, rfl, rfl, Or.inr hcode, ?_⟩
      simp only [Option.bind_eq_bind, Option.bind_some, if_pos hcode]
      rfl
    · obtain ⟨head, rest, rfl, hscan, hrest, hfind⟩ := ih (pre ++ [c])
      refine ⟨c :: head, rest, rfl, ?_, hrest, ?_⟩
      · rw [scanColors_text (Bool.eq_false_iff.mpr hcode), hscan]
        rfl
      · have hpre : utf8Len (pre ++ [c]) = utf8Len pre + c.utf8Size := by
          rw [utf8Len_append]
          rfl
        rw [List.append_assoc, hpre, Nat.add_assoc] at hfind
        simp only [Option.bind_eq_bind, Option.bind_some, if_neg hcode]
        exact hfind

/-- A maximal run of codes, and the text up to the next one. -/
structure ColorRun where
  digits : List Char
  text : Str
deriving DecidableEq, Repr

namespace ColorRun

def tokens (run : ColorRun) : List ColorToken := run.digits.map .code ++ run.text.map .text

/-- The characters of a run in the text it was read from. -/
def source (run : ColorRun) : Str := codes run.digits ++ run.text

/-- The last code of a run, and its text. -/
def part (run : ColorRun) : Str × Str := (lastCode run.digits, run.text)

theorem source_pos {run : ColorRun} (h : run.text = [] → run.digits ≠ []) :
    0 < utf8Len run.source := by
  refine Nat.pos_of_ne_zero fun hzero => ?_
  obtain ⟨hcodes, htext⟩ := List.append_eq_nil_iff.mp (eq_nil_of_utf8Len hzero)
  apply h htext
  cases hdigits : run.digits with
  | nil => rfl
  | cons d digits =>
    rw [hdigits] at hcodes
    cases hcodes

end ColorRun

namespace ColorIter

/-- A step returns the run at the start of the text. -/
theorem next_spec {inner : Str} (h : inner ≠ []) :
    ∃ (run : ColorRun) (rest : Str), inner = run.source ++ rest ∧
      scanColors inner = run.tokens ++ scanColors rest ∧
      (rest = [] ∨ isColorCode rest = true) ∧
      (isColorCode inner = true → run.digits ≠ []) ∧
      (run.text = [] → run.digits ≠ [] ∧ rest = []) ∧
      next inner = some (some run.part, rest) := by
  obtain ⟨digits, u, rfl, hdigits, hu, htrim⟩ := trimStartColor_spec inner
  obtain ⟨head, rest, rfl, hscan, hrest, hfind⟩ := findCode_spec [] u
  refine ⟨⟨digits, head⟩, rest, (List.append_assoc _ _ _).symm, ?_, hrest, ?_, ?_, ?_⟩
  · rw [scanColors_codes hdigits, hscan]
    exact (List.append_assoc _ _ _).symm
  · rintro hcode rfl
    rw [show codes [] ++ (head ++ rest) = head ++ rest from rfl, hu] at hcode
    cases hcode
  · rintro rfl
    -- A text without a first character has no code to stop at.
    have hnil : rest = [] := hrest.resolve_right (Bool.eq_false_iff.mp hu)
    subst hnil
    refine ⟨?_, rfl⟩
    rintro rfl
    exact h rfl
  · obtain ⟨offset, hoffset, hlen⟩ := Option.map_eq_some_iff.mp hfind
    have hsplit := splitAt_append head rest
    rw [List.nil_append, utf8Len_nil, Nat.zero_add] at hlen
    rw [List.nil_append, utf8Len_nil] at hoffset
    have hempty : (codes digits ++ (head ++ rest)).isEmpty = false := by
      rw [List.isEmpty_eq_false_iff]
      exact h
    rw [next, hempty, if_neg Bool.false_ne_true, htrim]
    simp only [Option.bind_eq_bind, Option.bind_some, hoffset, hlen, hsplit]
    rfl

/-- A step that returns a part leaves a shorter text. -/
theorem next_shorter {inner rest : Str} {part : Str × Str}
    (h : next inner = some (some part, rest)) : utf8Len rest < utf8Len inner := by
  by_cases hinner : inner = []
  · subst hinner
    cases h
  · obtain ⟨run, rest', heq, -, -, -, hempty, hnext⟩ := next_spec hinner
    rw [h] at hnext
    cases hnext
    have hpos := ColorRun.source_pos fun htext => (hempty htext).1
    rw [heq, utf8Len_append]
    omega

/-- All the parts of a text. -/
def collect (inner : Str) : Option (List (Str × Str)) :=
  match _h : next inner with
  | none => none
  | some (none, _) => some []
  | some (some part, rest) => (collect rest).map (part :: ·)
termination_by utf8Len inner
decreasing_by exact next_shorter _h

end ColorIter

/-- A text that is borrowed from the argument, or a new one. -/
inductive Cow
  | borrowed (s : Str)
  | owned (s : Str)
deriving DecidableEq, Repr

def Cow.text : Cow → Str
  | borrowed s => s
  | owned s => s

/-- Cut all the codes out of a text. -/
def trimColor (s : Str) : Option Cow := do
  let (_, s) ← trimStartColor s
  if !s.any (· == '^') then return .borrowed s
  let parts ← ColorIter.collect s
  return .owned (parts.foldl (fun out part => out ++ part.2) [])

/-! ## The parts of a text -/

/-- The characters that a pass keeps. -/
def ColorToken.kept : ColorToken → Str
  | code _ => []
  | text c => [c]

theorem kept_codes (digits : List Char) :
    (digits.map ColorToken.code).flatMap ColorToken.kept = [] := by
  induction digits with
  | nil => rfl
  | cons d digits ih => exact ih

theorem kept_text (text : Str) : (text.map ColorToken.text).flatMap ColorToken.kept = text := by
  induction text with
  | nil => rfl
  | cons c text ih => exact congrArg (c :: ·) ih

/-- A text without its codes. -/
def stripColors (s : Str) : Str := (scanColors s).flatMap ColorToken.kept

/-- The runs of one pass: each but the first has codes, and each but the last has a text. -/
structure IsRuns (s : Str) (runs : List ColorRun) : Prop where
  scan : scanColors s = runs.flatMap ColorRun.tokens
  coded : ∀ run ∈ runs.tail, run.digits ≠ []
  texted : ∀ run ∈ runs.dropLast, run.text ≠ []
  filled : ∀ run ∈ runs, run.text = [] → run.digits ≠ []

namespace IsRuns

/-- The kept characters are the texts of the runs. -/
theorem stripColors_eq {s : Str} {runs : List ColorRun} (h : IsRuns s runs) :
    stripColors s = runs.flatMap ColorRun.text := by
  rw [stripColors, h.scan, List.flatMap_assoc]
  congr 1
  funext run
  rw [ColorRun.tokens, List.flatMap_append, kept_codes, kept_text, List.nil_append]

/-- A run in front of others that start with codes. -/
theorem cons {s rest : Str} {run : ColorRun} {runs : List ColorRun} (h : IsRuns rest runs)
    (hscan : scanColors s = run.tokens ++ scanColors rest)
    (hcoded : ∀ r ∈ runs, r.digits ≠ [])
    (hlast : run.text = [] → run.digits ≠ [] ∧ runs = []) : IsRuns s (run :: runs) where
  scan := by rw [hscan, h.scan, List.flatMap_cons]
  coded := hcoded
  texted := by
    intro r hr
    cases runs with
    | nil => cases hr
    | cons next runs =>
      rw [List.dropLast_cons_cons] at hr
      rcases List.mem_cons.mp hr with rfl | hr
      · intro hempty
        cases (hlast hempty).2
      · exact h.texted r hr
  filled := by
    intro r hr
    rcases List.mem_cons.mp hr with rfl | hr
    · exact fun hempty => (hlast hempty).1
    · exact h.filled r hr

end IsRuns

namespace ColorIter

theorem collect_nil : collect [] = some [] := by
  rw [collect]
  rfl

theorem collect_cons {inner rest : Str} {part : Str × Str}
    (h : next inner = some (some part, rest)) :
    collect inner = (collect rest).map (part :: ·) := by
  rw [collect]
  split
  · next hnext =>
    rw [h] at hnext
    cases hnext
  · next hnext =>
    rw [h] at hnext
    cases hnext
  · next hnext =>
    rw [h] at hnext
    cases hnext
    rfl

/-- The iterator ends, and its parts are the runs of one pass. -/
theorem collect_spec (s : Str) : ∃ runs, IsRuns s runs ∧
    collect s = some (runs.map ColorRun.part) ∧ (s = [] → runs = []) ∧
    (isColorCode s = true → ∀ run ∈ runs, run.digits ≠ []) := by
  induction hn : utf8Len s using Nat.strong_induction_on generalizing s with
  | h n ih =>
    by_cases hs : s = []
    · subst hs
      exact ⟨[], ⟨rfl, nofun, nofun, nofun⟩, collect_nil, fun _ => rfl, nofun⟩
    · obtain ⟨run, rest, -, hscan, hrest, hcode, hempty, hnext⟩ := next_spec hs
      have hshorter : utf8Len rest < n := hn ▸ next_shorter hnext
      obtain ⟨runs, hruns, hcollect, hnil, hcoded⟩ := ih _ hshorter rest rfl
      have hall : ∀ r ∈ runs, r.digits ≠ [] := by
        rcases hrest with rfl | hrest
        · rw [hnil rfl]
          exact nofun
        · exact hcoded hrest
      have hlast (htext : run.text = []) : run.digits ≠ [] ∧ runs = [] :=
        ⟨(hempty htext).1, hnil (hempty htext).2⟩
      refine ⟨run :: runs, hruns.cons hscan hall hlast, ?_, fun h => absurd h hs, ?_⟩
      · rw [collect_cons hnext, hcollect]
        rfl
      · intro hs'
        exact List.forall_mem_cons.mpr ⟨hcode hs', hall⟩

end ColorIter

/-- A text without carets has no codes. -/
theorem stripColors_of_no_caret {s : Str} (h : '^' ∉ s) : stripColors s = s := by
  induction s with
  | nil => rfl
  | cons c s ih =>
    have hcode : isColorCode (c :: s) = false := by
      rw [Bool.eq_false_iff]
      intro hcode
      obtain ⟨d, t, heq, -⟩ := isColorCode_iff.mp hcode
      rw [heq] at h
      exact h List.mem_cons_self
    have hrest := ih fun hs => h (List.mem_cons_of_mem c hs)
    rw [stripColors, scanColors_text hcode]
    exact congrArg (c :: ·) hrest

/-- Codes in front of a text are not kept. -/
theorem stripColors_codes {digits : List Char} (h : ∀ d ∈ digits, d.isDigit = true) (s : Str) :
    stripColors (codes digits ++ s) = stripColors s := by
  rw [stripColors, scanColors_codes h, List.flatMap_append, kept_codes]
  rfl

/-- The loop of `trim_color` over the parts. -/
theorem foldl_parts (parts : List (Str × Str)) (out : Str) :
    parts.foldl (fun out part => out ++ part.2) out = out ++ parts.flatMap Prod.snd := by
  induction parts generalizing out with
  | nil => exact (List.append_nil out).symm
  | cons part parts ih => rw [List.foldl_cons, ih, List.flatMap_cons, List.append_assoc]

/-- Both paths of `trim_color` return the text without its codes. -/
theorem trimColor_spec (s : Str) : ∃ t, trimColor s = some t ∧ t.text = stripColors s := by
  obtain ⟨digits, u, rfl, hdigits, -, htrim⟩ := trimStartColor_spec s
  rw [stripColors_codes hdigits, trimColor, htrim]
  by_cases hany : u.any (· == '^') = true
  · obtain ⟨runs, hruns, hcollect, -, -⟩ := ColorIter.collect_spec u
    refine ⟨.owned (runs.flatMap ColorRun.text), ?_, hruns.stripColors_eq.symm⟩
    simp only [Option.bind_eq_bind, Option.bind_some, hany, hcollect, foldl_parts,
      List.flatMap_map]
    rfl
  · refine ⟨.borrowed u, ?_, ?_⟩
    · simp only [Option.bind_eq_bind, Option.bind_some, Bool.eq_false_iff.mpr hany]
      rfl
    · refine (stripColors_of_no_caret fun hcaret => hany ?_).symm
      exact List.any_eq_true.mpr ⟨'^', hcaret, rfl⟩

/-- The iterator ends and no slice fails; its parts are the runs of one left-to-right pass, each
with the last of the codes in front of it, and `trim_color` is the text of them all. -/
theorem color_parts (s : Str) : ∃ parts runs,
    ColorIter.collect s = some parts ∧
    IsRuns s runs ∧ parts = runs.map ColorRun.part ∧
    parts.flatMap Prod.snd = stripColors s ∧
    ∃ t, trimColor s = some t ∧ t.text = parts.flatMap Prod.snd := by
  obtain ⟨runs, hruns, hcollect, -, -⟩ := ColorIter.collect_spec s
  obtain ⟨t, htrim, ht⟩ := trimColor_spec s
  have htext : (runs.map ColorRun.part).flatMap Prod.snd = stripColors s := by
    rw [hruns.stripColors_eq, List.flatMap_map]
    rfl
  exact ⟨_, runs, hcollect, hruns, rfl, htext, t, htrim, ht.trans htext.symm⟩

end Xash3d
