import Xash3d.Protocol.BrokerRoundTrip

/-!
# The arguments of a command

`Args::try_next` skips spaces and takes the bytes up to the next one. `take_while` fails, and moves
nothing, when every byte that is left is taken: so spaces at the end of a payload are not skipped,
and an empty argument is found in front of them, again and again. `args_tokens_iff` says that this
is the only way in which the arguments are not the runs between the spaces.
-/

namespace Xash3d.Broker

open Lib

namespace Args

/-- The results of a number of calls. -/
def results : ℕ → Cursor → List (Except CursorError (Option Bytes))
  | 0, _ => []
  | n + 1, c => (tryNext c).1 :: results n (tryNext c).2

/-- The maximal runs of bytes other than spaces, in order. -/
def tokens (s : Bytes) : List Bytes := (s.splitOn 32).filter fun run => !run.isEmpty

/-- The calls yield the runs, and nothing from then on. -/
def Tokenizes (s : Bytes) : Prop := ∀ n, results ((tokens s).length + n) (.new s) =
  (tokens s).map (fun run => .ok (some run)) ++ List.replicate n (.ok none)

/-! ## Runs -/

theorem tokens_space (s : Bytes) : tokens (32 :: s) = tokens s := by
  have hcut : ([] ++ 32 :: s).splitOn (32 : UInt8) = [] :: s.splitOn 32 :=
    List.splitOn_append_cons_self_of_not_mem (List.not_mem_nil) s
  unfold tokens
  rw [List.nil_append] at hcut
  rw [hcut, List.filter_cons, if_neg (by simp)]

/-- Spaces in front are between runs. -/
theorem tokens_spaces {sp : Bytes} (h : ∀ b ∈ sp, b = 32) (s : Bytes) :
    tokens (sp ++ s) = tokens s := by
  induction sp with
  | nil => rfl
  | cons b sp ih =>
    rw [h b List.mem_cons_self, List.cons_append, tokens_space]
    exact ih fun b hb => h b (List.mem_cons_of_mem _ hb)

/-- A run ends at a space, or with the payload. -/
theorem tokens_arg {s t : Bytes} (hs : IsArg s) (ht : t = [] ∨ ∃ u, t = 32 :: u) :
    tokens (s ++ t) = s :: tokens t := by
  have hkeep : (!s.isEmpty) = true := by simpa using hs.1
  unfold tokens
  rcases ht with rfl | ⟨u, rfl⟩
  · have hnil : ([] : Bytes).splitOn (32 : UInt8) = [[]] := List.splitOn_eq_singleton List.not_mem_nil
    rw [List.append_nil, List.splitOn_eq_singleton hs.2, List.filter_cons, if_pos hkeep, hnil]
    rfl
  · have hrest : tokens (32 :: u) = tokens u := tokens_space u
    unfold tokens at hrest
    rw [List.splitOn_append_cons_self_of_not_mem hs.2, List.filter_cons, if_pos hkeep, hrest]

/-- Every payload is spaces, or has a first run behind some spaces. -/
theorem run_cases (s : Bytes) : (∀ b ∈ s, b = 32) ∨ ∃ sp a t, s = sp ++ (a ++ t) ∧
    (∀ b ∈ sp, b = 32) ∧ IsArg a ∧ (t = [] ∨ ∃ u, t = 32 :: u) := by
  set rest := s.dropWhile fun b => b == 32 with hrest
  have hs : s = (s.takeWhile fun b => b == 32) ++ rest := List.takeWhile_append_dropWhile.symm
  have hsp : ∀ b ∈ s.takeWhile fun b => b == 32, b = 32 := fun b hb =>
    eq_of_beq (List.mem_takeWhile_imp (p := fun b => b == 32) hb)
  cases h : rest with
  | nil =>
    rw [h, List.append_nil] at hs
    rw [hs]
    exact Or.inl hsp
  | cons x r =>
    have hx : x ≠ 32 := by
      have hnot := List.head?_dropWhile_not (fun b => b == 32) s
      rw [← hrest, h] at hnot
      simpa using hnot
    refine Or.inr ⟨_, x :: r.takeWhile fun b => b != 32, r.dropWhile fun b => b != 32, ?_, hsp,
      ⟨List.cons_ne_nil _ _, ?_⟩, ?_⟩
    · rw [List.cons_append, List.takeWhile_append_dropWhile, ← h]
      exact hs
    · rw [List.mem_cons, not_or]
      refine ⟨hx.symm, fun hmem => ?_⟩
      have hne := List.mem_takeWhile_imp (p := fun b => b != 32) hmem
      simp at hne
    · cases ht : r.dropWhile fun b => b != 32 with
      | nil => exact Or.inl rfl
      | cons y u =>
        have hnot := List.head?_dropWhile_not (fun b => b != 32) r
        rw [ht] at hnot
        have hy : y = 32 := by simpa using hnot
        exact Or.inr ⟨u, by rw [hy]⟩

/-! ## Calls -/

theorem tryNext_end (pre : Bytes) : tryNext (.after pre []) = (.ok none, .after pre []) := by
  unfold tryNext
  rw [Cursor.takeWhile_none pre [] (fun b hb => absurd hb List.not_mem_nil)]
  dsimp only
  rw [if_neg (by simp)]

/-- Spaces at the end are not skipped, and nothing is taken in front of them. -/
theorem tryNext_spaces (pre : Bytes) {sp : Bytes} (h : ∀ b ∈ sp, b = 32) (hne : sp ≠ []) :
    tryNext (.after pre sp) = (.ok (some []), .after pre sp) := by
  obtain ⟨b, sp', rfl⟩ := List.exists_cons_of_ne_nil hne
  obtain rfl : b = 32 := h b List.mem_cons_self
  have hskip : Cursor.takeWhile (fun b => b == 32) (.after pre (32 :: sp')) =
      (.error (.needMoreBytes 1), .after pre (32 :: sp')) := by
    apply Cursor.takeWhile_none
    intro b hb
    rw [h b hb]
    rfl
  have htake : Cursor.takeWhile (fun b => b != 32) (.after pre ([] ++ 32 :: sp')) =
      (.ok [], .after (pre ++ []) (32 :: sp')) :=
    Cursor.takeWhile_after pre [] sp' (fun b hb => absurd hb List.not_mem_nil) rfl
  rw [List.nil_append, List.append_nil] at htake
  unfold tryNext
  rw [hskip]
  dsimp only
  rw [if_pos (by simp), htake]

/-- A call that moves nothing is repeated for ever. -/
theorem results_stuck {c : Cursor} {o : Option Bytes} (h : tryNext c = (.ok o, c)) (n : ℕ) :
    results n c = List.replicate n (.ok o) := by
  induction n with
  | zero => rfl
  | succ n ih => rw [results, h, ih, List.replicate_succ]

/-- After the runs nothing is found, unless there is a space at the end. -/
theorem results_tokens (n : ℕ) (pre s : Bytes) : results ((tokens s).length + n) (.after pre s) =
    (tokens s).map (fun run => .ok (some run)) ++
      List.replicate n (.ok (if s.getLast? = some 32 then some [] else none)) := by
  induction hlen : s.length using Nat.strong_induction_on generalizing pre s with
  | _ m ih =>
    rcases run_cases s with hsp | ⟨sp, a, t, rfl, hsp, ha, ht⟩
    · have hnone : tokens s = [] := by
        have htokens := tokens_spaces hsp []
        rwa [List.append_nil] at htokens
      rw [hnone, List.length_nil, Nat.zero_add, List.map_nil, List.nil_append]
      by_cases hne : s = []
      · subst hne
        exact results_stuck (tryNext_end pre) n
      · have hlast : s.getLast? = some 32 := by
          rw [List.getLast?_eq_some_getLast hne, hsp _ (List.getLast_mem hne)]
        rw [if_pos hlast]
        exact results_stuck (tryNext_spaces pre hsp hne) n
    · have hshorter : t.length < m := by
        have hpos := List.length_pos_of_ne_nil ha.1
        rw [← hlen, List.length_append, List.length_append]
        omega
      have hlast : (sp ++ (a ++ t)).getLast? = some 32 ↔ t.getLast? = some 32 := by
        rcases ht with rfl | ⟨u, rfl⟩
        · have hmem : a.getLast? ≠ some 32 := fun h => ha.2 (List.mem_of_getLast? h)
          rw [List.append_nil, List.getLast?_append_of_ne_nil _ ha.1]
          exact iff_of_false hmem (by simp)
        · rw [List.getLast?_append_of_ne_nil _ (by simp),
            List.getLast?_append_of_ne_nil _ (List.cons_ne_nil 32 u)]
      have hrest := ih t.length hshorter (pre ++ sp ++ a) t rfl
      simp only [tokens_spaces hsp, tokens_arg ha ht, hlast]
      rw [List.length_cons, Nat.add_right_comm, results, tryNext_arg hsp ha ht, hrest]
      rfl

end Args

open Args

/-- The arguments of a payload are its runs of bytes other than spaces exactly where no space is at
its end. -/
theorem args_tokens_iff (s : Bytes) : Tokenizes s ↔ s.getLast? ≠ some 32 := by
  have hresults := fun n => results_tokens n [] s
  unfold Tokenizes
  rw [show Cursor.new s = .after [] s from rfl]
  constructor
  · intro h hlast
    have hone := (hresults 1).symm.trans (h 1)
    rw [if_pos hlast] at hone
    have hnone := List.append_cancel_left hone
    cases hnone
  · intro hlast n
    rw [hresults n, if_neg hlast]

/-- A payload of one space has an empty argument. -/
theorem args_empty : ¬ ∀ s, Tokenizes s := by
  intro h
  have hlast : [(32 : UInt8)].getLast? = some 32 := rfl
  have hone := (results_tokens 1 [] [32]).symm.trans (h [32] 1)
  rw [if_pos hlast] at hone
  cases List.append_cancel_left hone

end Xash3d.Broker
