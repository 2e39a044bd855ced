import Xash3d.Protocol.Text

/-!
# The iterator of a map string

What `MapIter::next` returns, call after call. The pieces between the backslashes are the keys and
the values (`map_iter_pieces`), and the iterator comes to an end unless a key is left without a
value: then it returns the same error for ever (`map_iter_ends_iff`).
-/

namespace Xash3d

open Lib

namespace MapIter

/-- Create the iterator of a C string, which has its terminator. -/
def fromCstr (s : Bytes) : Except ProtocolError MapIter :=
  match Cursor.toBytes s with
  | [] => .ok ⟨[]⟩
  | c :: bytes => if c = 92 then .ok ⟨bytes⟩ else .error .invalidMap

/-- The results of a number of calls. -/
def results : ℕ → MapIter → List (Option (Except InvalidKeyError (Bytes × Bytes)))
  | 0, _ => []
  | n + 1, it => it.next.1 :: results n it.next.2

/-- The pairs of consecutive pieces. -/
def pairUp : List Bytes → List (Bytes × Bytes)
  | k :: v :: pieces => (k, v) :: pairUp pieces
  | _ => []

/-- What follows the pairs: a key without a value is an error, an empty one is the end. -/
def ending : List Bytes → Option (Except InvalidKeyError (Bytes × Bytes))
  | _ :: _ :: pieces => ending pieces
  | [p] => if p = [] then none else some (.error .mk)
  | [] => none

/-! ## Calls -/

/-- The error does not move the iterator. -/
theorem next_dangling {k : Bytes} (hne : k ≠ []) (hk : (92 : UInt8) ∉ k) :
    next ⟨k⟩ = (some (.error .mk), ⟨k⟩) := by
  have hidx : k.findIdx? (· == 92) = none := findIdx?_of_not_mem hk
  unfold next
  rw [if_neg (by simpa using hne), hidx]

/-! ## Pieces -/

/-- A byte string is one piece, or has a first one. -/
theorem cut_cases (s : Bytes) : (92 : UInt8) ∉ s ∨ ∃ k t, (92 : UInt8) ∉ k ∧ s = k ++ 92 :: t := by
  by_cases h : (92 : UInt8) ∈ s
  · obtain ⟨k, t, hs, hk⟩ := List.eq_append_cons_of_mem h
    exact Or.inr ⟨k, t, hk, hs⟩
  · exact Or.inl h

theorem splitOn_cut {k : Bytes} (hk : (92 : UInt8) ∉ k) (t : Bytes) :
    (k ++ 92 :: t).splitOn 92 = k :: t.splitOn 92 := List.splitOn_append_cons_self_of_not_mem hk t

/-- There is a piece more than there are backslashes. -/
theorem length_splitOn (s : Bytes) : (s.splitOn 92).length = s.count 92 + 1 := by
  induction hn : s.length using Nat.strong_induction_on generalizing s with
  | _ n ih =>
    rcases cut_cases s with hs | ⟨k, t, hk, rfl⟩
    · rw [List.splitOn_eq_singleton hs, List.count_eq_zero.2 hs]
      rfl
    · have hlt : t.length < n := by
        rw [← hn]
        simp
        omega
      rw [splitOn_cut hk, List.length_cons, ih _ hlt t rfl, List.count_append, List.count_cons_self,
        List.count_eq_zero.2 hk, Nat.zero_add]

/-- The last piece is empty if nothing follows the last backslash. -/
theorem getLast?_splitOn (s : Bytes) :
    (s.splitOn 92).getLast? = some [] ↔ s = [] ∨ s.getLast? = some 92 := by
  induction hn : s.length using Nat.strong_induction_on generalizing s with
  | _ n ih =>
    rcases cut_cases s with hs | ⟨k, t, hk, rfl⟩
    · rw [List.splitOn_eq_singleton hs, List.getLast?_singleton, Option.some.injEq]
      refine (or_iff_left ?_).symm
      intro hlast
      exact hs (List.mem_of_getLast? hlast)
    · have hlt : t.length < n := by
        rw [← hn]
        simp
        omega
      have hne : k ++ 92 :: t ≠ [] := by simp
      obtain ⟨p, ps, hps⟩ := List.exists_cons_of_ne_nil (List.splitOn_ne_nil 92 t)
      rw [splitOn_cut hk, hps, List.getLast?_cons_cons, ← hps, ih _ hlt t rfl, or_iff_right hne,
        List.getLast?_append_cons]
      cases t with
      | nil => simp
      | cons c t => rw [List.getLast?_cons_cons, or_iff_right (List.cons_ne_nil c t)]

theorem ending_eq (ps : List Bytes) :
    ending ps = if Even ps.length ∨ ps.getLast? = some [] then none else some (.error .mk) := by
  match ps with
  | [] => simp [ending]
  | [p] =>
    have hodd : ¬ Even 1 := by decide
    simp [ending, hodd]
  | k :: v :: ps =>
    have heven : Even (k :: v :: ps).length ↔ Even ps.length := by
      rw [List.length_cons, List.length_cons, Nat.even_add_one, Nat.even_add_one, not_not]
    rw [ending, ending_eq ps]
    simp only [heven]
    cases ps with
    | nil => rw [if_pos (Or.inl ⟨0, rfl⟩), if_pos (Or.inl ⟨0, rfl⟩)]
    | cons p ps => rw [List.getLast?_cons_cons, List.getLast?_cons_cons]

/-- The pairs of pieces are returned one after another. -/
theorem results_pieces (s : Bytes) : results ((pairUp (s.splitOn 92)).length + 1) ⟨s⟩ =
    (pairUp (s.splitOn 92)).map (fun kv => some (.ok kv)) ++ [ending (s.splitOn 92)] := by
  induction hn : s.length using Nat.strong_induction_on generalizing s with
  | _ n ih =>
    rcases cut_cases s with hs | ⟨k, t, hk, rfl⟩
    · rw [List.splitOn_eq_singleton hs]
      by_cases hne : s = []
      · rw [hne]
        rfl
      · have hnext := next_dangling hne hs
        simp only [pairUp, ending, results, if_neg hne, hnext]
        rfl
    · rcases cut_cases t with ht | ⟨v, u, hv, rfl⟩
      · rw [splitOn_cut hk, List.splitOn_eq_singleton ht]
        have hnext := next_last hk ht
        simp only [pairUp, ending, results, hnext]
        rfl
      · have hlt : u.length < n := by
          rw [← hn]
          simp
          omega
        have hnext := next_more hk hv u
        rw [splitOn_cut hk, splitOn_cut hv, pairUp, ending, List.length_cons, results, hnext,
          List.map_cons, List.cons_append]
        exact congrArg _ (ih _ hlt u rfl)

/-- The pairs of a written map string come back, and no more: its pieces are its keys and values. -/
theorem splitOn_pairs {kvs : List (Bytes × Bytes)}
    (h : ∀ kv ∈ kvs, (92 : UInt8) ∉ kv.1 ∧ (92 : UInt8) ∉ kv.2) :
    pairUp ((pairs kvs).tail.splitOn 92) = kvs ∧ ending ((pairs kvs).tail.splitOn 92) = none := by
  induction kvs with
  | nil => exact ⟨rfl, rfl⟩
  | cons kv kvs ih =>
    obtain ⟨hk, hv⟩ := h kv List.mem_cons_self
    have hcut : (pairs (kv :: kvs)).tail.splitOn 92 =
        kv.1 :: kv.2 :: if kvs = [] then [] else (pairs kvs).tail.splitOn 92 := by
      cases kvs with
      | nil =>
        rw [pairs_cons, pairs_nil, List.append_nil, List.tail_cons, splitOn_cut hk,
          List.splitOn_eq_singleton hv]
        rfl
      | cons kv' kvs =>
        have hjoin : (pairs (kv :: kv' :: kvs)).tail =
            kv.1 ++ 92 :: (kv.2 ++ 92 :: (pairs (kv' :: kvs)).tail) := by simp
        rw [hjoin, splitOn_cut hk, splitOn_cut hv, if_neg (List.cons_ne_nil kv' kvs)]
    obtain ⟨hpairs, hend⟩ := ih fun kv' hkv' => h kv' (List.mem_cons_of_mem kv hkv')
    rw [hcut]
    by_cases hnil : kvs = []
    · rw [if_pos hnil, hnil]
      exact ⟨rfl, rfl⟩
    · rw [if_neg hnil]
      exact ⟨congrArg (List.cons kv) hpairs, hend⟩

end MapIter

/-- The iterator gives back the pairs of a written map string, and of any other string the pairs of
its pieces. It ends after them, or with an error when a key is left. -/
theorem map_iter_pieces :
    (∀ kvs : List (Bytes × Bytes), (∀ kv ∈ kvs, IsMapStr kv.1 ∧ IsMapStr kv.2) →
      ∃ it, MapIter.fromSlice (MapIter.pairs kvs) = .ok it ∧
        it.results (kvs.length + 1) = kvs.map (fun kv => some (.ok kv)) ++ [none]) ∧
    ∀ s : Bytes, (0 : UInt8) ∉ s → ∃ it, MapIter.fromSlice (92 :: s) = .ok it ∧
      it.results ((MapIter.pairUp (s.splitOn 92)).length + 1) =
        (MapIter.pairUp (s.splitOn 92)).map (fun kv => some (.ok kv)) ++
          [if Even (s.splitOn 92).length ∨ (s.splitOn 92).getLast? = some [] then none
            else some (.error .mk)] := by
  constructor
  · intro kvs h
    refine ⟨_, MapIter.fromSlice_pairs fun kv hkv => ⟨(h kv hkv).1.2, (h kv hkv).2.2⟩, ?_⟩
    obtain ⟨hpairs, hend⟩ := MapIter.splitOn_pairs fun kv hkv => ⟨(h kv hkv).1.1, (h kv hkv).2.1⟩
    have hresults := MapIter.results_pieces (MapIter.pairs kvs).tail
    rwa [hpairs, hend] at hresults
  · intro s h0
    have hslice : MapIter.fromSlice (92 :: s) = .ok ⟨s⟩ := by
      unfold MapIter.fromSlice
      dsimp only
      rw [if_pos rfl, if_neg h0]
    refine ⟨⟨s⟩, hslice, ?_⟩
    rw [← MapIter.ending_eq]
    exact MapIter.results_pieces s

/-! ## The end -/

namespace MapIter

/-- An iterator that `from_slice` or `from_cstr` makes of a byte string. -/
def Accepted (src : Bytes) (it : MapIter) : Prop :=
  fromSlice src = .ok it ∨ (0 : UInt8) ∉ src ∧ fromCstr (src ++ [0]) = .ok it

/-- A key is left without a value: the number of backslashes is odd, and something follows the last
one. -/
def Dangling (src : Bytes) : Prop := Odd (src.count 92) ∧ src.getLast? ≠ some 92

instance : DecidablePred Dangling := fun _ => inferInstanceAs (Decidable (_ ∧ _))

/-- The iterator of a string starts behind its first backslash. -/
theorem accepted_cases {src : Bytes} {it : MapIter} (h : Accepted src it) :
    src = [] ∧ it = ⟨[]⟩ ∨ ∃ s, src = 92 :: s ∧ it = ⟨s⟩ := by
  cases src with
  | nil =>
    refine Or.inl ⟨rfl, ?_⟩
    rcases h with h | ⟨-, h⟩
    · cases h
      rfl
    · cases h
      rfl
  | cons c s =>
    refine Or.inr ?_
    rcases h with h | ⟨-, h⟩
    · unfold fromSlice at h
      dsimp only at h
      split_ifs at h with hc h0
      cases h
      exact ⟨s, by rw [hc], rfl⟩
    · unfold fromCstr at h
      rw [Cursor.toBytes, List.dropLast_concat] at h
      dsimp only at h
      split_ifs at h with hc
      cases h
      exact ⟨s, by rw [hc], rfl⟩

theorem ending_none_iff (s : Bytes) :
    ending (s.splitOn 92) = none ↔ ¬ Dangling (92 :: s) := by
  have hlast : (92 :: s).getLast? = some 92 ↔ s = [] ∨ s.getLast? = some 92 := by
    cases s with
    | nil => simp
    | cons c s => rw [List.getLast?_cons_cons, or_iff_right (List.cons_ne_nil c s)]
  have hcount : Even (s.count 92 + 1) ↔ ¬ Odd ((92 :: s).count (92 : UInt8)) := by
    rw [List.count_cons_self, Nat.not_odd_iff_even]
  have hend : ending (s.splitOn 92) = none ↔
      Even (s.splitOn 92).length ∨ (s.splitOn 92).getLast? = some [] := by
    rw [ending_eq]
    split_ifs with h
    · exact iff_of_true rfl h
    · exact iff_of_false nofun h
  rw [hend, length_splitOn, getLast?_splitOn, Dangling, not_and_or, not_ne_iff, hlast, hcount]

theorem length_pairUp_le (ps : List Bytes) : 2 * (pairUp ps).length ≤ ps.length := by
  match ps with
  | [] => simp [pairUp]
  | [p] => simp [pairUp]
  | k :: v :: ps =>
    have := length_pairUp_le ps
    simp only [pairUp, List.length_cons]
    omega

/-- A key that is left is never passed. -/
theorem results_dangling (n : ℕ) : ∀ {s : Bytes}, ending (s.splitOn 92) ≠ none →
    none ∉ results n ⟨s⟩ := by
  induction n with
  | zero => exact fun _ => List.not_mem_nil
  | succ n ih =>
    intro s h
    rw [results, List.mem_cons]
    rcases cut_cases s with hs | ⟨k, t, hk, rfl⟩
    · have hne : s ≠ [] := by
        rintro rfl
        exact h rfl
      rw [next_dangling hne hs]
      exact not_or.2 ⟨nofun, ih h⟩
    · rcases cut_cases t with ht | ⟨v, u, hv, rfl⟩
      · rw [splitOn_cut hk, List.splitOn_eq_singleton ht] at h
        exact absurd rfl h
      · rw [splitOn_cut hk, splitOn_cut hv] at h
        rw [next_more hk hv]
        exact not_or.2 ⟨nofun, ih h⟩

/-- Otherwise the end comes after the pairs. -/
theorem results_ends {s : Bytes} (h : ending (s.splitOn 92) = none) :
    ∃ n ≤ s.count 92 + 2, none ∈ results n ⟨s⟩ := by
  refine ⟨(pairUp (s.splitOn 92)).length + 1, ?_, ?_⟩
  · have hle := length_pairUp_le (s.splitOn 92)
    rw [length_splitOn] at hle
    omega
  · rw [results_pieces, h]
    exact List.mem_append_right _ List.mem_cons_self

end MapIter

/-- The iterator of a byte string reaches its end, within two calls more than there are backslashes,
exactly when no key is left without a value. -/
theorem map_iter_ends_iff (src : Bytes) (it : MapIter) (h : MapIter.Accepted src it) :
    (∃ n ≤ src.count 92 + 2, none ∈ it.results n) ↔ ¬ MapIter.Dangling src := by
  rcases MapIter.accepted_cases h with ⟨rfl, rfl⟩ | ⟨s, rfl, rfl⟩
  · refine iff_of_true ⟨1, by simp, List.mem_cons_self⟩ ?_
    decide
  · rw [← MapIter.ending_none_iff]
    constructor
    · rintro ⟨n, -, hn⟩
      by_contra hend
      exact MapIter.results_dangling n hend hn
    · intro hend
      obtain ⟨n, hle, hn⟩ := MapIter.results_ends hend
      refine ⟨n, hle.trans ?_, hn⟩
      rw [List.count_cons_self]
      omega

theorem map_iter_ends_iff_key :
    ∃ n ≤ (ascii "\\key0\\value0").count 92 + 2,
      none ∈ (MapIter.mk (ascii "key0\\value0")).results n :=
  (map_iter_ends_iff (ascii "\\key0\\value0") _ (Or.inl (by decide +kernel))).2 (by decide +kernel)

/-- The key of the test is left, and returned as an error for ever. -/
theorem map_iter_stuck : ¬ ∀ (src : Bytes) (it : MapIter), MapIter.Accepted src it →
    ∃ n ≤ src.count 92 + 2, none ∈ it.results n := by
  intro h
  obtain ⟨n, -, hn⟩ := h (ascii "\\key0") ⟨ascii "key0"⟩ (Or.inl (by decide +kernel))
  refine MapIter.results_dangling n ?_ hn
  decide +kernel

end Xash3d
