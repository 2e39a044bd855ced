import Xash3d.Lib.Last
import Xash3d.Protocol.InfoRoundTrip
import Xash3d.Protocol.QueryRoundTrip

/-!
# What a filter selects

`Selected S F` says which servers a filter asks for, from the pairs of the two strings: the info
string of the server and the filter string of the client. `filter_selects` is that `Filter.matches`
decides it, over both parsers and the flags derived from a registration.
-/

namespace Xash3d

open Lib

/-! ## The strings -/

/-- The pairs of the info string of a registration packet. -/
def ServerAdd.pairsOf (src : Bytes) : List (Bytes × Bytes) :=
  (MapIter.mk (infoOf src).tail).toList

/-- The pairs of a filter string. -/
def Filter.pairsOf (src : Bytes) : List (Bytes × Bytes) := (MapIter.mk src.tail).toList

/-- The last number of a key, zero where there is none. -/
def numberOf (key : String) (kvs : List (Bytes × Bytes)) : UInt8 :=
  ((lastValue (ascii key) kvs).map fun v => (parseU8 v).toOption.getD 0).getD 0

/-- The last string of a key, empty where there is none. -/
def stringOf (key : String) (kvs : List (Bytes × Bytes)) : Bytes :=
  (lastValue (ascii key) kvs).getD []

/-- What the flag of a filter key says of a server. -/
def Meets (S : List (Bytes × Bytes)) : FilterKey → Prop
  | .dedicated => lastValue (ascii "type") S = some (ascii "d")
  | .secure => lastValue (ascii "secure") S = some (ascii "1")
  | .password => lastValue (ascii "password") S = some (ascii "1")
  | .lan => lastValue (ascii "lan") S = some (ascii "1")
  | .nat => lastValue (ascii "nat") S = some (ascii "1")
  | .bots => numberOf "bots" S ≠ 0
  | .empty | .noplayers => numberOf "players" S = 0
  | .full => numberOf "players" S ≥ numberOf "max" S
  | _ => True

/-- The filter keys of flags. -/
def FilterKey.flagKeys : List FilterKey :=
  [.dedicated, .secure, .password, .empty, .full, .noplayers, .nat, .lan, .bots]

/-- The servers a filter asks for: each of its keys holds of the server, by its last value. -/
def Selected (S F : List (Bytes × Bytes)) : Prop :=
  (∀ k ∈ FilterKey.flagKeys, ∀ v, lastValue (ascii k.name) F = some v →
    (v = ascii "1" ↔ Meets S k)) ∧
  (∀ v, lastValue (ascii "gamedir") F = some v → v = stringOf "gamedir" S) ∧
  (∀ v, lastValue (ascii "map") F = some v → v = stringOf "map" S) ∧
  (lastValue (ascii "protocol") F ≠ none → numberOf "protocol" F = numberOf "protocol" S)

/-! ## The server -/

namespace ServerAdd

variable {src : Bytes} {r : ServerAdd}

/-- The flag of a key. -/
def bit : ServerAddKey → Option ℕ
  | .bots => some 0
  | .password => some 1
  | .secure => some 2
  | .lan => some 3
  | .nat => some 4
  | _ => none

/-- The key of a flag. -/
def bitKey : ℕ → ServerAddKey
  | 0 => .bots
  | 1 => .password
  | 2 => .secure
  | 3 => .lan
  | _ => .nat

theorem bitKey_of_bit {k : ServerAddKey} {n : ℕ} (h : bit k = some n) : bitKey n = k := by
  cases k <;> cases h <;> rfl

theorem parseBool_ok {value : Bytes} {v : Bool} (h : parseBool value = .ok v) :
    v = (value == ascii "1") := by
  unfold parseBool at h
  split_ifs at h with h0 h1
  · cases h
    rw [h0]
    decide
  · cases h
    rw [h1]
    decide

/-- The pair of a key sets its own field only. -/
theorem Sets.frame {k : ServerAddKey} {value : Bytes} {r r' : ServerAdd} (h : Sets k value r r') :
    (k ≠ .players → r'.players = r.players) ∧ (k ≠ .max → r'.max = r.max) ∧
      (k ≠ .protocol → r'.protocol = r.protocol) ∧ (k ≠ .bots → r'.bots = r.bots) ∧
      (k ≠ .gamedir → r'.gamedir = r.gamedir) ∧ (k ≠ .map → r'.map = r.map) ∧
      (k ≠ .type → r'.serverType = r.serverType) ∧
      ∀ i, bit k ≠ some i → r'.flags.has i = r.flags.has i := by
  cases k
  case gamedir | product | map | type | os | version =>
    rw [show r' = _ from h]
    simp
  case protocol | challenge | players | max =>
    obtain ⟨n, -, rfl⟩ := h
    simp
  case region =>
    obtain ⟨n, region, -, -, rfl⟩ := h
    simp
  case bots =>
    obtain ⟨n, -, rfl⟩ := h
    simp only [ne_eq, not_true_eq_false, false_imp_iff, implies_true, true_and]
    intro i hi
    unfold ServerFlags.bots
    rw [Flags.has_set (by decide), if_neg fun he => hi (by rw [he]; rfl)]
  all_goals
    obtain ⟨v, -, rfl⟩ := h
    simp only [ne_eq, implies_true, true_and]
    intro i hi
    exact (Flags.has_set (by decide)).trans (if_neg fun he => hi (by rw [he]; rfl))

/-- A decoded registration is the fold of its pairs. -/
theorem foldlM_pairsOf (h : decode src = .ok r) :
    (pairsOf src).foldlM (fun st kv => visit st kv.1 kv.2) (default, false) = .ok (r, true) :=
  MapIter.foldlM_toList _ (tryFold_of_decode h)

/-- A field is the last value of its key. -/
theorem field_last {α : Type} (get : ServerAdd → α) (key : ServerAddKey) (parse : Bytes → α)
    (hother : ∀ k value r r', k ≠ key → Sets k value r r' → get r' = get r)
    (hkey : ∀ value r r', Sets key value r r' → get r' = parse value) (h : decode src = .ok r) :
    get r = ((lastValue (ascii key.name) (pairsOf src)).map parse).getD (get default) := by
  refine foldlM_last (fun st : ServerAdd × Bool => get st.1) _ parse ?_ ?_ (foldlM_pairsOf h)
  · intro st k value st' hne hvisit
    obtain ⟨known, hset⟩ := visit_ok hvisit
    rcases set_ok hset with ⟨heq, -⟩ | ⟨k', rfl, hsets⟩
    · rw [heq]
    · exact hother k' value _ _ (fun he => hne (by rw [he])) hsets
  · intro st value st' hvisit
    obtain ⟨known, hset⟩ := visit_ok hvisit
    rcases set_ok hset with ⟨-, hnone⟩ | ⟨k', hname, hsets⟩
    · rw [ServerAddKey.ofBytes_name] at hnone
      cases hnone
    · have hkeys := congrArg ServerAddKey.ofBytes hname
      rw [ServerAddKey.ofBytes_name, ServerAddKey.ofBytes_name] at hkeys
      cases hkeys
      exact hkey value _ _ hsets

/-- A number is the last one of its key. -/
theorem number_last (get : ServerAdd → UInt8) (key : ServerAddKey)
    (hother : ∀ k value r r', k ≠ key → Sets k value r r' → get r' = get r)
    (hkey : ∀ value r r', Sets key value r r' → parseU8 value = .ok (get r'))
    (hdefault : get default = 0) (h : decode src = .ok r) :
    get r = numberOf key.name (pairsOf src) := by
  have hlast := field_last get key (fun v => (parseU8 v).toOption.getD 0) hother ?_ h
  · rw [hlast, hdefault]
    rfl
  · intro value r r' hset
    rw [hkey value r r' hset]
    rfl

theorem players_last (h : decode src = .ok r) : r.players = numberOf "players" (pairsOf src) := by
  refine number_last players .players (fun k value r r' hk hset => ?_) ?_ rfl h
  · exact hset.frame.1 hk
  · rintro value r r' ⟨n, hn, rfl⟩
    exact hn

theorem max_last (h : decode src = .ok r) : r.max = numberOf "max" (pairsOf src) := by
  refine number_last max .max (fun k value r r' hk hset => ?_) ?_ rfl h
  · exact hset.frame.2.1 hk
  · rintro value r r' ⟨n, hn, rfl⟩
    exact hn

theorem protocol_last (h : decode src = .ok r) :
    r.protocol = numberOf "protocol" (pairsOf src) := by
  refine number_last protocol .protocol (fun k value r r' hk hset => ?_) ?_ rfl h
  · exact hset.frame.2.2.1 hk
  · rintro value r r' ⟨n, hn, rfl⟩
    exact hn

theorem bots_last (h : decode src = .ok r) : r.bots = numberOf "bots" (pairsOf src) := by
  refine number_last bots .bots (fun k value r r' hk hset => ?_) ?_ rfl h
  · exact hset.frame.2.2.2.1 hk
  · rintro value r r' ⟨n, hn, rfl⟩
    exact hn

theorem gamedir_last (h : decode src = .ok r) : r.gamedir = stringOf "gamedir" (pairsOf src) := by
  have hlast := field_last gamedir .gamedir id
    (fun k value r r' hk hset => hset.frame.2.2.2.2.1 hk) ?_ h
  · rw [hlast, Option.map_id]
    rfl
  · intro value r r' hset
    rw [show r' = _ from hset]
    rfl

theorem map_last (h : decode src = .ok r) : r.map = stringOf "map" (pairsOf src) := by
  have hlast := field_last map .map id
    (fun k value r r' hk hset => hset.frame.2.2.2.2.2.1 hk) ?_ h
  · rw [hlast, Option.map_id]
    rfl
  · intro value r r' hset
    rw [show r' = _ from hset]
    rfl

theorem ofMapStr_eq_dedicated {v : Bytes} : ServerType.ofMapStr v = .dedicated ↔ v = ascii "d" := by
  have hd : ascii "d" = [100] := by decide
  rw [hd]
  rcases v with _ | ⟨c, _ | ⟨d, v⟩⟩
  · simp [ServerType.ofMapStr]
  · rw [List.cons.injEq]
    simp only [ServerType.ofMapStr, ServerType.ofU8, and_true]
    by_cases h : c = 100
    · simp [h]
    · rw [if_neg h]
      split_ifs <;> simp [h]
  · simp [ServerType.ofMapStr]

theorem dedicated_last (h : decode src = .ok r) :
    r.serverType = .dedicated ↔ lastValue (ascii "type") (pairsOf src) = some (ascii "d") := by
  have hlast : r.serverType = ((lastValue (ascii "type") (pairsOf src)).map
      ServerType.ofMapStr).getD .unknown := by
    refine field_last serverType .type _
      (fun k value r r' hk hset => hset.frame.2.2.2.2.2.2.1 hk) ?_ h
    intro value r r' hset
    rw [show r' = _ from hset]
  rw [hlast]
  cases lastValue (ascii "type") (pairsOf src) with
  | none => simp
  | some v => simpa using ofMapStr_eq_dedicated

/-- A flag with a key of its own. -/
theorem flag_last (key : ServerAddKey) {n : ℕ} (hn : bit key = some n)
    (hkey : ∀ value r r', Sets key value r r' → parseBool value = .ok (r'.flags.has n))
    (h : decode src = .ok r) :
    r.flags.has n = true ↔ lastValue (ascii key.name) (pairsOf src) = some (ascii "1") := by
  have hlast := field_last (fun r => r.flags.has n) key (fun v => v == ascii "1") ?_ ?_ h
  · rw [hlast]
    cases lastValue (ascii key.name) (pairsOf src) with
    | none => simp [show (default : ServerAdd).flags = Flags.empty from rfl]
    | some v => simp
  · intro k value r r' hk hset
    refine hset.frame.2.2.2.2.2.2.2 n fun hbit => hk ?_
    rw [← bitKey_of_bit hbit, bitKey_of_bit hn]
  · exact fun value r r' hset => parseBool_ok (hkey value r r' hset)

/-- The flag a registration announces with its value. -/
theorem has_of_sets {flag : ServerFlags} {n : ℕ} {value : Bytes}
    {r r' : ServerAdd} (hn : n < 8) (hflag : flag = .single n)
    (h : ∃ v, parseBool value = .ok v ∧ r' = { r with flags := r.flags.set flag v }) :
    parseBool value = .ok (r'.flags.has n) := by
  obtain ⟨v, hv, rfl⟩ := h
  rw [hv, hflag]
  exact congrArg Except.ok ((Flags.has_set hn).trans (if_pos rfl)).symm

/-- Whether a registration meets a flag of a filter. -/
def meets (r : ServerAdd) : FilterKey → Bool
  | .dedicated => r.serverType == .dedicated
  | .secure => r.flags.has 2
  | .password => r.flags.has 1
  | .lan => r.flags.has 3
  | .nat => r.flags.has 4
  | .bots => r.flags.has 0
  | .empty | .noplayers => r.players == 0
  | .full => r.players ≥ r.max
  | _ => true

/-- A decoded registration meets what its pairs say. -/
theorem meets_iff (h : decode src = .ok r) {k : FilterKey} (hk : k ∈ FilterKey.flagKeys) :
    r.meets k = true ↔ Meets (pairsOf src) k := by
  have hbots : r.flags.has 0 = true ↔ r.bots ≠ 0 := by
    rw [← contains_bots]
    exact (parsed_of_decode h).1.2.2
  cases k
  case dedicated => exact beq_iff_eq.trans (dedicated_last h)
  case secure =>
    exact flag_last .secure rfl (fun _ _ _ hset => has_of_sets (by decide) rfl hset) h
  case password =>
    exact flag_last .password rfl (fun _ _ _ hset => has_of_sets (by decide) rfl hset) h
  case lan =>
    exact flag_last .lan rfl (fun _ _ _ hset => has_of_sets (by decide) rfl hset) h
  case nat =>
    exact flag_last .nat rfl (fun _ _ _ hset => has_of_sets (by decide) rfl hset) h
  case bots =>
    rw [Meets, ← bots_last h]
    exact hbots
  case empty | noplayers =>
    rw [Meets, ← players_last h]
    exact beq_iff_eq
  case full =>
    rw [Meets, ← players_last h, ← max_last h]
    exact decide_eq_true_iff
  all_goals exact absurd hk (by decide)

end ServerAdd

/-- The bit of a filter key. -/
def FilterKey.bit : FilterKey → Option ℕ
  | .dedicated => some 0
  | .secure => some 1
  | .password => some 2
  | .empty => some 3
  | .full => some 4
  | .noplayers => some 5
  | .nat => some 6
  | .lan => some 7
  | .bots => some 8
  | _ => none

/-- The key of a bit. -/
def FilterKey.bitKey : ℕ → FilterKey
  | 0 => .dedicated
  | 1 => .secure
  | 2 => .password
  | 3 => .empty
  | 4 => .full
  | 5 => .noplayers
  | 6 => .nat
  | 7 => .lan
  | _ => .bots

namespace FilterKey

theorem bitKey_of_bit {k : FilterKey} {n : ℕ} (h : k.bit = some n) : bitKey n = k := by
  cases k <;> cases h <;> rfl

theorem bit_bitKey {n : ℕ} (h : n < 9) : (bitKey n).bit = some n ∧ bitKey n ∈ flagKeys := by
  revert n
  decide

theorem exists_bit {k : FilterKey} (h : k ∈ flagKeys) : ∃ n < 9, k.bit = some n := by
  revert k
  decide

end FilterKey

/-- The filter flags of a registration. -/
theorem has_ofServerAdd (r : ServerAdd) {k : FilterKey} {n : ℕ} (h : k.bit = some n) :
    (FilterFlags.ofServerAdd r).has n = r.meets k := by
  unfold FilterFlags.ofServerAdd
  simp only [FilterFlags.dedicated, FilterFlags.secure, FilterFlags.password, FilterFlags.empty,
    FilterFlags.full, FilterFlags.noplayers, FilterFlags.nat, FilterFlags.lan, FilterFlags.bots,
    ServerFlags.secure, ServerFlags.password, ServerFlags.nat, ServerFlags.lan, ServerFlags.bots]
  rw [Flags.has_set (by decide), Flags.has_set (by decide), Flags.has_set (by decide),
    Flags.has_set (by decide), Flags.has_set (by decide), Flags.has_set (by decide),
    Flags.has_set (by decide), Flags.has_set (by decide), Flags.has_set (by decide)]
  have hc : ∀ i < 8, r.flags.contains (.single i) = r.flags.has i :=
    fun i hi => Flags.contains_single hi
  rw [hc 2 (by decide), hc 1 (by decide), hc 4 (by decide), hc 3 (by decide), hc 0 (by decide)]
  cases k <;> cases h <;> rfl

/-! ## The filter -/

namespace Filter

variable {src : Bytes} {f : Filter}

/-- A parsed filter is the fold of its pairs. -/
theorem foldlM_pairsOf (h : fromSlice src = .ok f) :
    (pairsOf src).foldlM (fun f kv => visit f kv.1 kv.2) default = .ok f := by
  unfold fromSlice at h
  cases hit : MapIter.fromSlice src with
  | error e =>
    rw [hit] at h
    cases h
  | ok it =>
    rw [hit] at h
    have hbytes : it = ⟨src.tail⟩ := by
      unfold MapIter.fromSlice at hit
      cases src with
      | nil =>
        cases hit
        rfl
      | cons c s =>
        dsimp only at hit
        split_ifs at hit
        cases hit
        rfl
    rw [pairsOf, ← hbytes]
    exact MapIter.foldlM_toList it h

/-- The effect of the pair of a key on the flags. -/
theorem setKey_bit {f f' : Filter} {k : FilterKey} {value : Bytes} (h : f.setKey k value = .ok f') :
    match k.bit with
    | some n => ∃ v, parseBool value = .ok v ∧ f'.flags = f.flags.set (.single n) v ∧
        f'.flagsMask = f.flagsMask.insert (.single n)
    | none => f'.flags = f.flags ∧ f'.flagsMask = f.flagsMask := by
  cases k
  case gamedir | map | os | arch | branch | commit =>
    cases h
    exact ⟨rfl, rfl⟩
  case protocol | clver | buildnum | key =>
    obtain ⟨a, -, rfl⟩ := parsed_ok h
    exact ⟨rfl, rfl⟩
  all_goals
    obtain ⟨v, hv, rfl⟩ := parsed_ok h
    exact ⟨v, hv, rfl, rfl⟩

/-- A field is the last value of its key. -/
theorem field_last {α : Type} (get : Filter → α) (target : FilterKey) (parse : Bytes → α)
    (hother : ∀ k value f f', k ≠ target → setKey f k value = .ok f' → get f' = get f)
    (hkey : ∀ value f f', setKey f target value = .ok f' → get f' = parse value)
    (h : fromSlice src = .ok f) :
    get f = ((lastValue (ascii target.name) (pairsOf src)).map parse).getD (get default) := by
  refine foldlM_last get _ parse ?_ ?_ (foldlM_pairsOf h)
  · intro f name value f' hne hvisit
    rcases visit_ok hvisit with ⟨rfl, -⟩ | ⟨k, rfl, hset⟩
    · rfl
    · exact hother k value f f' (fun he => hne (by rw [he])) hset
  · intro f value f' hvisit
    rcases visit_ok hvisit with ⟨-, hnone⟩ | ⟨k, hname, hset⟩
    · rw [FilterKey.ofBytes_name] at hnone
      cases hnone
    · have hkeys := congrArg FilterKey.ofBytes hname
      rw [FilterKey.ofBytes_name, FilterKey.ofBytes_name] at hkeys
      cases hkeys
      exact hkey value f f' hset

/-- The pair of a key sets its own field only. -/
theorem setKey_frame {f f' : Filter} {k : FilterKey} {value : Bytes}
    (h : f.setKey k value = .ok f') :
    (k ≠ .gamedir → f'.gamedir = f.gamedir) ∧ (k ≠ .map → f'.map = f.map) ∧
      (k ≠ .protocol → f'.protocol = f.protocol) := by
  cases k
  case gamedir | map | os | arch | branch | commit =>
    cases h
    simp
  case protocol | clver | buildnum | key =>
    obtain ⟨a, -, rfl⟩ := parsed_ok h
    simp
  all_goals
    obtain ⟨v, -, rfl⟩ := parsed_ok h
    exact ⟨fun _ => rfl, fun _ => rfl, fun _ => rfl⟩

/-- A flag is in the mask if its key is there, and set as its last value says. -/
theorem flag_last {k : FilterKey} {n : ℕ} (hn : k.bit = some n) (hlt : n < 9)
    (h : fromSlice src = .ok f) :
    (f.flags.has n, f.flagsMask.has n) =
      ((lastValue (ascii k.name) (pairsOf src)).map fun v => (v == ascii "1", true)).getD
        (false, false) := by
  have hlast := field_last (fun f => (f.flags.has n, f.flagsMask.has n)) k
    (fun v => (v == ascii "1", true)) ?_ ?_ h
  · rw [hlast, show (default : Filter).flags.has n = false from Flags.has_empty,
      show (default : Filter).flagsMask.has n = false from Flags.has_empty]
  · intro k' value f f' hk hset
    have hbit := setKey_bit hset
    cases hm : k'.bit with
    | none =>
      rw [hm] at hbit
      rw [hbit.1, hbit.2]
    | some m =>
      rw [hm] at hbit
      obtain ⟨v, -, hflags, hmask⟩ := hbit
      have hmn : n ≠ m := by
        rintro rfl
        exact hk ((FilterKey.bitKey_of_bit hm).symm.trans (FilterKey.bitKey_of_bit hn))
      have hmlt : m < 16 := by
        cases k' <;> cases hm <;> decide
      rw [hflags, hmask, Flags.has_set hmlt, Flags.has_insert hmlt, if_neg hmn,
        decide_eq_false hmn, Bool.false_or]
  · intro value f f' hset
    have hbit := setKey_bit hset
    rw [hn] at hbit
    obtain ⟨v, hv, hflags, hmask⟩ := hbit
    rw [hflags, hmask, Flags.has_set (by omega), Flags.has_insert (by omega), if_pos rfl,
      decide_eq_true rfl, Bool.true_or, ServerAdd.parseBool_ok hv]

theorem getD_some {α : Type} (x : Option α) : (x.map some).getD none = x := by cases x <;> rfl

theorem gamedir_last (h : fromSlice src = .ok f) :
    f.gamedir = lastValue (ascii "gamedir") (pairsOf src) := by
  have hlast := field_last gamedir .gamedir some
    (fun k value f f' hk hset => (setKey_frame hset).1 hk) ?_ h
  · exact hlast.trans (getD_some _)
  · intro value f f' hset
    cases hset
    rfl

theorem map_last (h : fromSlice src = .ok f) : f.map = lastValue (ascii "map") (pairsOf src) := by
  have hlast := field_last Filter.map .map some
    (fun k value f f' hk hset => (setKey_frame hset).2.1 hk) ?_ h
  · exact hlast.trans (getD_some _)
  · intro value f f' hset
    cases hset
    rfl

/-- The number of the protocol, if its key is there. -/
theorem protocol_last (h : fromSlice src = .ok f) : f.protocol =
    (lastValue (ascii "protocol") (pairsOf src)).map fun _ => numberOf "protocol" (pairsOf src) := by
  have hlast := field_last protocol .protocol (fun v => some ((parseU8 v).toOption.getD 0))
    (fun k value f f' hk hset => (setKey_frame hset).2.2 hk) ?_ h
  · rw [hlast, numberOf]
    show _ = (lastValue (ascii FilterKey.protocol.name) (pairsOf src)).map _
    show _ = (lastValue (ascii FilterKey.protocol.name) (pairsOf src)).map fun _ =>
      ((lastValue (ascii FilterKey.protocol.name) (pairsOf src)).map _).getD 0
    cases lastValue (ascii FilterKey.protocol.name) (pairsOf src) <;> rfl
  · intro value f f' hset
    obtain ⟨n, hn, rfl⟩ := parsed_ok hset
    rw [hn]
    rfl

theorem any_ne {α : Type} [BEq α] [LawfulBEq α] (x : Option α) (a : α) :
    x.any (· != a) = false ↔ ∀ v, x = some v → v = a := by
  cases x <;> simp

/-- A filter matches when no flag of its mask, and no field it has, differs. -/
theorem matches_iff (f : Filter) (info : ServerInfo) : f.matches info = true ↔
    info.flags.inter f.flagsMask = f.flags ∧ (∀ v, f.gamedir = some v → v = info.gamedir) ∧
      (∀ v, f.map = some v → v = info.map) ∧ ∀ v, f.protocol = some v → v = info.protocol := by
  unfold Filter.matches
  rw [Bool.not_eq_true', Bool.or_eq_false_iff, Bool.or_eq_false_iff, Bool.or_eq_false_iff,
    bne_eq_false_iff_eq, and_assoc, and_assoc, any_ne, any_ne, any_ne]

/-- Comparing the masked bits compares the flags of the mask: none is outside of it. -/
theorem inter_eq_iff (hf : f.FlagsValid) (flags : FilterFlags) :
    flags.inter f.flagsMask = f.flags ↔
      ∀ n < 9, f.flagsMask.has n = true → flags.has n = f.flags.has n := by
  obtain ⟨hsub, hall⟩ := hf
  rw [Flags.contains_iff] at hsub hall
  constructor
  · intro h n hn hmask
    rw [← h, Flags.has_inter, hmask, Bool.and_true]
  · intro h
    refine Flags.ext_has fun i hi => ?_
    rw [Flags.has_inter]
    cases hmask : f.flagsMask.has i with
    | true =>
      have hi9 : i < 9 := by
        have := hall i hmask
        rwa [FilterFlags.has_all, decide_eq_true_iff] at this
      rw [h i hi9 hmask, Bool.and_true]
    | false =>
      rw [Bool.and_false]
      refine (Bool.eq_false_iff.2 fun hflag => ?_).symm
      rw [hsub i hflag] at hmask
      cases hmask

end Filter

/-! ## Matching -/

/-- The flags of a server are those a filter asks for, by the last values of its keys. -/
theorem flags_selected {S F : Bytes} {r : ServerAdd} {f : Filter} (hS : ServerAdd.decode S = .ok r)
    (hF : Filter.fromSlice F = .ok f) :
    (FilterFlags.ofServerAdd r).inter f.flagsMask = f.flags ↔
      ∀ k ∈ FilterKey.flagKeys, ∀ v, lastValue (ascii k.name) (Filter.pairsOf F) = some v →
        (v = ascii "1" ↔ Meets (ServerAdd.pairsOf S) k) := by
  rw [Filter.inter_eq_iff (Filter.fromSlice_ok hF).2]
  have hkey : ∀ k ∈ FilterKey.flagKeys, ∀ n < 9, k.bit = some n →
      ((f.flagsMask.has n = true → (FilterFlags.ofServerAdd r).has n = f.flags.has n) ↔
        ∀ v, lastValue (ascii k.name) (Filter.pairsOf F) = some v →
          (v = ascii "1" ↔ Meets (ServerAdd.pairsOf S) k)) := by
    intro k hk n hn hbit
    obtain ⟨hflag, hmask⟩ := Prod.ext_iff.1 (Filter.flag_last hbit hn hF)
    dsimp only at hflag hmask
    rw [has_ofServerAdd r hbit, hflag, hmask]
    cases hlast : lastValue (ascii k.name) (Filter.pairsOf F) with
    | none => simp
    | some v =>
      simp only [Option.map_some, Option.getD_some, forall_const, Option.some.injEq, forall_eq']
      rw [Bool.eq_iff_iff, beq_iff_eq, ServerAdd.meets_iff hS hk]
      exact Iff.comm
  constructor
  · intro h k hk
    obtain ⟨n, hn, hbit⟩ := FilterKey.exists_bit hk
    exact (hkey k hk n hn hbit).1 (h n hn)
  · intro h n hn
    obtain ⟨hbit, hk⟩ := FilterKey.bit_bitKey hn
    exact (hkey _ hk n hn hbit).2 (h _ hk)

/-- The filters the code builds: parsed ones, and those with flags inserted. -/
inductive Filter.Built : Filter → Prop
  | default : Built default
  | fromSlice {src : Bytes} {f : Filter} (h : Filter.fromSlice src = .ok f) : Built f
  | insertFlag {f : Filter} (h : Built f) (flag : FilterFlags) (value : Bool) :
      Built (f.insertFlag flag value)

/-- The flags of a built filter are within its mask. -/
theorem Filter.Built.flags_le {f : Filter} (h : Built f) : f.flagsMask.contains f.flags = true := by
  induction h with
  | default => decide
  | fromSlice h => exact (Filter.fromSlice_ok h).2.1
  | @insertFlag f h flag value ih =>
    rw [Flags.contains_iff] at ih ⊢
    intro i hi
    show (f.flagsMask.insert flag).has i = true
    rw [Flags.has_union]
    change (f.flags.set flag value).has i = true at hi
    cases value with
    | true =>
      rw [Flags.set, if_pos rfl, Flags.has_union, Bool.or_eq_true] at hi
      rcases hi with hi | hi
      · rw [ih i hi, Bool.true_or]
      · rw [hi, Bool.or_true]
    | false =>
      rw [Flags.set, if_neg Bool.false_ne_true, Flags.has_remove, Bool.and_eq_true] at hi
      rw [ih i hi.1, Bool.true_or]

/-- A filter matches exactly the servers it asks for, and compares no flag outside of its mask. -/
theorem filter_selects :
    (∀ (S F : Bytes) (r : ServerAdd) (f : Filter), ServerAdd.decode S = .ok r →
      Filter.fromSlice F = .ok f →
      (f.matches (ServerInfo.new r) = true ↔ Selected (ServerAdd.pairsOf S) (Filter.pairsOf F))) ∧
    ∀ f : Filter, f.Built → f.flagsMask.contains f.flags = true := by
  refine ⟨fun S F r f hS hF => ?_, fun f hf => hf.flags_le⟩
  rw [Filter.matches_iff]
  refine and_congr (flags_selected hS hF) (and_congr ?_ (and_congr ?_ ?_))
  · rw [Filter.gamedir_last hF, ← ServerAdd.gamedir_last hS]
    rfl
  · rw [Filter.map_last hF, ← ServerAdd.map_last hS]
    rfl
  · rw [Filter.protocol_last hF, ← ServerAdd.protocol_last hS]
    cases lastValue (ascii "protocol") (Filter.pairsOf F) with
    | none => simp
    | some v => simp [ServerInfo.new]

end Xash3d
