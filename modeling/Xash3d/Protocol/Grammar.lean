import Xash3d.Protocol.Selection

/-!
# What the key and value parsers accept

`Filter.fromSlice` and `ServerAdd.decode` accept the strings whose known keys have valid values,
the latter with a challenge, and put the last value of each key into its field (`parse_exactly`).
So the order of pairs with distinct keys does not matter, nor do unknown keys.
-/

namespace Xash3d

open Lib

/-- The parse of the last value of a key, if the key is there. -/
def lastOf {α : Type} (key : String) (parse : Bytes → Except CursorError α)
    (kvs : List (Bytes × Bytes)) : Option α :=
  (lastValue (ascii key) kvs).bind fun v => (parse v).toOption

/-- The keys and values of a list break neither a map string nor an info string. -/
def IsPairs (kvs : List (Bytes × Bytes)) : Prop :=
  ∀ kv ∈ kvs, ServerAdd.IsInfoStr kv.1 ∧ ServerAdd.IsInfoStr kv.2

/-- A value that is parsed to something. -/
def Parses {α : Type} (parse : Bytes → Except CursorError α) (value : Bytes) : Prop :=
  ∃ a, parse value = .ok a

theorem parses_bool {value : Bytes} :
    Parses parseBool value ↔ value = ascii "0" ∨ value = ascii "1" := by
  unfold Parses parseBool
  by_cases h0 : value = ascii "0"
  · rw [if_pos h0]
    exact iff_of_true ⟨false, rfl⟩ (Or.inl h0)
  · rw [if_neg h0]
    by_cases h1 : value = ascii "1"
    · rw [if_pos h1]
      exact iff_of_true ⟨true, rfl⟩ (Or.inr h1)
    · rw [if_neg h1]
      exact iff_of_false nofun (not_or.2 ⟨h0, h1⟩)

/-- A flag that does not parse counts as not set. -/
theorem parseBool_getD (value : Bytes) :
    (parseBool value).toOption.getD false = (value == ascii "1") := by
  unfold parseBool
  split_ifs with h0 h1
  · rw [h0]
    decide
  · rw [h1]
    decide
  · rw [Except.toOption, Option.getD_none]
    exact (beq_eq_false_iff_ne.2 h1).symm

/-- A field that is set to a parsed value. -/
theorem parsed_isOk {ε α β : Type} (r : Except ε α) (put : α → β) :
    (∃ b, (do let a ← r; return put a) = Except.ok b) ↔ ∃ a, r = .ok a := by
  cases r with
  | error e => exact iff_of_false (not_ok_error e) (not_ok_error e)
  | ok a => exact iff_of_true ⟨put a, rfl⟩ ⟨a, rfl⟩

/-! ## Filters -/

/-- The values a filter key takes. -/
def FilterKey.Valid (k : FilterKey) (value : Bytes) : Prop :=
  match k with
  | .gamedir | .map | .os | .arch | .branch | .commit => True
  | .protocol => Parses parseU8 value
  | .clver => Parses parseVersion value
  | .buildnum => Parses parseU32 value
  | .key => Parses parseHex32 value
  | _ => value = ascii "0" ∨ value = ascii "1"

namespace Filter

/-- Every known key has a valid value. -/
def Accepts (kvs : List (Bytes × Bytes)) : Prop :=
  ∀ kv ∈ kvs, ∀ k, FilterKey.ofBytes kv.1 = some k → k.Valid kv.2

/-- Every field has the last value of its key, and every flag of a key that is there is in the
mask. -/
structure Reads (kvs : List (Bytes × Bytes)) (f : Filter) : Prop where
  gamedir : f.gamedir = lastOf "gamedir" .ok kvs
  map : f.map = lastOf "map" .ok kvs
  clver : f.clver = lastOf "clver" parseVersion kvs
  protocol : f.protocol = lastOf "protocol" parseU8 kvs
  clientOs : f.clientOs = lastOf "os" .ok kvs
  clientArch : f.clientArch = lastOf "arch" .ok kvs
  clientBranch : f.clientBranch = lastOf "branch" .ok kvs
  clientCommit : f.clientCommit = lastOf "commit" .ok kvs
  clientBuildnum : f.clientBuildnum = lastOf "buildnum" parseU32 kvs
  key : f.key = lastOf "key" parseHex32 kvs
  flags : ∀ (k : FilterKey) n, k.bit = some n → f.flags.has n = (lastOf k.name parseBool kvs).getD false
  flagsMask : ∀ (k : FilterKey) n, k.bit = some n →
    f.flagsMask.has n = (lastValue (ascii k.name) kvs).isSome
  noOther : ∀ n, (∀ k, FilterKey.bit k ≠ some n) → f.flags.has n = false ∧ f.flagsMask.has n = false

theorem setFlag_isOk (f : Filter) (flag : FilterFlags) (value : Bytes) :
    (∃ f', f.setFlag flag value = .ok f') ↔ value = ascii "0" ∨ value = ascii "1" :=
  (parsed_isOk (parseBool value) (f.insertFlag flag)).trans parses_bool

theorem setKey_isOk (f : Filter) (k : FilterKey) (value : Bytes) :
    (∃ f', f.setKey k value = .ok f') ↔ k.Valid value := by
  cases k
  case gamedir | map | os | arch | branch | commit => exact iff_of_true ⟨_, rfl⟩ trivial
  case protocol => exact parsed_isOk (parseU8 value) fun n => { f with protocol := some n }
  case clver => exact parsed_isOk (parseVersion value) fun v => { f with clver := some v }
  case buildnum => exact parsed_isOk (parseU32 value) fun n => { f with clientBuildnum := some n }
  case key => exact parsed_isOk (parseHex32 value) fun n => { f with key := some n }
  all_goals exact setFlag_isOk f _ value

theorem visit_isOk (f : Filter) (key value : Bytes) :
    (∃ f', f.visit key value = .ok f') ↔
      ∀ k, FilterKey.ofBytes key = some k → k.Valid value := by
  unfold visit set
  cases hk : FilterKey.ofBytes key with
  | none =>
    constructor
    · intro _ k hk'
      cases hk'
    · intro _
      exact ⟨f, rfl⟩
  | some k =>
    have hvalid : (∀ k', some k = some k' → k'.Valid value) ↔ k.Valid value := by simp
    rw [hvalid, ← setKey_isOk f k value]
    dsimp only
    cases hset : f.setKey k value with
    | error e => exact iff_of_false (not_ok_error _) (not_ok_error e)
    | ok f' => exact iff_of_true ⟨f', rfl⟩ ⟨f', rfl⟩

variable {kvs : List (Bytes × Bytes)} {f : Filter}

theorem fromSlice_isOk (h : IsPairs kvs) :
    (∃ f, fromSlice (MapIter.pairs kvs) = .ok f) ↔ Accepts kvs := by
  rw [fromSlice_pairs fun kv hkv =>
    ⟨⟨(h kv hkv).1.1, (h kv hkv).1.2.2⟩, (h kv hkv).2.1, (h kv hkv).2.2.2⟩]
  exact foldlM_isOk_iff (fun f key value => visit_isOk f key value) kvs default

/-- What the pair of a key sets, if it is valid. -/
structure Puts (k : FilterKey) (value : Bytes) (f f' : Filter) : Prop where
  gamedir : f'.gamedir = if k = .gamedir then some value else f.gamedir
  map : f'.map = if k = .map then some value else f.map
  clver : f'.clver = if k = .clver then (parseVersion value).toOption else f.clver
  protocol : f'.protocol = if k = .protocol then (parseU8 value).toOption else f.protocol
  clientOs : f'.clientOs = if k = .os then some value else f.clientOs
  clientArch : f'.clientArch = if k = .arch then some value else f.clientArch
  clientBranch : f'.clientBranch = if k = .branch then some value else f.clientBranch
  clientCommit : f'.clientCommit = if k = .commit then some value else f.clientCommit
  clientBuildnum : f'.clientBuildnum =
    if k = .buildnum then (parseU32 value).toOption else f.clientBuildnum
  key : f'.key = if k = .key then (parseHex32 value).toOption else f.key

theorem puts_of_setKey {f f' : Filter} {k : FilterKey} {value : Bytes}
    (h : f.setKey k value = .ok f') : Puts k value f f' := by
  cases k
  case gamedir | map | os | arch | branch | commit =>
    cases h
    constructor <;> rfl
  case protocol | clver | buildnum | key =>
    obtain ⟨a, ha, rfl⟩ := parsed_ok h
    constructor <;> simp [ha, Except.toOption]
  all_goals
    obtain ⟨v, -, rfl⟩ := parsed_ok h
    constructor <;> rfl

/-- An optional field is the parse of the last value of its key. -/
theorem option_last {α : Type} (get : Filter → Option α) (target : FilterKey)
    (parse : Bytes → Except CursorError α) (hdefault : get default = none)
    (hputs : ∀ k value f f', Puts k value f f' →
      get f' = if k = target then (parse value).toOption else get f)
    (h : IsPairs kvs) (hf : fromSlice (MapIter.pairs kvs) = .ok f) :
    get f = lastOf target.name parse kvs := by
  have hpairs : pairsOf (MapIter.pairs kvs) = kvs :=
    MapIter.toList_pairs fun kv hkv => ⟨(h kv hkv).1.1, (h kv hkv).2.1⟩
  have hlast := field_last get target (fun v => (parse v).toOption) ?_ ?_ hf
  · rw [hlast, hpairs, hdefault]
    unfold lastOf
    cases lastValue (ascii target.name) kvs <;> rfl
  · intro k value f f' hk hset
    rw [hputs k value f f' (puts_of_setKey hset), if_neg hk]
  · intro value f f' hset
    rw [hputs target value f f' (puts_of_setKey hset), if_pos rfl]

theorem reads_of_fromSlice (h : IsPairs kvs) (hf : fromSlice (MapIter.pairs kvs) = .ok f) :
    Reads kvs f := by
  have hpairs : pairsOf (MapIter.pairs kvs) = kvs :=
    MapIter.toList_pairs fun kv hkv => ⟨(h kv hkv).1.1, (h kv hkv).2.1⟩
  have hflag : ∀ k n, FilterKey.bit k = some n → (f.flags.has n, f.flagsMask.has n) =
      ((lastValue (ascii k.name) kvs).map fun v => (v == ascii "1", true)).getD (false, false) := by
    intro k n hn
    have hlt : n < 9 := by cases k <;> cases hn <;> decide
    rw [flag_last hn hlt hf, hpairs]
  refine
    { gamedir := option_last (·.gamedir) .gamedir .ok rfl (fun _ _ _ _ hs => hs.gamedir) h hf
      map := option_last (·.map) .map .ok rfl (fun _ _ _ _ hs => hs.map) h hf
      clver := option_last (·.clver) .clver parseVersion rfl (fun _ _ _ _ hs => hs.clver) h hf
      protocol := option_last (·.protocol) .protocol parseU8 rfl (fun _ _ _ _ hs => hs.protocol) h hf
      clientOs := option_last (·.clientOs) .os .ok rfl (fun _ _ _ _ hs => hs.clientOs) h hf
      clientArch := option_last (·.clientArch) .arch .ok rfl (fun _ _ _ _ hs => hs.clientArch) h hf
      clientBranch := option_last (·.clientBranch) .branch .ok rfl
        (fun _ _ _ _ hs => hs.clientBranch) h hf
      clientCommit := option_last (·.clientCommit) .commit .ok rfl
        (fun _ _ _ _ hs => hs.clientCommit) h hf
      clientBuildnum := option_last (·.clientBuildnum) .buildnum parseU32 rfl
        (fun _ _ _ _ hs => hs.clientBuildnum) h hf
      key := option_last (·.key) .key parseHex32 rfl (fun _ _ _ _ hs => hs.key) h hf
      flags := fun k n hn => ?_
      flagsMask := fun k n hn => ?_
      noOther := fun n hn => ?_ }
  · have hbit := (Prod.ext_iff.1 (hflag k n hn)).1
    dsimp only at hbit
    rw [hbit]
    unfold lastOf
    cases lastValue (ascii k.name) kvs with
    | none => rfl
    | some v => exact (parseBool_getD v).symm
  · have hbit := (Prod.ext_iff.1 (hflag k n hn)).2
    dsimp only at hbit
    rw [hbit]
    cases lastValue (ascii k.name) kvs <;> rfl
  · obtain ⟨-, hsub, hall⟩ := fromSlice_ok hf
    rw [Flags.contains_iff] at hsub hall
    have hn9 : ¬ n < 9 := fun hlt => hn _ (FilterKey.bit_bitKey hlt).1
    have hmask : f.flagsMask.has n = false := by
      rw [Bool.eq_false_iff]
      intro hhas
      have := hall n hhas
      rw [FilterFlags.has_all, decide_eq_true_iff] at this
      exact hn9 this
    refine ⟨Bool.eq_false_iff.2 fun hhas => ?_, hmask⟩
    rw [hsub n hhas] at hmask
    cases hmask

/-- The fields follow from the last values of the known keys. -/
theorem Reads.eq {kvs' : List (Bytes × Bytes)} {f' : Filter} (h : Reads kvs f)
    (h' : Reads kvs' f') (hlast : ∀ k : FilterKey,
      lastValue (ascii k.name) kvs' = lastValue (ascii k.name) kvs) : f' = f := by
  have hof : ∀ {α : Type} (k : FilterKey) (parse : Bytes → Except CursorError α),
      lastOf k.name parse kvs' = lastOf k.name parse kvs := by
    intro α k parse
    unfold lastOf
    rw [hlast]
  have hbits : ∀ n, f'.flags.has n = f.flags.has n ∧ f'.flagsMask.has n = f.flagsMask.has n := by
    intro n
    by_cases hn : ∃ k, FilterKey.bit k = some n
    · obtain ⟨k, hk⟩ := hn
      rw [h.flags k n hk, h'.flags k n hk, h.flagsMask k n hk, h'.flagsMask k n hk, hof, hlast]
      exact ⟨rfl, rfl⟩
    · push Not at hn
      rw [(h.noOther n hn).1, (h'.noOther n hn).1, (h.noOther n hn).2, (h'.noOther n hn).2]
      exact ⟨rfl, rfl⟩
  have hflags : f'.flags = f.flags := Flags.ext_has fun n _ => (hbits n).1
  have hmask : f'.flagsMask = f.flagsMask := Flags.ext_has fun n _ => (hbits n).2
  obtain ⟨gamedir, map, clver, protocol, os, arch, branch, commit, buildnum, key, -, -, -⟩ := h
  obtain ⟨gamedir', map', clver', protocol', os', arch', branch', commit', buildnum', key',
    -, -, -⟩ := h'
  cases f
  cases f'
  congr
  · exact gamedir'.trans ((hof .gamedir _).trans gamedir.symm)
  · exact map'.trans ((hof .map _).trans map.symm)
  · exact clver'.trans ((hof .clver _).trans clver.symm)
  · exact protocol'.trans ((hof .protocol _).trans protocol.symm)
  · exact os'.trans ((hof .os _).trans os.symm)
  · exact arch'.trans ((hof .arch _).trans arch.symm)
  · exact branch'.trans ((hof .branch _).trans branch.symm)
  · exact commit'.trans ((hof .commit _).trans commit.symm)
  · exact buildnum'.trans ((hof .buildnum _).trans buildnum.symm)
  · exact key'.trans ((hof .key _).trans key.symm)

/-- The keys of a filter. -/
def Knows (key : Bytes) : Prop := FilterKey.ofBytes key ≠ none

theorem knows_name (k : FilterKey) : Knows (ascii k.name) := by
  unfold Knows
  rw [FilterKey.ofBytes_name]
  exact nofun

theorem Accepts.rearranged {kvs' : List (Bytes × Bytes)} (h : Accepts kvs)
    (hr : Rearranged Knows kvs kvs') : Accepts kvs' := by
  intro kv hkv k hk
  have hknown : Knows kv.1 := fun hnone => by rw [hnone] at hk; cases hk
  exact hr.forall_mem (fun kv hkv _ => h kv hkv) kv hkv hknown k hk

/-- Neither the order of distinct keys nor unknown keys matter to a filter. -/
theorem fromSlice_rearranged {kvs' : List (Bytes × Bytes)} (h : IsPairs kvs) (h' : IsPairs kvs')
    (hr : Rearranged Knows kvs kvs') (hf : fromSlice (MapIter.pairs kvs) = .ok f) :
    fromSlice (MapIter.pairs kvs') = .ok f := by
  have haccepts := ((fromSlice_isOk h).1 ⟨f, hf⟩).rearranged hr
  obtain ⟨f', hf'⟩ := (fromSlice_isOk h').2 haccepts
  have heq : f' = f := by
    refine (reads_of_fromSlice h hf).eq (reads_of_fromSlice h' hf') fun k => ?_
    rw [lastValue_eq_getLast?, lastValue_eq_getLast?, hr.valuesOf_eq (knows_name k)]
  rw [hf', heq]

end Filter

/-! ## Registrations -/

/-- A region is parsed as its number. -/
def parseRegion (value : Bytes) : Except CursorError Region := do
  let n ← parseU8 value
  Region.tryFrom n

/-- The values a key of a registration takes. -/
def ServerAddKey.Valid (k : ServerAddKey) (value : Bytes) : Prop :=
  match k with
  | .gamedir | .product | .map | .type | .os | .version => True
  | .protocol | .players | .max | .bots => Parses parseU8 value
  | .challenge => Parses parseU32 value
  | .region => Parses parseRegion value
  | _ => value = ascii "0" ∨ value = ascii "1"

namespace ServerAdd

/-- Every known key has a valid value. -/
def Accepts (kvs : List (Bytes × Bytes)) : Prop :=
  ∀ kv ∈ kvs, ∀ k, ServerAddKey.ofBytes kv.1 = some k → k.Valid kv.2

/-- Some pair is a challenge. -/
def HasChallenge (kvs : List (Bytes × Bytes)) : Prop := ∃ value, (ascii "challenge", value) ∈ kvs

/-- Every field has the last value of its key, or its default. -/
structure Reads (kvs : List (Bytes × Bytes)) (r : ServerAdd) : Prop where
  gamedir : r.gamedir = (lastOf "gamedir" .ok kvs).getD []
  map : r.map = (lastOf "map" .ok kvs).getD []
  version : r.version = (lastOf "version" parseVersion kvs).getD default
  challenge : r.challenge = (lastOf "challenge" parseU32 kvs).getD 0
  serverType : r.serverType = (lastOf "type" (fun v => .ok (.ofMapStr v)) kvs).getD default
  os : r.os = (lastOf "os" (fun v => .ok (.ofMapStr v)) kvs).getD default
  region : r.region = (lastOf "region" parseRegion kvs).getD default
  protocol : r.protocol = (lastOf "protocol" parseU8 kvs).getD 0
  players : r.players = (lastOf "players" parseU8 kvs).getD 0
  max : r.max = (lastOf "max" parseU8 kvs).getD 0
  bots : r.bots = (lastOf "bots" parseU8 kvs).getD 0
  botsFlag : r.flags.has 0 = ((lastOf "bots" parseU8 kvs).getD 0 != 0)
  flags : ∀ (k : ServerAddKey) n, k ≠ .bots → bit k = some n →
    r.flags.has n = (lastOf k.name parseBool kvs).getD false
  noOther : ∀ n, 5 ≤ n → r.flags.has n = false

theorem map_isOk {ε α β : Type} (f : α → β) (r : Except ε α) :
    (∃ b, f <$> r = .ok b) ↔ ∃ a, r = .ok a := parsed_isOk r f

theorem setFlag_isOk (r : ServerAdd) (flag : ServerFlags) (value : Bytes) :
    (∃ r', r.setFlag flag value = .ok r') ↔ value = ascii "0" ∨ value = ascii "1" :=
  (parsed_isOk (parseBool value) fun v => { r with flags := r.flags.set flag v }).trans parses_bool

theorem set_isOk (r : ServerAdd) (key value : Bytes) : (∃ p, r.set key value = .ok p) ↔
    ∀ k, ServerAddKey.ofBytes key = some k → k.Valid value := by
  unfold set
  cases hk : ServerAddKey.ofBytes key with
  | none =>
    constructor
    · intro _ k hk'
      cases hk'
    · intro _
      exact ⟨(false, r), rfl⟩
  | some k =>
    have hvalid : (∀ k', some k = some k' → k'.Valid value) ↔ k.Valid value := by simp
    rw [hvalid]
    refine (map_isOk _ _).trans ?_
    cases k
    case gamedir | product | map | type | os | version => exact iff_of_true ⟨_, rfl⟩ trivial
    case protocol => exact parsed_isOk (parseU8 value) fun n => { r with protocol := n }
    case players => exact parsed_isOk (parseU8 value) fun n => { r with players := n }
    case max => exact parsed_isOk (parseU8 value) fun n => { r with max := n }
    case challenge => exact parsed_isOk (parseU32 value) fun n => { r with challenge := n }
    case bots =>
      exact parsed_isOk (parseU8 value) fun n =>
        { r with bots := n, flags := r.flags.set ServerFlags.bots (n != 0) }
    case region =>
      show _ ↔ Parses parseRegion value
      unfold Parses parseRegion
      cases parseU8 value with
      | error e => exact iff_of_false (not_ok_error e) (not_ok_error e)
      | ok n => exact parsed_isOk (Region.tryFrom n) fun region => { r with region := region }
    all_goals exact setFlag_isOk r _ value

/-- A pair sets the field of a known key. -/
theorem set_known {r r' : ServerAdd} {known : Bool} {key value : Bytes}
    (h : r.set key value = .ok (known, r')) : known = (ServerAddKey.ofBytes key).isSome := by
  unfold set at h
  cases hk : ServerAddKey.ofBytes key with
  | none =>
    rw [hk] at h
    cases h
    rfl
  | some k =>
    rw [hk] at h
    obtain ⟨a, -, heq⟩ := parsed_ok h
    exact (Prod.ext_iff.1 heq).1

theorem visit_isOk (st : ServerAdd × Bool) (key value : Bytes) :
    (∃ st', visit st key value = .ok st') ↔
      ∀ k, ServerAddKey.ofBytes key = some k → k.Valid value := by
  rw [← set_isOk st.1]
  unfold visit
  cases st.1.set key value with
  | error e => exact iff_of_false (not_ok_error _) (not_ok_error e)
  | ok p =>
    obtain ⟨_ | _, r⟩ := p
    · exact iff_of_true ⟨_, rfl⟩ ⟨_, rfl⟩
    · exact iff_of_true ⟨_, rfl⟩ ⟨_, rfl⟩

/-- A challenge has been seen when it was the key of a pair. -/
theorem visit_snd {st st' : ServerAdd × Bool} {key value : Bytes}
    (h : visit st key value = .ok st') : st'.2 = (st.2 || key == ascii "challenge") := by
  unfold visit at h
  cases hset : st.1.set key value with
  | error e =>
    rw [hset] at h
    cases h
  | ok p =>
    obtain ⟨known, r⟩ := p
    have hknown := set_known hset
    rw [hset] at h
    cases known
    · cases h
      have hne : key ≠ ascii "challenge" := by
        rintro rfl
        rw [show ascii "challenge" = ascii ServerAddKey.challenge.name from rfl,
          ServerAddKey.ofBytes_name] at hknown
        cases hknown
      rw [beq_eq_false_iff_ne.2 hne, Bool.or_false]
    · cases h
      rfl

theorem visitAll_snd {kvs : List (Bytes × Bytes)} {st st' : ServerAdd × Bool}
    (h : visitAll kvs st = .ok st') : st'.2 = true ↔ st.2 = true ∨ HasChallenge kvs := by
  unfold visitAll at h
  induction kvs generalizing st with
  | nil =>
    cases h
    simp [HasChallenge]
  | cons kv kvs ih =>
    rw [List.foldlM_cons] at h
    cases hvisit : visit st kv.1 kv.2 with
    | error e =>
      rw [hvisit] at h
      cases h
    | ok st₁ =>
      rw [hvisit] at h
      have hcons : HasChallenge (kv :: kvs) ↔ kv.1 = ascii "challenge" ∨ HasChallenge kvs := by
        unfold HasChallenge
        constructor
        · rintro ⟨value, hmem⟩
          rcases List.mem_cons.1 hmem with heq | hmem
          · exact Or.inl (congrArg Prod.fst heq).symm
          · exact Or.inr ⟨value, hmem⟩
        · rintro (heq | ⟨value, hmem⟩)
          · exact ⟨kv.2, List.mem_cons.2 (Or.inl (Prod.ext heq.symm rfl))⟩
          · exact ⟨value, List.mem_cons_of_mem _ hmem⟩
      rw [ih h, visit_snd hvisit, hcons, Bool.or_eq_true, beq_iff_eq, or_assoc]

variable {kvs : List (Bytes × Bytes)} {nl : Bytes} {r : ServerAdd}

/-- The packet of a list of pairs. -/
def packetOf (kvs : List (Bytes × Bytes)) (nl : Bytes) : Bytes :=
  header ++ (MapIter.pairs kvs ++ nl)

theorem decode_isOk (h : IsPairs kvs) (hnl : nl = [] ∨ nl = [10]) :
    (∃ r, decode (packetOf kvs nl) = .ok r) ↔ Accepts kvs ∧ HasChallenge kvs := by
  have hfold := foldlM_isOk_iff visit_isOk kvs (default, false)
  unfold packetOf Accepts
  rw [decode_visitAll hnl h, ← hfold]
  cases hvisit : visitAll kvs (default, false) with
  | error e =>
    refine iff_of_false (not_ok_error e) ?_
    rintro ⟨⟨st, hst⟩, -⟩
    rw [show visitAll kvs (default, false) = .ok st from hst] at hvisit
    cases hvisit
  | ok st =>
    have hsnd := visitAll_snd hvisit
    rw [or_iff_right Bool.false_ne_true] at hsnd
    rw [and_iff_right ⟨st, hvisit⟩, ← hsnd]
    obtain ⟨r, _ | _⟩ := st
    · exact iff_of_false (not_ok_error _) Bool.false_ne_true
    · exact iff_of_true ⟨r, rfl⟩ rfl

theorem infoOf_packetOf (h : IsPairs kvs) (hnl : nl = [] ∨ nl = [10]) :
    infoOf (packetOf kvs nl) = MapIter.pairs kvs := by
  have h10 : (10 : UInt8) ∉ MapIter.pairs kvs :=
    MapIter.not_mem_pairs (by decide) fun kv hkv => ⟨(h kv hkv).1.2.1, (h kv hkv).2.2.1⟩
  have h0 : (0 : UInt8) ∉ MapIter.pairs kvs :=
    MapIter.not_mem_pairs (by decide) fun kv hkv => ⟨(h kv hkv).1.2.2, (h kv hkv).2.2.2⟩
  have hall : ∀ c ∈ MapIter.pairs kvs, (!(c == 10 || c == 0)) = true := by
    intro c hc
    rw [Bool.not_eq_true', Bool.or_eq_false_iff, beq_eq_false_iff_ne, beq_eq_false_iff_ne]
    exact ⟨fun he => h10 (he ▸ hc), fun he => h0 (he ▸ hc)⟩
  unfold infoOf packetOf
  rw [List.drop_left, List.takeWhile_append_of_pos hall]
  rcases hnl with rfl | rfl
  · exact List.append_nil _
  · exact List.append_nil _

theorem pairsOf_packetOf (h : IsPairs kvs) (hnl : nl = [] ∨ nl = [10]) :
    pairsOf (packetOf kvs nl) = kvs := by
  unfold pairsOf
  rw [infoOf_packetOf h hnl]
  exact MapIter.toList_pairs fun kv hkv => ⟨(h kv hkv).1.1, (h kv hkv).2.1⟩

/-- What the flag of a key is set to. -/
def flagOf (k : ServerAddKey) (value : Bytes) : Bool :=
  if k = .bots then (parseU8 value).toOption.getD 0 != 0
  else (parseBool value).toOption.getD false

/-- What the pair of a key sets, if it is valid. -/
structure Puts (k : ServerAddKey) (value : Bytes) (r r' : ServerAdd) : Prop where
  gamedir : r'.gamedir = if k = .gamedir then value else r.gamedir
  map : r'.map = if k = .map then value else r.map
  version : r'.version = if k = .version then (parseVersion value).toOption.getD default
    else r.version
  challenge : r'.challenge = if k = .challenge then (parseU32 value).toOption.getD 0
    else r.challenge
  serverType : r'.serverType = if k = .type then .ofMapStr value else r.serverType
  os : r'.os = if k = .os then .ofMapStr value else r.os
  region : r'.region = if k = .region then (parseRegion value).toOption.getD default else r.region
  protocol : r'.protocol = if k = .protocol then (parseU8 value).toOption.getD 0 else r.protocol
  players : r'.players = if k = .players then (parseU8 value).toOption.getD 0 else r.players
  max : r'.max = if k = .max then (parseU8 value).toOption.getD 0 else r.max
  bots : r'.bots = if k = .bots then (parseU8 value).toOption.getD 0 else r.bots
  flags : ∀ n, r'.flags.has n = if bit k = some n then flagOf k value else r.flags.has n

theorem has_set_of_bit {k : ServerAddKey} {m n : ℕ} (hm : bit k = some m) (flags : ServerFlags)
    (v : Bool) : (flags.set (.single m) v).has n = if bit k = some n then v else flags.has n := by
  have hlt : m < 8 := by cases k <;> cases hm <;> decide
  rw [Flags.has_set hlt, hm]
  by_cases h : n = m
  · rw [if_pos h, if_pos (congrArg some h.symm)]
  · rw [if_neg h, if_neg fun he => h (Option.some.inj he).symm]

theorem puts_of_sets {r r' : ServerAdd} {k : ServerAddKey} {value : Bytes}
    (h : Sets k value r r') : Puts k value r r' := by
  cases k
  case gamedir | product | map | type | os | version =>
    rw [show r' = _ from h]
    constructor <;> intros <;> rfl
  case protocol | challenge | players | max =>
    obtain ⟨n, hn, rfl⟩ := h
    constructor <;> intros <;> first | rfl | exact (by rw [hn]; rfl)
  case region =>
    obtain ⟨n, region, hn, hregion, rfl⟩ := h
    have hparse : parseRegion value = .ok region := by
      unfold parseRegion
      rw [hn]
      exact hregion
    constructor <;> intros <;> first | rfl | exact (by rw [hparse]; rfl)
  case bots =>
    obtain ⟨n, hn, rfl⟩ := h
    have hflag : flagOf .bots value = (n != 0) := by
      unfold flagOf
      rw [if_pos rfl, hn]
      rfl
    constructor
    case bots => rw [hn]; rfl
    case flags =>
      intro i
      rw [hflag]
      exact has_set_of_bit rfl r.flags _
    all_goals rfl
  case password | secure | lan | nat =>
    obtain ⟨v, hv, rfl⟩ := h
    have hflag : ∀ k : ServerAddKey, k ≠ .bots → flagOf k value = v := by
      intro k hk
      unfold flagOf
      rw [if_neg hk, hv]
      rfl
    constructor
    case flags =>
      intro i
      rw [hflag _ (by decide)]
      exact has_set_of_bit rfl r.flags _
    all_goals rfl

/-- A field is the parse of the last value of its key. -/
theorem parsed_last {α : Type} (get : ServerAdd → α) (key : ServerAddKey) {d : α}
    (parse : Bytes → Except CursorError α) (hdefault : get default = d)
    (hputs : ∀ k value r r', Puts k value r r' →
      get r' = if k = key then (parse value).toOption.getD d else get r)
    (h : IsPairs kvs) (hnl : nl = [] ∨ nl = [10]) (hr : decode (packetOf kvs nl) = .ok r) :
    get r = (lastOf key.name parse kvs).getD d := by
  have hlast := field_last get key (fun v => (parse v).toOption.getD d) ?_ ?_ hr
  · rw [hlast, pairsOf_packetOf h hnl, hdefault]
    unfold lastOf
    cases lastValue (ascii key.name) kvs <;> rfl
  · intro k value r r' hk hset
    rw [hputs k value r r' (puts_of_sets hset), if_neg hk]
  · intro value r r' hset
    rw [hputs key value r r' (puts_of_sets hset), if_pos rfl]

/-- The flag of a key is set by its last value. -/
theorem flag_has {key : ServerAddKey} {n : ℕ} (hn : bit key = some n) (h : IsPairs kvs)
    (hnl : nl = [] ∨ nl = [10]) (hr : decode (packetOf kvs nl) = .ok r) :
    r.flags.has n = ((lastValue (ascii key.name) kvs).map (flagOf key)).getD false := by
  have hlast := field_last (fun r => r.flags.has n) key (flagOf key) ?_ ?_ hr
  · rw [hlast, pairsOf_packetOf h hnl, show (default : ServerAdd).flags.has n = false from
      Flags.has_empty]
  · intro k value r r' hk hset
    refine ((puts_of_sets hset).flags n).trans (if_neg ?_)
    intro hbit
    exact hk ((bitKey_of_bit hbit).symm.trans (bitKey_of_bit hn))
  · intro value r r' hset
    exact ((puts_of_sets hset).flags n).trans (if_pos hn)

theorem reads_of_decode (h : IsPairs kvs) (hnl : nl = [] ∨ nl = [10])
    (hr : decode (packetOf kvs nl) = .ok r) : Reads kvs r := by
  refine
    { gamedir := parsed_last (·.gamedir) .gamedir .ok rfl (fun _ _ _ _ hs => hs.gamedir) h hnl hr
      map := parsed_last (·.map) .map .ok rfl (fun _ _ _ _ hs => hs.map) h hnl hr
      version := parsed_last (·.version) .version parseVersion rfl
        (fun _ _ _ _ hs => hs.version) h hnl hr
      challenge := parsed_last (·.challenge) .challenge parseU32 rfl
        (fun _ _ _ _ hs => hs.challenge) h hnl hr
      serverType := parsed_last (·.serverType) .type (fun v => .ok (.ofMapStr v)) rfl
        (fun _ _ _ _ hs => hs.serverType) h hnl hr
      os := parsed_last (·.os) .os (fun v => .ok (.ofMapStr v)) rfl
        (fun _ _ _ _ hs => hs.os) h hnl hr
      region := parsed_last (·.region) .region parseRegion rfl
        (fun _ _ _ _ hs => hs.region) h hnl hr
      protocol := parsed_last (·.protocol) .protocol parseU8 rfl
        (fun _ _ _ _ hs => hs.protocol) h hnl hr
      players := parsed_last (·.players) .players parseU8 rfl
        (fun _ _ _ _ hs => hs.players) h hnl hr
      max := parsed_last (·.max) .max parseU8 rfl (fun _ _ _ _ hs => hs.max) h hnl hr
      bots := parsed_last (·.bots) .bots parseU8 rfl (fun _ _ _ _ hs => hs.bots) h hnl hr
      botsFlag := ?_
      flags := fun k n hk hn => ?_
      noOther := (parsed_of_decode hr).2 }
  · have hbit : bit .bots = some 0 := rfl
    rw [flag_has hbit h hnl hr]
    unfold lastOf
    show ((lastValue (ascii ServerAddKey.bots.name) kvs).map _).getD false =
      (((lastValue (ascii ServerAddKey.bots.name) kvs).bind _).getD 0 != 0)
    cases lastValue (ascii ServerAddKey.bots.name) kvs with
    | none => rfl
    | some v =>
      show flagOf .bots v = _
      unfold flagOf
      exact if_pos rfl
  · rw [flag_has hn h hnl hr]
    unfold lastOf
    cases lastValue (ascii k.name) kvs with
    | none => rfl
    | some v => exact if_neg hk

/-- The fields follow from the last values of the known keys. -/
theorem Reads.eq {kvs' : List (Bytes × Bytes)} {r' : ServerAdd} (h : Reads kvs r)
    (h' : Reads kvs' r') (hlast : ∀ k : ServerAddKey,
      lastValue (ascii k.name) kvs' = lastValue (ascii k.name) kvs) : r' = r := by
  have hof : ∀ {α : Type} (k : ServerAddKey) (parse : Bytes → Except CursorError α),
      lastOf k.name parse kvs' = lastOf k.name parse kvs := by
    intro α k parse
    unfold lastOf
    rw [hlast]
  have hget : ∀ {α : Type} {a a' d : α} (k : ServerAddKey) (parse : Bytes → Except CursorError α),
      a = (lastOf k.name parse kvs).getD d → a' = (lastOf k.name parse kvs').getD d → a' = a := by
    intro α a a' d k parse ha ha'
    rw [ha, ha', hof]
  have hflags : r'.flags = r.flags := by
    refine Flags.ext_has fun n _ => ?_
    by_cases hn : 5 ≤ n
    · rw [h.noOther n hn, h'.noOther n hn]
    · obtain ⟨k, hk⟩ : ∃ k, bit k = some n := by
        refine ⟨bitKey n, ?_⟩
        interval_cases n <;> rfl
      by_cases hbots : k = .bots
      · subst hbots
        cases hk
        have hb := hof .bots parseU8
        change lastOf "bots" parseU8 kvs' = lastOf "bots" parseU8 kvs at hb
        rw [h.botsFlag, h'.botsFlag, hb]
      · rw [h.flags k n hbots hk, h'.flags k n hbots hk, hof]
  obtain ⟨gamedir, map, version, challenge, type, os, region, protocol, players, max, bots,
    -, -, -⟩ := h
  obtain ⟨gamedir', map', version', challenge', type', os', region', protocol', players', max',
    bots', -, -, -⟩ := h'
  cases r
  cases r'
  congr
  · exact hget .gamedir _ gamedir gamedir'
  · exact hget .map _ map map'
  · exact hget .version _ version version'
  · exact hget .challenge _ challenge challenge'
  · exact hget .type _ type type'
  · exact hget .os _ os os'
  · exact hget .region _ region region'
  · exact hget .protocol _ protocol protocol'
  · exact hget .players _ players players'
  · exact hget .max _ max max'
  · exact hget .bots _ bots bots'

/-- The keys of a registration. -/
def Knows (key : Bytes) : Prop := ServerAddKey.ofBytes key ≠ none

theorem knows_name (k : ServerAddKey) : Knows (ascii k.name) := by
  unfold Knows
  rw [ServerAddKey.ofBytes_name]
  exact nofun

theorem Accepts.rearranged {kvs' : List (Bytes × Bytes)} (h : Accepts kvs)
    (hr : Rearranged Knows kvs kvs') : Accepts kvs' := by
  intro kv hkv k hk
  have hknown : Knows kv.1 := fun hnone => by rw [hnone] at hk; cases hk
  exact hr.forall_mem (fun kv hkv _ => h kv hkv) kv hkv hknown k hk

theorem HasChallenge.rearranged {kvs' : List (Bytes × Bytes)} (h : HasChallenge kvs)
    (hr : Rearranged Knows kvs kvs') : HasChallenge kvs' := by
  obtain ⟨value, hvalue⟩ := h
  refine ⟨value, mem_valuesOf.1 ?_⟩
  show value ∈ valuesOf (ascii ServerAddKey.challenge.name) kvs'
  rw [hr.valuesOf_eq (knows_name .challenge)]
  exact mem_valuesOf.2 hvalue

/-- Neither the order of distinct keys nor unknown keys matter to a registration. -/
theorem decode_rearranged {kvs' : List (Bytes × Bytes)} (h : IsPairs kvs) (h' : IsPairs kvs')
    (hr : Rearranged Knows kvs kvs') (hnl : nl = [] ∨ nl = [10])
    (hdecode : decode (packetOf kvs nl) = .ok r) : decode (packetOf kvs' nl) = .ok r := by
  obtain ⟨haccepts, hchallenge⟩ := (decode_isOk h hnl).1 ⟨r, hdecode⟩
  obtain ⟨r', hr'⟩ := (decode_isOk h' hnl).2 ⟨haccepts.rearranged hr, hchallenge.rearranged hr⟩
  have heq : r' = r := by
    refine (reads_of_decode h hnl hdecode).eq (reads_of_decode h' hnl hr') fun k => ?_
    rw [lastValue_eq_getLast?, lastValue_eq_getLast?, hr.valuesOf_eq (knows_name k)]
  rw [hr', heq]

end ServerAdd

/-- The parsers of filters and registrations accept their keys with valid values, the latter with a
challenge, and give each field the last value of its key. -/
theorem parse_exactly (kvs : List (Bytes × Bytes)) (h : IsPairs kvs) :
    ((∃ f, Filter.fromSlice (MapIter.pairs kvs) = .ok f) ↔ Filter.Accepts kvs) ∧
    (∀ f, Filter.fromSlice (MapIter.pairs kvs) = .ok f → Filter.Reads kvs f ∧
      ∀ kvs', IsPairs kvs' → Rearranged Filter.Knows kvs kvs' →
        Filter.fromSlice (MapIter.pairs kvs') = .ok f) ∧
    ∀ nl, nl = [] ∨ nl = [10] →
      ((∃ r, ServerAdd.decode (ServerAdd.packetOf kvs nl) = .ok r) ↔
        ServerAdd.Accepts kvs ∧ ServerAdd.HasChallenge kvs) ∧
      ∀ r, ServerAdd.decode (ServerAdd.packetOf kvs nl) = .ok r → ServerAdd.Reads kvs r ∧
        ∀ kvs', IsPairs kvs' → Rearranged ServerAdd.Knows kvs kvs' →
          ServerAdd.decode (ServerAdd.packetOf kvs' nl) = .ok r := by
  refine ⟨Filter.fromSlice_isOk h, fun f hf => ⟨Filter.reads_of_fromSlice h hf, ?_⟩,
    fun nl hnl => ⟨ServerAdd.decode_isOk h hnl, fun r hr =>
      ⟨ServerAdd.reads_of_decode h hnl hr, ?_⟩⟩⟩
  · exact fun kvs' h' hrearranged => Filter.fromSlice_rearranged h h' hrearranged hf
  · exact fun kvs' h' hrearranged => ServerAdd.decode_rearranged h h' hrearranged hnl hr

theorem parse_exactly_twice :
    let kvs := [(ascii "nat", ascii "1"), (ascii "challenge", ascii "7"), (ascii "nat", ascii "0")]
    ∃ f, Filter.fromSlice (MapIter.pairs kvs) = .ok f ∧ f.flags.has 6 = false := by
  have hpairs : IsPairs [(ascii "nat", ascii "1"), (ascii "challenge", ascii "7"),
      (ascii "nat", ascii "0")] := by
    unfold IsPairs
    decide +kernel
  obtain ⟨hok, hreads, -⟩ := parse_exactly _ hpairs
  obtain ⟨f, hf⟩ := hok.2 (by
    have hnat : FilterKey.ofBytes (ascii "nat") = some .nat := FilterKey.ofBytes_name .nat
    have hnone : FilterKey.ofBytes (ascii "challenge") = none := by decide +kernel
    intro kv hkv k hk
    simp only [List.mem_cons, List.not_mem_nil, or_false] at hkv
    obtain rfl | rfl | rfl := hkv
    · rw [hnat] at hk
      cases hk
      exact Or.inr rfl
    · rw [hnone] at hk
      cases hk
    · rw [hnat] at hk
      cases hk
      exact Or.inl rfl)
  refine ⟨f, hf, ?_⟩
  rw [(hreads f hf).1.flags .nat 6 rfl]
  decide +kernel

end Xash3d
