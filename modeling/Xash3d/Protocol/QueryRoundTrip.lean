import Xash3d.Protocol.Terminators

/-!
# Queries there and back

A query is printed with the escaping formatter of byte strings, and parsed without undoing the
escapes. `query_roundtrip_iff` says which queries survive this: those of printable strings.

For these the printed filter is the map string of `Filter.kvs`, whose pairs put the fields back one
after another (`Filter.visitAll_kvs`). Conversely, the strings parsed from printed text are printed
text without backslashes (`Filter.fromSlice_ok`).
-/

namespace Xash3d

open Lib

/-! ## Printed text -/

/-- What the formatter may write. -/
def Printed (s : Bytes) : Prop := ∀ c ∈ s, isPrintable c = true ∨ c = 92

theorem printed_strFormatBytes (s : Bytes) : Printed (strFormatBytes s).flatten := by
  intro d hd
  rw [strFormatBytes_flatten, List.mem_flatMap] at hd
  obtain ⟨c, -, hd⟩ := hd
  exact mem_escaped hd

theorem Printed.not_mem_zero {s : Bytes} (h : Printed s) : (0 : UInt8) ∉ s := fun h0 =>
  absurd (h 0 h0) (by decide)

theorem Printed.append_iff {s t : Bytes} : Printed (s ++ t) ↔ Printed s ∧ Printed t :=
  List.forall_mem_append

namespace Filter

/-! ## The pairs of a filter -/

/-- The string fields that are set. -/
def strings (f : Filter) : List Bytes :=
  [f.gamedir, f.map, f.clientOs, f.clientArch, f.clientBranch, f.clientCommit].reduceOption

/-- The pair of a flag. -/
def flagPair (f : Filter) (k : FilterKey) (flag : FilterFlags) : List (Bytes × Bytes) :=
  if f.flagsMask.contains flag then
    [(ascii k.name, [if f.flags.contains flag then 49 else 48])]
  else []

/-- The pair of an optional field. -/
def somePair (k : FilterKey) (value : Option Bytes) : List (Bytes × Bytes) :=
  value.toList.map fun v => (ascii k.name, v)

/-- What is printed of a filter of printable strings. -/
def kvs (f : Filter) : List (Bytes × Bytes) :=
  f.flagPair .dedicated FilterFlags.dedicated ++
  f.flagPair .secure FilterFlags.secure ++
  somePair .gamedir f.gamedir ++
  f.flagPair .secure FilterFlags.secure ++
  somePair .map f.map ++
  f.flagPair .empty FilterFlags.empty ++
  f.flagPair .full FilterFlags.full ++
  f.flagPair .password FilterFlags.password ++
  f.flagPair .noplayers FilterFlags.noplayers ++
  somePair .clver (f.clver.map fun v => v.display.flatten) ++
  f.flagPair .nat FilterFlags.nat ++
  f.flagPair .lan FilterFlags.lan ++
  f.flagPair .bots FilterFlags.bots ++
  somePair .key (f.key.map fun n => numeral 16 n.toNat) ++
  somePair .protocol (f.protocol.map fun n => numeral 10 n.toNat) ++
  somePair .buildnum (f.clientBuildnum.map fun n => numeral 10 n.toNat) ++
  somePair .os f.clientOs ++
  somePair .arch f.clientArch ++
  somePair .branch f.clientBranch ++
  somePair .commit f.clientCommit

theorem flatten_displayFlag (f : Filter) (k : FilterKey) (flag : FilterFlags) :
    (f.displayFlag k flag).flatten = MapIter.pairs (f.flagPair k flag) := by
  unfold displayFlag flagPair
  split_ifs <;> simp [displayName]

theorem flatten_displaySome {α : Type} (k : FilterKey) (value : Option α) (fmt : α → List Bytes) :
    (displaySome k value fmt).flatten =
      MapIter.pairs (somePair k (value.map fun a => (fmt a).flatten)) := by
  cases value <;> simp [displaySome, somePair, displayName]

/-- A printable string is printed as it is. -/
theorem map_strFormatBytes {value : Option Bytes}
    (h : ∀ s, value = some s → ∀ c ∈ s, isPrintable c = true) :
    (value.map fun s => (strFormatBytes s).flatten) = value := by
  cases value with
  | none => rfl
  | some s => exact congrArg some (strFormatBytes_printable (h s rfl))

theorem mem_strings {f : Filter} {s : Bytes} : s ∈ f.strings ↔
    f.gamedir = some s ∨ f.map = some s ∨ f.clientOs = some s ∨ f.clientArch = some s ∨
      f.clientBranch = some s ∨ f.clientCommit = some s := by
  unfold strings
  rw [List.reduceOption_mem_iff]
  simp [eq_comm]

/-- The strings of a filter are printable. -/
def Printable (f : Filter) : Prop := ∀ s ∈ f.strings, ∀ c ∈ s, isPrintable c = true

theorem flatten_display {f : Filter} (h : f.Printable) :
    f.display.flatten = MapIter.pairs f.kvs := by
  unfold Printable at h
  simp only [mem_strings] at h
  unfold display kvs
  simp only [List.flatten_append, MapIter.pairs_append, flatten_displayFlag, flatten_displaySome]
  rw [map_strFormatBytes fun s hs => h s (by simp [hs]),
    map_strFormatBytes fun s hs => h s (by simp [hs]),
    map_strFormatBytes fun s hs => h s (by simp [hs]),
    map_strFormatBytes fun s hs => h s (by simp [hs]),
    map_strFormatBytes fun s hs => h s (by simp [hs]),
    map_strFormatBytes fun s hs => h s (by simp [hs])]
  simp

/-- A pair of printable strings. -/
def PrintablePair (kv : Bytes × Bytes) : Prop :=
  (∀ c ∈ kv.1, isPrintable c = true) ∧ ∀ c ∈ kv.2, isPrintable c = true

theorem printable_name (k : FilterKey) : ∀ c ∈ ascii k.name, isPrintable c = true := by
  cases k <;> decide +kernel

theorem printable_of_isDigit {c : UInt8} (h : IsDigit c) : isPrintable c = true := by
  revert c
  decide +kernel

theorem printable_version {v : Version} {c : UInt8} (hc : c ∈ v.display.flatten) :
    isPrintable c = true := by
  rcases mem_version_display hc with hd | rfl
  · exact printable_of_isDigit hd
  · decide

theorem printed_displayName (k : FilterKey) : Printed (displayName k) := by
  intro c hc
  rw [displayName, List.mem_cons, List.mem_append, List.mem_singleton] at hc
  rcases hc with rfl | hc | rfl
  · exact Or.inr rfl
  · exact Or.inl (printable_name k c hc)
  · exact Or.inr rfl

theorem printed_displayFlag (f : Filter) (k : FilterKey) (flag : FilterFlags) :
    Printed (f.displayFlag k flag).flatten := by
  unfold displayFlag
  by_cases hmask : f.flagsMask.contains flag = true
  · rw [if_pos hmask, List.flatten_cons, List.flatten_singleton, Printed.append_iff]
    refine ⟨printed_displayName k, ?_⟩
    intro c hc
    obtain rfl := List.mem_singleton.1 hc
    split_ifs <;> exact Or.inl (by decide)
  · rw [if_neg hmask]
    intro c hc
    cases hc

theorem printed_displaySome {α : Type} (k : FilterKey) (value : Option α) {fmt : α → List Bytes}
    (h : ∀ a, Printed (fmt a).flatten) : Printed (displaySome k value fmt).flatten := by
  cases value with
  | none =>
    intro c hc
    cases hc
  | some a =>
    show Printed (displayName k :: fmt a).flatten
    rw [List.flatten_cons, Printed.append_iff]
    exact ⟨printed_displayName k, h a⟩

theorem printable_flagPair (f : Filter) (k : FilterKey) (flag : FilterFlags) :
    ∀ kv ∈ f.flagPair k flag, PrintablePair kv := by
  intro kv hkv
  unfold flagPair at hkv
  by_cases hmask : f.flagsMask.contains flag = true
  · rw [if_pos hmask] at hkv
    obtain rfl := List.mem_singleton.1 hkv
    refine ⟨printable_name k, ?_⟩
    intro c hc
    obtain rfl := List.mem_singleton.1 hc
    split_ifs <;> decide
  · rw [if_neg hmask] at hkv
    cases hkv

theorem printable_somePair (k : FilterKey) {value : Option Bytes}
    (h : ∀ s, value = some s → ∀ c ∈ s, isPrintable c = true) :
    ∀ kv ∈ somePair k value, PrintablePair kv := by
  intro kv hkv
  obtain ⟨v, hv, rfl⟩ := List.mem_map.1 hkv
  exact ⟨printable_name k, h v (Option.mem_toList.1 hv)⟩

theorem printable_map {α : Type} {value : Option α} {fmt : α → Bytes}
    (h : ∀ a, ∀ c ∈ fmt a, isPrintable c = true) (s : Bytes) (hs : value.map fmt = some s) :
    ∀ c ∈ s, isPrintable c = true := by
  obtain ⟨a, -, rfl⟩ := Option.map_eq_some_iff.1 hs
  exact h a

theorem printable_kvs {f : Filter} (h : f.Printable) : ∀ kv ∈ f.kvs, PrintablePair kv := by
  unfold Printable at h
  simp only [mem_strings] at h
  have hnum : ∀ radix n : ℕ, 1 < radix → radix ≤ 16 → ∀ c ∈ numeral radix n,
      isPrintable c = true := fun radix n h1 h2 c hc =>
    printable_of_isDigit (isDigit_of_mem_numeral h1 h2 hc)
  have hversion : ∀ v : Version, ∀ c ∈ v.display.flatten, isPrintable c = true :=
    fun _ _ => printable_version
  intro kv hkv
  unfold kvs at hkv
  simp only [List.mem_append, or_assoc] at hkv
  rcases hkv with hkv | hkv | hkv | hkv | hkv | hkv | hkv | hkv | hkv | hkv | hkv | hkv | hkv |
    hkv | hkv | hkv | hkv | hkv | hkv | hkv
  all_goals first
    | exact printable_flagPair f _ _ kv hkv
    | exact printable_somePair _ (fun s hs => h s (by simp [hs])) kv hkv
    | exact printable_somePair _ (printable_map hversion) kv hkv
    | exact printable_somePair _ (printable_map fun n => hnum _ _ (by decide) (by decide)) kv hkv

/-- The parsing loop over a list of pairs. -/
def visitAll (kvs : List (Bytes × Bytes)) (g : Filter) : Except ProtocolError Filter :=
  kvs.foldlM (fun g kv => g.visit kv.1 kv.2) g

/-- The pairs of a map string are parsed one after another. -/
theorem fromSlice_pairs {kvs : List (Bytes × Bytes)}
    (h : ∀ kv ∈ kvs, IsMapStr kv.1 ∧ IsMapStr kv.2) :
    fromSlice (MapIter.pairs kvs) = visitAll kvs default := by
  unfold fromSlice
  rw [MapIter.fromSlice_pairs fun kv hkv => ⟨(h kv hkv).1.2, (h kv hkv).2.2⟩]
  exact MapIter.tryFold_pairs visit (fun kv hkv => ⟨(h kv hkv).1.1, (h kv hkv).2.1⟩) default

theorem fromSlice_kvs {f : Filter} (h : f.Printable) :
    fromSlice (MapIter.pairs f.kvs) = visitAll f.kvs default := by
  have hclean : ∀ s : Bytes, (∀ c ∈ s, isPrintable c = true) → IsMapStr s := by
    intro s hs
    constructor
    · intro hmem
      exact absurd (hs _ hmem) (by decide)
    · intro hmem
      exact absurd (hs _ hmem) (by decide)
  refine fromSlice_pairs fun kv hkv => ?_
  obtain ⟨hkey, hvalue⟩ := printable_kvs h kv hkv
  exact ⟨hclean _ hkey, hclean _ hvalue⟩

/-! ## Parsing the pairs -/

theorem visitAll_append (kvs kvs' : List (Bytes × Bytes)) (g : Filter) :
    visitAll (kvs ++ kvs') g = visitAll kvs g >>= visitAll kvs' := List.foldlM_append

theorem visit_name (g : Filter) (k : FilterKey) (value : Bytes) {g' : Filter}
    (h : g.setKey k value = .ok g') : g.visit (ascii k.name) value = .ok g' := by
  unfold visit set
  rw [FilterKey.ofBytes_name]
  dsimp only
  rw [h]
  rfl

/-- The pair of an optional field sets it. -/
theorem visitAll_somePair {g : Filter} {α : Type} (k : FilterKey) (value : Option α)
    {fmt : α → Bytes} (put : Option α → Filter) (h0 : put none = g)
    (h : ∀ a, g.setKey k (fmt a) = .ok (put (some a))) :
    visitAll (somePair k (value.map fmt)) g = .ok (put value) := by
  cases value with
  | none => exact congrArg Except.ok h0.symm
  | some a =>
    show (g.visit (ascii k.name) (fmt a) >>= fun g => pure g) = _
    rw [visit_name g k _ (h a)]
    rfl

/-- So does the pair of a string. -/
theorem visitAll_string {g : Filter} (k : FilterKey) (value : Option Bytes)
    (put : Option Bytes → Filter) (h0 : put none = g)
    (h : ∀ a, g.setKey k a = .ok (put (some a))) :
    visitAll (somePair k value) g = .ok (put value) := by
  have hid : visitAll (somePair k (value.map id)) g = .ok (put value) :=
    visitAll_somePair k value put h0 h
  rwa [Option.map_id] at hid

/-- The flags after the pair of a flag. -/
def putFlag (f : Filter) (flag flags : FilterFlags) : FilterFlags :=
  if f.flagsMask.contains flag then flags.set flag (f.flags.contains flag) else flags

/-- The mask after the pair of a flag. -/
def putMask (f : Filter) (flag mask : FilterFlags) : FilterFlags :=
  if f.flagsMask.contains flag then mask.insert flag else mask

/-- The pair of a flag sets it. -/
theorem visitAll_flagPair (f : Filter) (k : FilterKey) (flag : FilterFlags)
    (hk : ∀ (g : Filter) value, g.setKey k value = g.setFlag flag value) (g : Filter) :
    visitAll (f.flagPair k flag) g =
      .ok { g with flags := f.putFlag flag g.flags, flagsMask := f.putMask flag g.flagsMask } := by
  unfold flagPair putFlag putMask
  by_cases hmask : f.flagsMask.contains flag = true
  · rw [if_pos hmask, if_pos hmask, if_pos hmask]
    have hset : g.setKey k [if f.flags.contains flag then 49 else 48] =
        .ok (g.insertFlag flag (f.flags.contains flag)) := by
      rw [hk, setFlag, parseBool_digit]
      rfl
    show (g.visit (ascii k.name) _ >>= fun g => pure g) = _
    rw [visit_name g k _ hset]
    rfl
  · rw [if_neg hmask, if_neg hmask, if_neg hmask]
    rfl

@[simp] theorem has_putFlag {f : Filter} {n i : ℕ} (hn : n < 16) (flags : FilterFlags) :
    (f.putFlag (.single n) flags).has i =
      if i = n ∧ f.flagsMask.has n = true then f.flags.has n else flags.has i := by
  unfold putFlag
  rw [Flags.contains_single hn, Flags.contains_single hn]
  by_cases hm : f.flagsMask.has n = true
  · rw [if_pos hm, Flags.has_set hn]
    by_cases hi : i = n <;> simp [hi, hm]
  · rw [if_neg hm, if_neg fun h => hm h.2]

@[simp] theorem has_putMask {f : Filter} {n i : ℕ} (hn : n < 16) (mask : FilterFlags) :
    (f.putMask (.single n) mask).has i =
      if i = n ∧ f.flagsMask.has n = true then true else mask.has i := by
  have hinsert : mask.insert (.single n) = mask.set (.single n) true := rfl
  unfold putMask
  rw [Flags.contains_single hn, hinsert]
  by_cases hm : f.flagsMask.has n = true
  · rw [if_pos hm, Flags.has_set hn]
    by_cases hi : i = n <;> simp [hi, hm]
  · rw [if_neg hm, if_neg fun h => hm h.2]

/-- The bits of the flags, one after another. -/
def flagBits : List ℕ := [0, 1, 1, 3, 4, 2, 5, 6, 7, 8]

theorem has_putFlags (f : Filter) (i : ℕ) : ∀ (bits : List ℕ) (flags : FilterFlags),
    (∀ n ∈ bits, n < 16) →
    (bits.foldl (fun flags n => f.putFlag (.single n) flags) flags).has i =
      if i ∈ bits ∧ f.flagsMask.has i = true then f.flags.has i else flags.has i := by
  intro bits
  induction bits with
  | nil => simp
  | cons n bits ih =>
    intro flags hbits
    rw [List.foldl_cons, ih _ fun n hn => hbits n (by simp [hn]), has_putFlag (hbits n (by simp))]
    by_cases hi : i = n
    · subst hi
      by_cases hm : f.flagsMask.has i = true <;> simp [hm]
    · simp [hi]

theorem has_putMasks (f : Filter) (i : ℕ) : ∀ (bits : List ℕ) (mask : FilterFlags),
    (∀ n ∈ bits, n < 16) →
    (bits.foldl (fun mask n => f.putMask (.single n) mask) mask).has i =
      if i ∈ bits ∧ f.flagsMask.has i = true then true else mask.has i := by
  intro bits
  induction bits with
  | nil => simp
  | cons n bits ih =>
    intro mask hbits
    rw [List.foldl_cons, ih _ fun n hn => hbits n (by simp [hn]), has_putMask (hbits n (by simp))]
    by_cases hi : i = n
    · subst hi
      by_cases hm : f.flagsMask.has i = true <;> simp [hm]
    · simp [hi]

/-- A flag of the mask is one of the named flags. -/
theorem mem_flagBits {f : Filter} (hmask : FilterFlags.all.contains f.flagsMask = true) {i : ℕ}
    (hi : f.flagsMask.has i = true) : i ∈ flagBits := by
  have h9 := Flags.contains_iff.1 hmask i hi
  rw [FilterFlags.has_all, decide_eq_true_eq] at h9
  interval_cases i <;> decide

theorem putFlags_eq {f : Filter} (hmask : FilterFlags.all.contains f.flagsMask = true)
    (hflags : f.flagsMask.contains f.flags = true) :
    flagBits.foldl (fun flags n => f.putFlag (.single n) flags) Flags.empty = f.flags := by
  refine Flags.ext_has fun i _ => ?_
  rw [has_putFlags f i flagBits _ (by decide), Flags.has_empty]
  cases hm : f.flagsMask.has i with
  | true => simp [mem_flagBits hmask hm]
  | false =>
    cases hf : f.flags.has i with
    | true => exact absurd (Flags.contains_iff.1 hflags i hf) (by simp [hm])
    | false => simp

theorem putMasks_eq {f : Filter} (hmask : FilterFlags.all.contains f.flagsMask = true) :
    flagBits.foldl (fun mask n => f.putMask (.single n) mask) Flags.empty = f.flagsMask := by
  refine Flags.ext_has fun i _ => ?_
  rw [has_putMasks f i flagBits _ (by decide), Flags.has_empty]
  cases hm : f.flagsMask.has i with
  | true => simp [mem_flagBits hmask hm]
  | false => simp

/-- The pairs of a filter are parsed to the filter. -/
theorem visitAll_kvs {f : Filter} (hflags : f.flagsMask.contains f.flags = true)
    (hmask : FilterFlags.all.contains f.flagsMask = true) :
    visitAll f.kvs default = .ok f := by
  have hok : ∀ (g : Filter) (F : Filter → Except ProtocolError Filter), (.ok g >>= F) = F g :=
    fun _ _ => rfl
  have hgamedir (g : Filter) : visitAll (somePair .gamedir f.gamedir) g =
      .ok { g with gamedir := f.gamedir.or g.gamedir } :=
    visitAll_string _ _ (fun v => { g with gamedir := v.or g.gamedir }) rfl fun _ => rfl
  have hmap (g : Filter) : visitAll (somePair .map f.map) g =
      .ok { g with map := f.map.or g.map } :=
    visitAll_string _ _ (fun v => { g with map := v.or g.map }) rfl fun _ => rfl
  have hos (g : Filter) : visitAll (somePair .os f.clientOs) g =
      .ok { g with clientOs := f.clientOs.or g.clientOs } :=
    visitAll_string _ _ (fun v => { g with clientOs := v.or g.clientOs }) rfl fun _ => rfl
  have harch (g : Filter) : visitAll (somePair .arch f.clientArch) g =
      .ok { g with clientArch := f.clientArch.or g.clientArch } :=
    visitAll_string _ _ (fun v => { g with clientArch := v.or g.clientArch }) rfl fun _ => rfl
  have hbranch (g : Filter) : visitAll (somePair .branch f.clientBranch) g =
      .ok { g with clientBranch := f.clientBranch.or g.clientBranch } :=
    visitAll_string _ _ (fun v => { g with clientBranch := v.or g.clientBranch }) rfl fun _ => rfl
  have hcommit (g : Filter) : visitAll (somePair .commit f.clientCommit) g =
      .ok { g with clientCommit := f.clientCommit.or g.clientCommit } :=
    visitAll_string _ _ (fun v => { g with clientCommit := v.or g.clientCommit }) rfl fun _ => rfl
  have hclver (g : Filter) : visitAll (somePair .clver (f.clver.map fun v => v.display.flatten)) g =
      .ok { g with clver := f.clver.or g.clver } :=
    visitAll_somePair _ _ (fun v => { g with clver := v.or g.clver }) rfl fun v => by
      rw [setKey, parseVersion_display]
      rfl
  have hkey (g : Filter) : visitAll (somePair .key (f.key.map fun n => numeral 16 n.toNat)) g =
      .ok { g with key := f.key.or g.key } :=
    visitAll_somePair _ _ (fun v => { g with key := v.or g.key }) rfl fun n => by
      rw [setKey, parseHex32_numeral]
      rfl
  have hprotocol (g : Filter) :
      visitAll (somePair .protocol (f.protocol.map fun n => numeral 10 n.toNat)) g =
        .ok { g with protocol := f.protocol.or g.protocol } :=
    visitAll_somePair _ _ (fun v => { g with protocol := v.or g.protocol }) rfl fun n => by
      rw [setKey, parseU8_numeral]
      rfl
  have hbuildnum (g : Filter) :
      visitAll (somePair .buildnum (f.clientBuildnum.map fun n => numeral 10 n.toNat)) g =
        .ok { g with clientBuildnum := f.clientBuildnum.or g.clientBuildnum } :=
    visitAll_somePair _ _ (fun v => { g with clientBuildnum := v.or g.clientBuildnum }) rfl
      fun n => by
        rw [setKey, parseU32_numeral]
        rfl
  unfold kvs
  simp only [visitAll_append, hgamedir, hmap, hos, harch, hbranch, hcommit, hclver, hkey, hprotocol,
    hbuildnum, hok, visitAll_flagPair f .dedicated _ fun _ _ => rfl,
    visitAll_flagPair f .secure _ fun _ _ => rfl, visitAll_flagPair f .empty _ fun _ _ => rfl,
    visitAll_flagPair f .full _ fun _ _ => rfl, visitAll_flagPair f .password _ fun _ _ => rfl,
    visitAll_flagPair f .noplayers _ fun _ _ => rfl, visitAll_flagPair f .nat _ fun _ _ => rfl,
    visitAll_flagPair f .lan _ fun _ _ => rfl, visitAll_flagPair f .bots _ fun _ _ => rfl]
  -- the fields are those of `f`, but for the flags, which went through the pairs one by one
  refine congrArg Except.ok (Eq.trans ?_ (show ({ f with
    flags := flagBits.foldl (fun flags n => f.putFlag (.single n) flags) Flags.empty
    flagsMask := flagBits.foldl (fun mask n => f.putMask (.single n) mask) Flags.empty } : Filter) =
      f by rw [putFlags_eq hmask hflags, putMasks_eq hmask]))
  have hdefault : (default : Filter) =
    ⟨none, none, none, none, none, none, none, none, none, none, Flags.empty, Flags.empty⟩ := rfl
  rw [hdefault]
  simp only [Option.or_none]
  rfl

end Filter

/-! ## What is parsed -/

namespace Filter

/-- What a parsed pair changes: a string is its value, a flag is a named one. -/
theorem setKey_ok {f f' : Filter} {k : FilterKey} {value : Bytes}
    (h : f.setKey k value = .ok f') :
    (∀ s ∈ f'.strings, s = value ∨ s ∈ f.strings) ∧
      (f'.flags = f.flags ∧ f'.flagsMask = f.flagsMask ∨
        ∃ n v, n < 9 ∧ f'.flags = f.flags.set (.single n) v ∧
          f'.flagsMask = f.flagsMask.insert (.single n)) := by
  have hnumber : ∀ {α : Type} {r : Except CursorError α} {F : α → Filter},
      (∀ a, (F a).strings = f.strings ∧ (F a).flags = f.flags ∧ (F a).flagsMask = f.flagsMask) →
      (do let a ← r; return F a) = Except.ok f' →
      f'.strings = f.strings ∧ f'.flags = f.flags ∧ f'.flagsMask = f.flagsMask := by
    intro α r F hF hr
    cases r with
    | error e => cases hr
    | ok a =>
      cases hr
      exact hF a
  have hsame : f'.strings = f.strings ∧ f'.flags = f.flags ∧ f'.flagsMask = f.flagsMask →
      (∀ s ∈ f'.strings, s = value ∨ s ∈ f.strings) ∧
        (f'.flags = f.flags ∧ f'.flagsMask = f.flagsMask ∨
          ∃ n v, n < 9 ∧ f'.flags = f.flags.set (.single n) v ∧
            f'.flagsMask = f.flagsMask.insert (.single n)) := by
    rintro ⟨h1, h2⟩
    exact ⟨fun s hs => Or.inr (h1 ▸ hs), Or.inl h2⟩
  have hflag : ∀ n < 9, f.setFlag (.single n) value = .ok f' →
      (∀ s ∈ f'.strings, s = value ∨ s ∈ f.strings) ∧
        (f'.flags = f.flags ∧ f'.flagsMask = f.flagsMask ∨
          ∃ n v, n < 9 ∧ f'.flags = f.flags.set (.single n) v ∧
            f'.flagsMask = f.flagsMask.insert (.single n)) := by
    intro n hn hset
    unfold setFlag at hset
    cases hv : parseBool value with
    | error e =>
      rw [hv] at hset
      cases hset
    | ok v =>
      rw [hv] at hset
      cases hset
      exact ⟨fun s hs => Or.inr hs, Or.inr ⟨n, v, hn, rfl, rfl⟩⟩
  cases k
  case gamedir | map | os | arch | branch | commit =>
    cases h
    refine ⟨?_, Or.inl ⟨rfl, rfl⟩⟩
    intro s hs
    rw [mem_strings] at hs ⊢
    simp only [Option.some_inj] at hs
    grind
  case protocol =>
    exact hsame (hnumber (F := fun v => { f with protocol := some v }) (fun _ => ⟨rfl, rfl, rfl⟩) h)
  case clver =>
    exact hsame (hnumber (F := fun v => { f with clver := some v }) (fun _ => ⟨rfl, rfl, rfl⟩) h)
  case buildnum =>
    exact hsame
      (hnumber (F := fun v => { f with clientBuildnum := some v }) (fun _ => ⟨rfl, rfl, rfl⟩) h)
  case key =>
    exact hsame (hnumber (F := fun v => { f with key := some v }) (fun _ => ⟨rfl, rfl, rfl⟩) h)
  all_goals exact hflag _ (by decide) h

theorem ofBytes_eq_some {key : Bytes} {k : FilterKey} (h : FilterKey.ofBytes key = some k) :
    key = ascii k.name := by
  have := List.find?_some h
  exact (beq_iff_eq.1 this).symm

/-- A pair of an unknown key is ignored, that of a known one sets its field. -/
theorem visit_ok {f f' : Filter} {key value : Bytes} (h : f.visit key value = .ok f') :
    (f' = f ∧ FilterKey.ofBytes key = none) ∨
      ∃ k, key = ascii k.name ∧ f.setKey k value = .ok f' := by
  unfold visit set at h
  cases hk : FilterKey.ofBytes key with
  | none =>
    rw [hk] at h
    cases h
    exact Or.inl ⟨rfl, rfl⟩
  | some k =>
    rw [hk] at h
    dsimp only at h
    cases hs : f.setKey k value with
    | error e =>
      rw [hs] at h
      cases h
    | ok f₁ =>
      rw [hs] at h
      cases h
      exact Or.inr ⟨k, ofBytes_eq_some hk, hs⟩

/-- The flags are in the mask, and the mask has named flags only. -/
def FlagsValid (f : Filter) : Prop :=
  f.flagsMask.contains f.flags = true ∧ FilterFlags.all.contains f.flagsMask = true

theorem flagsValid_visit {f f' : Filter} {key value : Bytes} (h : f.visit key value = .ok f')
    (hf : f.FlagsValid) : f'.FlagsValid := by
  rcases visit_ok h with ⟨rfl, -⟩ | ⟨k, -, hk⟩
  · exact hf
  rcases (setKey_ok hk).2 with ⟨h1, h2⟩ | ⟨n, v, hn, h1, h2⟩
  · unfold FlagsValid
    rwa [h1, h2]
  have hn' : n < 16 := by omega
  have hinsert : f.flagsMask.insert (.single n) = f.flagsMask.set (.single n) true := rfl
  obtain ⟨hflags, hmask⟩ := hf
  rw [Flags.contains_iff] at hflags hmask
  unfold FlagsValid
  rw [h1, h2, hinsert, Flags.contains_iff, Flags.contains_iff]
  constructor
  · intro i hi
    rw [Flags.has_set hn'] at hi ⊢
    split_ifs at hi ⊢
    · rfl
    · exact hflags i hi
  · intro i hi
    rw [Flags.has_set hn'] at hi
    split_ifs at hi with hin
    · rw [hin, FilterFlags.has_all]
      exact decide_eq_true hn
    · exact hmask i hi

/-- The strings of a parsed filter are map strings, with the bytes of the source. -/
theorem fromSlice_ok {src : Bytes} {f : Filter} (h : fromSlice src = .ok f) :
    (∀ s ∈ f.strings, IsMapStr s ∧ ∀ c ∈ s, c ∈ src) ∧ f.FlagsValid := by
  obtain ⟨it, hit, hfold⟩ : ∃ it, MapIter.fromSlice src = .ok it ∧
      it.tryFold visit default = .ok f := by
    unfold fromSlice at h
    cases hit : MapIter.fromSlice src with
    | error e =>
      rw [hit] at h
      cases h
    | ok it =>
      rw [hit] at h
      exact ⟨it, rfl, h⟩
  obtain ⟨h0, hsub⟩ : (0 : UInt8) ∉ it.bytes ∧ ∀ c ∈ it.bytes, c ∈ src := by
    unfold MapIter.fromSlice at hit
    cases src with
    | nil =>
      cases hit
      simp
    | cons c src =>
      dsimp only at hit
      split_ifs at hit with h1 h2
      cases hit
      exact ⟨h2, fun c hc => List.mem_cons_of_mem _ hc⟩
  constructor
  · refine MapIter.tryFold_invariant (Q := fun s => IsMapStr s ∧ ∀ c ∈ s, c ∈ src)
      (P := fun f : Filter => ∀ s ∈ f.strings, IsMapStr s ∧ ∀ c ∈ s, c ∈ src) ?_ it default ?_ hfold ?_
    · intro f key value f' hvalue hvisit hf s hs
      rcases visit_ok hvisit with ⟨rfl, -⟩ | ⟨k, -, hk⟩
      · exact hf s hs
      · rcases (setKey_ok hk).1 s hs with rfl | hs
        · exact hvalue
        · exact hf s hs
    · exact fun value hvalue h92 =>
        ⟨⟨h92, fun hz => h0 (hvalue 0 hz)⟩, fun c hc => hsub c (hvalue c hc)⟩
    · intro s hs
      cases hs
  · refine MapIter.tryFold_invariant (Q := fun _ => True) (P := FlagsValid)
      (fun f key value f' _ hvisit hf => flagsValid_visit hvisit hf) it default
      (fun _ _ _ => trivial) hfold ?_
    exact ⟨by decide, by decide⟩

end Filter

/-! ## Queries -/

namespace QueryServers

variable {q : QueryServers Filter}

/-- The bytes of an encoded query. -/
def wire (q : QueryServers Filter) : Bytes :=
  header ++ ([q.region.toU8] ++ ((strFormatBytes q.last).flatten ++ ([0] ++
    (q.filter.display.flatten ++ [0]))))

theorem encode_eq (q : QueryServers Filter) (cap : ℕ) : q.encode cap =
    if q.wire.length ≤ cap then .ok q.wire else .error (.cursorError .bufferOverflow) :=
  ((Writes.putBytes header).seq ((Writes.putU8 _).seq ((Writes.putAsStr _).seq
    ((Writes.putU8 0).seq ((Writes.putAsStr _).seq (Writes.putU8 0)))))).run cap

/-- Decoding a packet of two strings without zero bytes. -/
theorem decode_packet (r : Region) {last raw : Bytes} (hlast : (0 : UInt8) ∉ last)
    (hraw : (0 : UInt8) ∉ raw) :
    decode (header ++ ([r.toU8] ++ (last ++ ([0] ++ (raw ++ [0]))))) =
      (Filter.fromSlice raw).map fun f => ⟨r, last, f⟩ := by
  have hsrc : header ++ ([r.toU8] ++ (last ++ ([0] ++ (raw ++ [0])))) =
      before r.toU8 last ++ (raw ++ [0]) := by simp [before]
  rw [hsrc, decode_before _ hlast, Region.tryFrom_toU8]
  exact decodeFilter_with (before r.toU8 last) r hraw

/-- What is decoded has a string without zero bytes and a parsed filter. -/
theorem decode_ok {src : Bytes} (h : decode src = .ok q) :
    (0 : UInt8) ∉ q.last ∧ ∃ raw, Filter.fromSlice raw = .ok q.filter := by
  unfold decode decodeWith Read.run at h
  obtain ⟨-, c₁, -, h⟩ := Read.bind_eq_ok (Prod.ext h rfl)
  obtain ⟨b, c₂, -, h⟩ := Read.bind_eq_ok h
  obtain ⟨r, c₃, -, h⟩ := Read.bind_eq_ok h
  obtain ⟨last, c₄, hlast, h⟩ := Read.bind_eq_ok h
  obtain ⟨cstr, c₅, -, h⟩ := Read.bind_eq_ok h
  have h0 := Cursor.getCstr_ok (Read.lift_eq_ok hlast)
  cases cstr with
  | ok s =>
    obtain ⟨-, c₆, -, h⟩ := Read.bind_eq_ok h
    obtain ⟨raw, c₇, -, h⟩ := Read.bind_eq_ok h
    obtain ⟨f, c₈, hf, h⟩ := Read.bind_eq_ok h
    cases h
    exact ⟨h0, raw, congrArg Prod.fst hf⟩
  | error e =>
    obtain ⟨raw, c₆, -, h⟩ := Read.bind_eq_ok h
    obtain ⟨f, c₇, hf, h⟩ := Read.bind_eq_ok h
    cases h
    exact ⟨h0, raw, congrArg Prod.fst hf⟩

/-- The strings of a query are printable, and its mask has named flags only. -/
def Plain (q : QueryServers Filter) : Prop :=
  (∀ c ∈ q.last, isPrintable c = true) ∧ q.filter.Printable ∧
    FilterFlags.all.contains q.filter.flagsMask = true

/-- Whatever the encoder gives decodes to the query. -/
def RoundTrips (q : QueryServers Filter) : Prop :=
  ∀ cap out, q.encode cap = .ok out → decode out = .ok q

theorem printed_display (f : Filter) : Printed f.display.flatten := by
  have hnum (radix n : ℕ) (h1 : 1 < radix) (h2 : radix ≤ 16) :
      Printed [numeral radix n].flatten := by
    intro c hc
    rw [List.flatten_singleton] at hc
    exact Or.inl (Filter.printable_of_isDigit (isDigit_of_mem_numeral h1 h2 hc))
  have hversion (v : Version) : Printed v.display.flatten := fun c hc =>
    Or.inl (Filter.printable_version hc)
  unfold Filter.display
  simp only [List.flatten_append, Printed.append_iff]
  simp only [Filter.printed_displayFlag, Filter.printed_displaySome, printed_strFormatBytes,
    hversion, hnum, implies_true, and_self, Nat.one_lt_ofNat, Nat.reduceLeDiff]

theorem decode_wire (q : QueryServers Filter) : decode q.wire =
    (Filter.fromSlice q.filter.display.flatten).map fun f =>
      ⟨q.region, (strFormatBytes q.last).flatten, f⟩ :=
  decode_packet q.region (printed_strFormatBytes q.last).not_mem_zero
    (printed_display q.filter).not_mem_zero

theorem roundTrips_iff_decode_wire : RoundTrips q ↔ decode q.wire = .ok q := by
  constructor
  · intro h
    refine h q.wire.length q.wire ?_
    rw [encode_eq, if_pos le_rfl]
  · intro h cap out hout
    rw [encode_eq] at hout
    split_ifs at hout
    cases hout
    exact h

theorem roundTrips_iff (hflags : q.filter.flagsMask.contains q.filter.flags = true) :
    RoundTrips q ↔ Plain q := by
  rw [roundTrips_iff_decode_wire, decode_wire]
  constructor
  · intro h
    cases hf : Filter.fromSlice q.filter.display.flatten with
    | error e =>
      rw [hf] at h
      cases h
    | ok f =>
      rw [hf] at h
      have hq : (⟨q.region, (strFormatBytes q.last).flatten, f⟩ : QueryServers Filter) = q :=
        Except.ok.inj h
      have hlast : (strFormatBytes q.last).flatten = q.last := congrArg QueryServers.last hq
      have hfilter : f = q.filter := congrArg QueryServers.filter hq
      rw [hfilter] at hf
      obtain ⟨hstrings, -, hmask⟩ := Filter.fromSlice_ok hf
      rw [strFormatBytes_flatten] at hlast
      refine ⟨printable_of_flatMap_escaped hlast, ?_, hmask⟩
      intro s hs c hc
      obtain ⟨⟨h92, -⟩, hsub⟩ := hstrings s hs
      refine (printed_display q.filter c (hsub c hc)).resolve_right ?_
      rintro rfl
      exact h92 hc
  · rintro ⟨hlast, hprintable, hmask⟩
    rw [Filter.flatten_display hprintable, Filter.fromSlice_kvs hprintable,
      Filter.visitAll_kvs hflags hmask, strFormatBytes_printable hlast]
    rfl

/-- What the two sides agree to write: a string without zero bytes, map strings, and flags within
the mask. -/
def WellFormed (q : QueryServers Filter) : Prop :=
  (0 : UInt8) ∉ q.last ∧ (∀ s ∈ q.filter.strings, IsMapStr s) ∧
    q.filter.flagsMask.contains q.filter.flags = true

/-- A well formed query comes back exactly if it is plain; a decoded query is well formed. -/
theorem query_roundtrip_iff (q : QueryServers Filter) :
    (q.WellFormed → (RoundTrips q ↔ Plain q)) ∧
      ∀ src, decode src = .ok q → q.WellFormed ∧ (RoundTrips q ↔ Plain q) := by
  constructor
  · rintro ⟨-, -, hflags⟩
    exact roundTrips_iff hflags
  · intro src h
    obtain ⟨hlast, raw, hraw⟩ := decode_ok h
    obtain ⟨hstrings, hflags, -⟩ := Filter.fromSlice_ok hraw
    exact ⟨⟨hlast, fun s hs => (hstrings s hs).1, hflags⟩, roundTrips_iff hflags⟩

/-- A query for the servers of the map `café`, in Latin-1. -/
def cafe : QueryServers Filter := .new { (default : Filter) with map := some (ascii "caf" ++ [0xe9]) }

/-- The query as a client writes it. -/
def cafePacket : Bytes :=
  [0x31, 0xff] ++ ascii "0.0.0.0:0" ++ [0] ++ ascii "\\map\\caf" ++ [0xe9, 0]

/-- The query as `encode` writes it: the backslash of the escape starts a key without a value. -/
def cafeEscaped : Bytes :=
  [0x31, 0xff] ++ ascii "0.0.0.0:0" ++ [0] ++ ascii "\\map\\caf\\xe9" ++ [0]

/-- The name of a map is escaped, and the query is refused. -/
theorem query_escaped :
    decode cafePacket = .ok cafe ∧ cafe.WellFormed ∧ cafe.encode 512 = .ok cafeEscaped ∧
      decode cafeEscaped = .error .invalidMap := by
  refine ⟨?_, ⟨?_, ?_, ?_⟩, ?_, ?_⟩
  · decide +kernel
  · decide +kernel
  · unfold IsMapStr
    decide +kernel
  · decide +kernel
  · decide +kernel
  · decide +kernel

end QueryServers

end Xash3d
