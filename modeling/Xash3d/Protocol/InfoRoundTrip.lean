import Xash3d.Protocol.Net.Info2
import Xash3d.Protocol.Terminators

/-!
# Info strings there and back

`ServerAdd` and `GetServerInfoResponse` are written as map strings of raw values and parsed key by
key. What is written comes back (`decode_wire`), and what is parsed can be written
(`Carried.visit`): a parsed string has no delimiter, and the flag of bots follows their number.
-/

namespace Xash3d

open Lib

/-! ## Written values -/

/-- A pair in front of others. -/
theorem Writes.putKey_pairs {p q : Put} {v t : Bytes} {kvs : List (Bytes × Bytes)} (key : String)
    (hp : Writes p v) (hq : Writes q (MapIter.pairs kvs ++ t)) :
    Writes (CursorMut.putKey key p >=> q) (MapIter.pairs ((ascii key, v) :: kvs) ++ t) := by
  rw [MapIter.pairs_cons, List.append_assoc]
  exact (Writes.putKey key hp).seq hq

/-- The last pair. -/
theorem Writes.putKey_last {p : Put} {v : Bytes} (key : String) (hp : Writes p v) :
    Writes (CursorMut.putKey key p) (MapIter.pairs [(ascii key, v)] ++ []) := by
  have h := Writes.putKey key hp
  simpa using h

theorem writes_putNumber (n : UInt8) :
    Writes (GetServerInfoResponse.putNumber n) (numeral 10 n.toNat) := by
  have h := Writes.putAsStr [numeral 10 n.toNat]
  rwa [List.flatten_singleton] at h

theorem writes_putBool (v : Bool) :
    Writes (GetServerInfoResponse.putBool v) [if v then 49 else 48] := Writes.putU8 _

theorem writes_version (v : Version) : Writes v.putKeyValue v.display.flatten := by
  have hsome := (writes_putNumber v.major).seq ((Writes.putU8 46).seq ((writes_putNumber v.minor).seq
    ((Writes.putU8 46).seq (writes_putNumber v.patch))))
  have hdot : ascii "." = [46] := by decide
  unfold Version.putKeyValue Version.display
  rw [hdot]
  by_cases h : v.patch > 0
  · rw [if_pos h, if_pos (by rintro h0; rw [h0] at h; exact absurd h (by decide))]
    simpa using hsome
  · have h0 : v.patch = 0 := by
      by_contra h0
      exact h (UInt8.pos_iff_ne_zero.2 h0)
    rw [if_neg h, if_neg (by simpa using h0)]
    -- without a patch number nothing follows the minor number
    have hend := (writes_putNumber v.major).seq ((Writes.putU8 46).seq
      ((writes_putNumber v.minor).seq fun c => (Writes.putBytes_nil c).symm))
    simpa using hend

/-- The letter of a server type. -/
def ServerType.letter : ServerType → Bytes
  | .dedicated => ascii "d"
  | .local => ascii "l"
  | .proxy => ascii "p"
  | .unknown => ascii "?"

theorem writes_serverType (t : ServerType) : Writes t.putKeyValue t.letter := by
  cases t <;> exact Writes.putBytes _

@[simp] theorem ServerType.ofMapStr_letter (t : ServerType) : ofMapStr t.letter = t := by
  cases t <;> decide

/-- The letter of an operating system. -/
def Os.letter : Os → Bytes
  | .linux => ascii "l"
  | .windows => ascii "w"
  | .mac => ascii "m"
  | .unknown => ascii "?"

theorem writes_os (os : Os) : Writes os.putKeyValue os.letter := by
  cases os <;> exact Writes.putBytes _

@[simp] theorem Os.ofMapStr_letter (os : Os) : ofMapStr os.letter = os := by
  cases os <;> decide

theorem isPrefixOf_append (s t : Bytes) : s.isPrefixOf (s ++ t) = true :=
  List.isPrefixOf_iff_prefix.2 (List.prefix_append s t)

theorem stripPrefix_ok {info tail : Bytes} (h : stripPrefix info = .ok tail) :
    tail = info.tail := by
  unfold stripPrefix at h
  cases info with
  | nil =>
    cases h
    rfl
  | cons d s =>
    dsimp only at h
    by_cases hd : d = 92
    · rw [if_pos hd] at h
      cases h
      rfl
    · rw [if_neg hd] at h
      cases h

theorem isMapStr_numeral (n : ℕ) : IsMapStr (numeral 10 n) :=
  ⟨not_mem_numeral (by decide), not_mem_numeral (by decide)⟩

theorem isMapStr_digit (b : Bool) : IsMapStr [if b then 49 else 48] := by cases b <;> decide

/-! ## Replies to game clients -/

namespace GetServerInfoResponse

variable {r : GetServerInfoResponse}

/-- The pairs of a reply. -/
def kvs (r : GetServerInfoResponse) : List (Bytes × Bytes) :=
  [(ascii InfoKey.p.name, numeral 10 r.protocol.toNat),
    (ascii InfoKey.map.name, r.map),
    (ascii InfoKey.dm.name, [if r.dm then 49 else 48]),
    (ascii InfoKey.team.name, [if r.team then 49 else 48]),
    (ascii InfoKey.coop.name, [if r.coop then 49 else 48]),
    (ascii InfoKey.numcl.name, numeral 10 r.numcl.toNat),
    (ascii InfoKey.maxcl.name, numeral 10 r.maxcl.toNat),
    (ascii InfoKey.gamedir.name, r.gamedir),
    (ascii InfoKey.password.name, [if r.password then 49 else 48]),
    (ascii InfoKey.dedicated.name, [if r.dedicated then 49 else 48]),
    (ascii InfoKey.host.name, r.host)]

theorem kvs_ne_nil (r : GetServerInfoResponse) : r.kvs ≠ [] := List.cons_ne_nil _ _

/-- The bytes of an encoded reply. -/
def wire (r : GetServerInfoResponse) : Bytes := header ++ (MapIter.pairs r.kvs ++ [])

theorem encode_eq (r : GetServerInfoResponse) (cap : ℕ) : r.encode cap =
    if r.wire.length ≤ cap then .ok r.wire else .error (.cursorError .bufferOverflow) := by
  refine Writes.run (s := r.wire) ?_ cap
  refine (Writes.putBytes header).seq ?_
  refine Writes.putKey_pairs "p" (writes_putNumber r.protocol) ?_
  refine Writes.putKey_pairs "map" (Writes.putBytes r.map) ?_
  refine Writes.putKey_pairs "dm" (writes_putBool r.dm) ?_
  refine Writes.putKey_pairs "team" (writes_putBool r.team) ?_
  refine Writes.putKey_pairs "coop" (writes_putBool r.coop) ?_
  refine Writes.putKey_pairs "numcl" (writes_putNumber r.numcl) ?_
  refine Writes.putKey_pairs "maxcl" (writes_putNumber r.maxcl) ?_
  refine Writes.putKey_pairs "gamedir" (Writes.putBytes r.gamedir) ?_
  refine Writes.putKey_pairs "password" (writes_putBool r.password) ?_
  refine Writes.putKey_pairs "dedicated" (writes_putBool r.dedicated) ?_
  exact Writes.putKey_last "host" (Writes.putBytes r.host)

/-- The strings of a reply are map strings. -/
def Carried (r : GetServerInfoResponse) : Prop :=
  IsMapStr r.gamedir ∧ IsMapStr r.map ∧ IsMapStr r.host

/-- The pair of a known key sets its field. -/
theorem visit_name (r : GetServerInfoResponse) (k : InfoKey) (value : Bytes) :
    r.visit (ascii k.name) value = match r.set (ascii k.name) value with
      | .ok (_, r) => .ok r
      | .error err => .error (.invalidServerValue k.name err) := by
  unfold visit keyNameStr
  rw [InfoKey.ofBytes_name]
  rfl

/-- The parsing loop over a list of pairs. -/
def visitAll (kvs : List (Bytes × Bytes)) (r : GetServerInfoResponse) :
    Except ProtocolError GetServerInfoResponse :=
  kvs.foldlM (fun r kv => visit r kv.1 kv.2) r

/-- The pairs of a reply are parsed to it. -/
theorem visitAll_kvs (r : GetServerInfoResponse) : visitAll r.kvs default = .ok r := by
  unfold visitAll kvs
  simp only [List.foldlM_cons, List.foldlM_nil, visit_name, set, InfoKey.ofBytes_name]
  simp [bind, Except.bind, pure, Except.pure, Functor.map, Except.map]

theorem isMapStr_name (k : InfoKey) : IsMapStr (ascii k.name) := by cases k <;> decide +kernel

theorem isMapStr_kvs (h : r.Carried) : ∀ kv ∈ r.kvs, IsMapStr kv.1 ∧ IsMapStr kv.2 := by
  obtain ⟨hgamedir, hmap, hhost⟩ := h
  unfold kvs
  simp only [List.forall_mem_cons, List.not_mem_nil, false_imp_iff, implies_true, and_true]
  exact ⟨⟨isMapStr_name _, isMapStr_numeral _⟩, ⟨isMapStr_name _, hmap⟩,
    ⟨isMapStr_name _, isMapStr_digit _⟩, ⟨isMapStr_name _, isMapStr_digit _⟩,
    ⟨isMapStr_name _, isMapStr_digit _⟩, ⟨isMapStr_name _, isMapStr_numeral _⟩,
    ⟨isMapStr_name _, isMapStr_numeral _⟩, ⟨isMapStr_name _, hgamedir⟩,
    ⟨isMapStr_name _, isMapStr_digit _⟩, ⟨isMapStr_name _, isMapStr_digit _⟩,
    ⟨isMapStr_name _, hhost⟩⟩

/-- Decoding an info string without a terminator. -/
theorem decode_pairs {kvs : List (Bytes × Bytes)} (hne : kvs ≠ [])
    (h : ∀ kv ∈ kvs, IsMapStr kv.1 ∧ IsMapStr kv.2) :
    decode (header ++ MapIter.pairs kvs) = visitAll kvs default := by
  have h0 : (0 : UInt8) ∉ MapIter.pairs kvs :=
    MapIter.not_mem_pairs (by decide) fun kv hkv => ⟨(h kv hkv).1.2, (h kv hkv).2.2⟩
  have hs : (MapIter.pairs kvs).head? = some 92 := by
    cases kvs with
    | nil => exact absurd rfl hne
    | cons kv kvs => rfl
  have hinfo := decode_info hs []
  rw [List.append_nil] at hinfo
  rw [hinfo, decodeInfo_without header h0, parse, stripPrefix_pairs]
  exact MapIter.tryFold_pairs visit (fun kv hkv => ⟨(h kv hkv).1.1, (h kv hkv).2.1⟩) default

theorem encode_eq_ok {cap : ℕ} {out : Bytes} (h : r.encode cap = .ok out) :
    out = header ++ MapIter.pairs r.kvs := by
  rw [encode_eq, wire, List.append_nil] at h
  exact Writes.eq_of_encoded h

/-- A reply comes back as it was. -/
theorem decode_of_encode {cap : ℕ} {out : Bytes} (h : r.Carried) (hout : r.encode cap = .ok out) :
    decode out = .ok r := by
  rw [encode_eq_ok hout, decode_pairs r.kvs_ne_nil (isMapStr_kvs h), visitAll_kvs]

theorem decode_encode {cap : ℕ} {out : Bytes} (h : r.Carried) (hout : r.encode cap = .ok out) :
    Server.Packet.decode out = .ok (some (.getServerInfoResponse r)) := by
  have hdecode := decode_of_encode h hout
  rw [encode_eq_ok hout] at hdecode ⊢
  rw [Server.Packet.decode_getServerInfoResponse (isPrefixOf_append _ _), hdecode]
  rfl

/-- What a parsed pair does. -/
theorem visit_ok {r r' : GetServerInfoResponse} {key value : Bytes}
    (h : r.visit key value = .ok r') : ∃ known, r.set key value = .ok (known, r') := by
  unfold visit at h
  cases hs : r.set key value with
  | error e =>
    rw [hs] at h
    cases h
  | ok kr =>
    rw [hs] at h
    cases h
    exact ⟨kr.1, rfl⟩

/-- What is parsed of a map string keeps the strings carried. -/
theorem Carried.visit {r r' : GetServerInfoResponse} {key value : Bytes} (hvalue : IsMapStr value)
    (h : r.visit key value = .ok r') (hr : r.Carried) : r'.Carried := by
  obtain ⟨known, h⟩ := visit_ok h
  have hparsed : ∀ {α : Type} {x : Except CursorError α} {put : α → GetServerInfoResponse},
      (do let a ← x; return put a) = Except.ok r' → (∀ a, (put a).Carried) → r'.Carried := by
    intro α x put hx hput
    obtain ⟨a, -, rfl⟩ := parsed_ok hx
    exact hput a
  obtain ⟨hgamedir, hmap, hhost⟩ := hr
  unfold set at h
  cases hk : InfoKey.ofBytes key with
  | none =>
    rw [hk] at h
    cases h
    exact ⟨hgamedir, hmap, hhost⟩
  | some k =>
    rw [hk] at h
    obtain ⟨a, ha, heq⟩ := parsed_ok h
    obtain ⟨-, rfl⟩ := Prod.ext_iff.1 heq
    cases k
    case map =>
      cases ha
      exact ⟨hgamedir, hvalue, hhost⟩
    case gamedir =>
      cases ha
      exact ⟨hvalue, hmap, hhost⟩
    case host =>
      cases ha
      exact ⟨hgamedir, hmap, hvalue⟩
    all_goals exact hparsed ha fun _ => ⟨hgamedir, hmap, hhost⟩

/-- The strings of a decoded reply are carried. -/
theorem carried_of_decode {src : Bytes} (h : decode src = .ok r) : r.Carried := by
  have hfold : ∀ {info : Bytes} {c c' : Cursor}, (0 : UInt8) ∉ info →
      (Read.ofExcept (stripPrefix info) >>= fun info =>
        Read.ofExcept ((MapIter.mk info).tryFold GetServerInfoResponse.visit default)) c =
          (.ok r, c') → r.Carried := by
    intro info c c' h0 h
    obtain ⟨tail, c₁, hstrip, h⟩ := Read.bind_eq_ok h
    obtain rfl := stripPrefix_ok (Prod.ext_iff.1 hstrip).1
    refine MapIter.tryFold_invariant (fun s key value s' hv hs hr => Carried.visit hv hs hr)
      ⟨info.tail⟩ default (fun value hmem h92 => ⟨h92, fun hz => h0 ?_⟩) (Prod.ext_iff.1 h).1 ?_
    · exact List.mem_of_mem_tail (hmem 0 hz)
    · exact ⟨by decide, by decide, by decide⟩
  unfold decode Read.run at h
  obtain ⟨-, c₁, -, h⟩ := Read.bind_eq_ok (Prod.ext h rfl)
  obtain ⟨s, c₂, -, h⟩ := Read.bind_eq_ok h
  by_cases hpre : (!(ascii "\\").isPrefixOf s) = true
  · rw [if_pos hpre] at h
    obtain ⟨s', c₃, -, h⟩ := Read.bind_eq_ok h
    cases h
  rw [if_neg hpre] at h
  obtain ⟨cstr, c₃, hcstr, h⟩ := Read.bind_eq_ok h
  cases cstr with
  | ok s =>
    obtain ⟨-, c₄, -, h⟩ := Read.bind_eq_ok h
    obtain ⟨info, c₅, hinfo, h⟩ := Read.bind_eq_ok h
    cases hinfo
    exact hfold (Cursor.getCstrFfi_ok (Read.attempt_eq_ok hcstr)) h
  | error e =>
    obtain ⟨info, c₄, hinfo, hparse⟩ := Read.bind_eq_ok h
    obtain ⟨rfl, h0⟩ := Cursor.getCstrFfi_error (Read.attempt_eq_ok hcstr)
    cases hinfo
    exact hfold h0 hparse

end GetServerInfoResponse

/-! ## Registrations -/

namespace ServerAdd

variable {r : ServerAdd}

/-- The pairs of a registration. -/
def kvs (r : ServerAdd) : List (Bytes × Bytes) :=
  [(ascii ServerAddKey.protocol.name, numeral 10 r.protocol.toNat),
    (ascii ServerAddKey.challenge.name, numeral 10 r.challenge.toNat),
    (ascii ServerAddKey.players.name, numeral 10 r.players.toNat),
    (ascii ServerAddKey.max.name, numeral 10 r.max.toNat),
    (ascii ServerAddKey.gamedir.name, r.gamedir),
    (ascii ServerAddKey.map.name, r.map),
    (ascii ServerAddKey.type.name, r.serverType.letter),
    (ascii ServerAddKey.os.name, r.os.letter),
    (ascii ServerAddKey.version.name, r.version.display.flatten),
    (ascii ServerAddKey.region.name, numeral 10 r.region.toU8.toNat),
    (ascii ServerAddKey.bots.name, numeral 10 r.bots.toNat),
    (ascii ServerAddKey.password.name, [if r.flags.contains ServerFlags.password then 49 else 48]),
    (ascii ServerAddKey.secure.name, [if r.flags.contains ServerFlags.secure then 49 else 48]),
    (ascii ServerAddKey.lan.name, [if r.flags.contains ServerFlags.lan then 49 else 48]),
    (ascii ServerAddKey.nat.name, [if r.flags.contains ServerFlags.nat then 49 else 48])]

/-- The bytes of an encoded registration. -/
def wire (r : ServerAdd) : Bytes := header ++ (MapIter.pairs r.kvs ++ [10])

theorem encode_eq (r : ServerAdd) (cap : ℕ) : r.encode cap =
    if r.wire.length ≤ cap then .ok r.wire else .error (.cursorError .bufferOverflow) := by
  have hchallenge := Writes.putAsStr [numeral 10 r.challenge.toNat]
  rw [List.flatten_singleton] at hchallenge
  refine Writes.run (s := r.wire) ?_ cap
  refine (Writes.putBytes header).seq ?_
  refine Writes.putKey_pairs "protocol" (writes_putNumber r.protocol) ?_
  refine Writes.putKey_pairs "challenge" hchallenge ?_
  refine Writes.putKey_pairs "players" (writes_putNumber r.players) ?_
  refine Writes.putKey_pairs "max" (writes_putNumber r.max) ?_
  refine Writes.putKey_pairs "gamedir" (Writes.putBytes r.gamedir) ?_
  refine Writes.putKey_pairs "map" (Writes.putBytes r.map) ?_
  refine Writes.putKey_pairs "type" (writes_serverType r.serverType) ?_
  refine Writes.putKey_pairs "os" (writes_os r.os) ?_
  refine Writes.putKey_pairs "version" (writes_version r.version) ?_
  refine Writes.putKey_pairs "region" (writes_putNumber r.region.toU8) ?_
  refine Writes.putKey_pairs "bots" (writes_putNumber r.bots) ?_
  refine Writes.putKey_pairs "password" (writes_putBool _) ?_
  refine Writes.putKey_pairs "secure" (writes_putBool _) ?_
  refine Writes.putKey_pairs "lan" (writes_putBool _) ?_
  refine Writes.putKey_pairs "nat" (writes_putBool _) ?_
  exact Writes.putU8 10

/-- Neither a delimiter nor the end of an info string. -/
def IsInfoStr (s : Bytes) : Prop := (92 : UInt8) ∉ s ∧ (10 : UInt8) ∉ s ∧ (0 : UInt8) ∉ s

instance : DecidablePred IsInfoStr := fun _ => inferInstanceAs (Decidable (_ ∧ _ ∧ _))

/-- The strings of a registration are those of an info string, and the flag of bots follows their
number. -/
def Carried (r : ServerAdd) : Prop :=
  IsInfoStr r.gamedir ∧ IsInfoStr r.map ∧
    (r.flags.contains ServerFlags.bots = true ↔ r.bots ≠ 0)

instance : DecidablePred Carried := fun _ => inferInstanceAs (Decidable (_ ∧ _ ∧ _))

/-- No flags but the named ones. -/
def Named (flags : ServerFlags) : Prop := ∀ i, 5 ≤ i → flags.has i = false

/-- The parsing loop over a list of pairs. -/
def visitAll (kvs : List (Bytes × Bytes)) (st : ServerAdd × Bool) :
    Except ProtocolError (ServerAdd × Bool) :=
  kvs.foldlM (fun st kv => visit st kv.1 kv.2) st

/-- The pair of a known key sets its field. -/
theorem visit_name (st : ServerAdd × Bool) (k : ServerAddKey) (value : Bytes) :
    visit st (ascii k.name) value = match st.1.set (ascii k.name) value with
      | .ok (true, r) => .ok (r, st.2 || ascii k.name == ascii "challenge")
      | .ok (false, r) => .ok (r, st.2)
      | .error err => .error (.invalidServerValue k.name err) := by
  unfold visit keyNameStr
  rw [ServerAddKey.ofBytes_name]
  rfl

/-- The flags of a registration, put together from its pairs. -/
theorem flags_set (r : ServerAdd) (h : Named r.flags)
    (hbots : r.flags.contains ServerFlags.bots = true ↔ r.bots ≠ 0) :
    (((((Flags.empty : ServerFlags).set ServerFlags.bots (r.bots != 0)).set ServerFlags.password
      (r.flags.contains ServerFlags.password)).set ServerFlags.secure
      (r.flags.contains ServerFlags.secure)).set ServerFlags.lan
      (r.flags.contains ServerFlags.lan)).set ServerFlags.nat
      (r.flags.contains ServerFlags.nat) = r.flags := by
  have h0 : (r.bots != 0) = r.flags.contains ServerFlags.bots := by
    rw [Bool.eq_iff_iff, hbots]
    simp
  rw [h0]
  unfold ServerFlags.bots ServerFlags.password ServerFlags.secure ServerFlags.lan ServerFlags.nat
  refine Flags.ext_has fun i hi => ?_
  rw [Flags.has_set (by decide), Flags.has_set (by decide), Flags.has_set (by decide),
    Flags.has_set (by decide), Flags.has_set (by decide)]
  simp only [Flags.contains_single (w := 8) (show 0 < 8 by decide),
    Flags.contains_single (w := 8) (show 1 < 8 by decide),
    Flags.contains_single (w := 8) (show 2 < 8 by decide),
    Flags.contains_single (w := 8) (show 3 < 8 by decide),
    Flags.contains_single (w := 8) (show 4 < 8 by decide), Flags.has_empty]
  split_ifs with h4 h3 h2 h1 h0
  · rw [h4]
  · rw [h3]
  · rw [h2]
  · rw [h1]
  · rw [h0]
  · exact (h i (by omega)).symm

/-- The pairs of a registration are parsed to it. -/
theorem visitAll_kvs (h : r.Carried) (hn : Named r.flags) :
    visitAll r.kvs (default, false) = .ok (r, true) := by
  have hflags := flags_set r hn h.2.2
  unfold visitAll kvs
  simp only [List.foldlM_cons, List.foldlM_nil, visit_name, set, setFlag, ServerAddKey.ofBytes_name]
  simp [bind, Except.bind, pure, Except.pure, Functor.map, Except.map, ServerAddKey.name,
    parseVersion_display, Except.toOption]
  rw [show (default : ServerAdd).flags = Flags.empty from rfl, hflags]

theorem isInfoStr_name (k : ServerAddKey) : IsInfoStr (ascii k.name) := by
  cases k <;> decide +kernel

theorem isInfoStr_numeral (n : ℕ) : IsInfoStr (numeral 10 n) :=
  ⟨not_mem_numeral (by decide), not_mem_numeral (by decide), not_mem_numeral (by decide)⟩

theorem isInfoStr_digit (b : Bool) : IsInfoStr [if b then 49 else 48] := by cases b <;> decide

theorem isInfoStr_version (v : Version) : IsInfoStr v.display.flatten := by
  have hnot : ∀ c, ¬ IsDigit c → c ≠ 46 → c ∉ v.display.flatten := by
    intro c hd h46 hc
    rcases mem_version_display hc with h | h
    · exact hd h
    · exact h46 h
  exact ⟨hnot _ (by decide) (by decide), hnot _ (by decide) (by decide),
    hnot _ (by decide) (by decide)⟩

theorem isInfoStr_kvs (h : r.Carried) : ∀ kv ∈ r.kvs, IsInfoStr kv.1 ∧ IsInfoStr kv.2 := by
  obtain ⟨hgamedir, hmap, -⟩ := h
  have htype : IsInfoStr r.serverType.letter := by cases r.serverType <;> decide
  have hos : IsInfoStr r.os.letter := by cases r.os <;> decide
  unfold kvs
  simp only [List.forall_mem_cons, List.not_mem_nil, false_imp_iff, implies_true, and_true]
  exact ⟨⟨isInfoStr_name _, isInfoStr_numeral _⟩, ⟨isInfoStr_name _, isInfoStr_numeral _⟩,
    ⟨isInfoStr_name _, isInfoStr_numeral _⟩, ⟨isInfoStr_name _, isInfoStr_numeral _⟩,
    ⟨isInfoStr_name _, hgamedir⟩, ⟨isInfoStr_name _, hmap⟩, ⟨isInfoStr_name _, htype⟩,
    ⟨isInfoStr_name _, hos⟩, ⟨isInfoStr_name _, isInfoStr_version _⟩,
    ⟨isInfoStr_name _, isInfoStr_numeral _⟩, ⟨isInfoStr_name _, isInfoStr_numeral _⟩,
    ⟨isInfoStr_name _, isInfoStr_digit _⟩, ⟨isInfoStr_name _, isInfoStr_digit _⟩,
    ⟨isInfoStr_name _, isInfoStr_digit _⟩, ⟨isInfoStr_name _, isInfoStr_digit _⟩⟩

/-- Decoding an info string, with or without a newline at the end. -/
theorem decode_visitAll {kvs : List (Bytes × Bytes)} {nl : Bytes} (hnl : nl = [] ∨ nl = [10])
    (h : ∀ kv ∈ kvs, IsInfoStr kv.1 ∧ IsInfoStr kv.2) :
    decode (header ++ (MapIter.pairs kvs ++ nl)) = (do
      let st ← visitAll kvs (default, false)
      if st.2 then return st.1 else .error (.invalidServerValue "challenge" .expect)) := by
  have h10 : (10 : UInt8) ∉ MapIter.pairs kvs :=
    MapIter.not_mem_pairs (by decide) fun kv hkv => ⟨(h kv hkv).1.2.1, (h kv hkv).2.2.1⟩
  have h0 : (0 : UInt8) ∉ MapIter.pairs kvs :=
    MapIter.not_mem_pairs (by decide) fun kv hkv => ⟨(h kv hkv).1.2.2, (h kv hkv).2.2.2⟩
  have hfold : (MapIter.mk (MapIter.pairs kvs).tail).tryFold visit (default, false) =
      visitAll kvs (default, false) :=
    MapIter.tryFold_pairs visit (fun kv hkv => ⟨(h kv hkv).1.1, (h kv hkv).2.1⟩) _
  have hparse : parse (MapIter.pairs kvs) = (do
      let st ← visitAll kvs (default, false)
      if st.2 then return st.1 else .error (.invalidServerValue "challenge" .expect)) := by
    rw [parse, stripPrefix_pairs, ← hfold]
    rfl
  rcases hnl with rfl | rfl
  · rw [List.append_nil, decode_without h10 h0, hparse]
  · rw [decode_with h10 h0, hparse]

/-- Decoding an info string that ends with a newline and has a challenge. -/
theorem decode_pairs {kvs : List (Bytes × Bytes)}
    (h : ∀ kv ∈ kvs, IsInfoStr kv.1 ∧ IsInfoStr kv.2)
    (hvisit : visitAll kvs (default, false) = .ok (r, true)) :
    decode (header ++ (MapIter.pairs kvs ++ [10])) = .ok r := by
  rw [decode_visitAll (Or.inr rfl) h, hvisit]
  rfl

/-- A registration comes back as it was. -/
theorem decode_encode {cap : ℕ} {out : Bytes} (h : r.Carried) (hn : Named r.flags)
    (hout : r.encode cap = .ok out) :
    Server.Packet.decode out = .ok (some (.serverAdd r)) := by
  have hwire : out = r.wire := by
    rw [encode_eq] at hout
    exact Writes.eq_of_encoded hout
  rw [hwire, wire, Server.Packet.decode_serverAdd (isPrefixOf_append _ _),
    decode_pairs (isInfoStr_kvs h) (visitAll_kvs h hn)]
  rfl

theorem visit_ok {st st' : ServerAdd × Bool} {key value : Bytes}
    (h : visit st key value = .ok st') : ∃ known, st.1.set key value = .ok (known, st'.1) := by
  unfold visit at h
  cases hs : st.1.set key value with
  | error e =>
    rw [hs] at h
    cases h
  | ok kr =>
    rw [hs] at h
    obtain ⟨_ | _, r⟩ := kr
    · cases h
      exact ⟨false, rfl⟩
    · cases h
      exact ⟨true, rfl⟩

/-- What is kept of a registration while it is parsed. -/
def Parsed (r : ServerAdd) : Prop := r.Carried ∧ Named r.flags

theorem contains_bots (flags : ServerFlags) : flags.contains ServerFlags.bots = flags.has 0 :=
  Flags.contains_single (by decide)

/-- What the pair of a key does to a registration. -/
def Sets (k : ServerAddKey) (value : Bytes) (r r' : ServerAdd) : Prop :=
  match k with
  | .protocol => ∃ n, parseU8 value = .ok n ∧ r' = { r with protocol := n }
  | .challenge => ∃ n, parseU32 value = .ok n ∧ r' = { r with challenge := n }
  | .players => ∃ n, parseU8 value = .ok n ∧ r' = { r with players := n }
  | .max => ∃ n, parseU8 value = .ok n ∧ r' = { r with max := n }
  | .gamedir => r' = { r with gamedir := value }
  | .product => r' = r
  | .map => r' = { r with map := value }
  | .type => r' = { r with serverType := .ofMapStr value }
  | .os => r' = { r with os := .ofMapStr value }
  | .version => r' = { r with version := (parseVersion value).toOption.getD default }
  | .region => ∃ n region, parseU8 value = .ok n ∧ Region.tryFrom n = .ok region ∧
      r' = { r with region := region }
  | .bots => ∃ n, parseU8 value = .ok n ∧
      r' = { r with bots := n, flags := r.flags.set ServerFlags.bots (n != 0) }
  | .password => ∃ v, parseBool value = .ok v ∧
      r' = { r with flags := r.flags.set ServerFlags.password v }
  | .secure => ∃ v, parseBool value = .ok v ∧
      r' = { r with flags := r.flags.set ServerFlags.secure v }
  | .lan => ∃ v, parseBool value = .ok v ∧ r' = { r with flags := r.flags.set ServerFlags.lan v }
  | .nat => ∃ v, parseBool value = .ok v ∧ r' = { r with flags := r.flags.set ServerFlags.nat v }

theorem ofBytes_eq_some {key : Bytes} {k : ServerAddKey} (h : ServerAddKey.ofBytes key = some k) :
    key = ascii k.name := by
  have := List.find?_some h
  exact (beq_iff_eq.1 this).symm

/-- A pair of an unknown key is ignored, that of a known one sets its field. -/
theorem set_ok {r r' : ServerAdd} {known : Bool} {key value : Bytes}
    (h : r.set key value = .ok (known, r')) :
    (r' = r ∧ ServerAddKey.ofBytes key = none) ∨ ∃ k, key = ascii k.name ∧ Sets k value r r' := by
  unfold set at h
  cases hk : ServerAddKey.ofBytes key with
  | none =>
    rw [hk] at h
    cases h
    exact Or.inl ⟨rfl, rfl⟩
  | some k =>
    rw [hk] at h
    obtain ⟨a, ha, heq⟩ := parsed_ok h
    obtain ⟨-, rfl⟩ := Prod.ext_iff.1 heq
    refine Or.inr ⟨k, ofBytes_eq_some hk, ?_⟩
    cases k
    case gamedir | product | map | type | os | version => exact (Except.ok.inj ha).symm
    case region =>
      cases hv : parseU8 value with
      | error e =>
        rw [hv] at ha
        cases ha
      | ok n =>
        rw [hv] at ha
        obtain ⟨region, hregion, hr⟩ := parsed_ok (r := Region.tryFrom n) ha
        exact ⟨n, region, hv, hregion, hr⟩
    all_goals exact parsed_ok ha

/-- Setting another flag than that of bots. -/
theorem Parsed.setFlag {r : ServerAdd} {k : ℕ} (v : Bool) (hk0 : 0 < k) (hk : k < 5)
    (hr : r.Parsed) : Parsed { r with flags := r.flags.set (.single k) v } := by
  obtain ⟨⟨hgamedir, hmap, hbots⟩, hn⟩ := hr
  refine ⟨⟨hgamedir, hmap, ?_⟩, fun i hi => ?_⟩
  · rw [contains_bots] at hbots ⊢
    rw [Flags.has_set (by omega), if_neg (by omega)]
    exact hbots
  · rw [Flags.has_set (by omega), if_neg (by omega)]
    exact hn i hi

/-- The flag of bots is set together with their number. -/
theorem Parsed.setBots {r : ServerAdd} (n : UInt8) (hr : r.Parsed) :
    Parsed { r with bots := n, flags := r.flags.set ServerFlags.bots (n != 0) } := by
  obtain ⟨⟨hgamedir, hmap, -⟩, hn⟩ := hr
  refine ⟨⟨hgamedir, hmap, ?_⟩, fun i hi => ?_⟩
  · rw [contains_bots]
    unfold ServerFlags.bots
    rw [Flags.has_set (by omega), if_pos rfl]
    simp
  · unfold ServerFlags.bots
    rw [Flags.has_set (by omega), if_neg (by omega)]
    exact hn i hi

/-- What is parsed of an info string keeps a registration carried. -/
theorem Parsed.set {r r' : ServerAdd} {known : Bool} {key value : Bytes} (hvalue : IsInfoStr value)
    (h : r.set key value = .ok (known, r')) (hr : r.Parsed) : r'.Parsed := by
  rcases set_ok h with ⟨rfl, -⟩ | ⟨k, -, hset⟩
  · exact hr
  have hr' := hr
  obtain ⟨⟨hgamedir, hmap, hbots⟩, hn⟩ := hr'
  cases k
  case gamedir =>
    rw [show r' = _ from hset]
    exact ⟨⟨hvalue, hmap, hbots⟩, hn⟩
  case map =>
    rw [show r' = _ from hset]
    exact ⟨⟨hgamedir, hvalue, hbots⟩, hn⟩
  case product =>
    rw [show r' = r from hset]
    exact hr
  case type | os | version =>
    rw [show r' = _ from hset]
    exact ⟨⟨hgamedir, hmap, hbots⟩, hn⟩
  case protocol | challenge | players | max =>
    obtain ⟨n, -, rfl⟩ := hset
    exact ⟨⟨hgamedir, hmap, hbots⟩, hn⟩
  case region =>
    obtain ⟨n, region, -, -, rfl⟩ := hset
    exact ⟨⟨hgamedir, hmap, hbots⟩, hn⟩
  case bots =>
    obtain ⟨n, -, rfl⟩ := hset
    exact hr.setBots n
  all_goals
    obtain ⟨v, -, rfl⟩ := hset
    exact hr.setFlag v (by decide) (by decide)

/-- The info string of a packet: up to the newline. -/
def infoOf (src : Bytes) : Bytes :=
  (src.drop header.length).takeWhile fun c => !(c == 10 || c == 0)

theorem not_mem_infoOf {src : Bytes} {c : UInt8} (hc : c = 10 ∨ c = 0) : c ∉ infoOf src := by
  intro hmem
  have := List.mem_takeWhile_imp hmem
  rcases hc with rfl | rfl <;> simp at this

/-- A decoded registration comes from the pairs of the info string. -/
theorem tryFold_of_decode {src : Bytes} (h : decode src = .ok r) :
    (MapIter.mk (infoOf src).tail).tryFold visit (default, false) = .ok (r, true) := by
  have hfold : ∀ {info : Bytes} {c c' : Cursor},
      (Read.ofExcept (stripPrefix info) >>= fun info =>
        Read.ofExcept ((MapIter.mk info).tryFold visit (default, false)) >>= fun st =>
          if st.2 then pure st.1 else Read.fail (.invalidServerValue "challenge" .expect)) c =
          (.ok r, c') → (MapIter.mk info.tail).tryFold visit (default, false) = .ok (r, true) := by
    intro info c c' h
    obtain ⟨tail, c₁, hstrip, h⟩ := Read.bind_eq_ok h
    obtain ⟨st, c₂, hst, h⟩ := Read.bind_eq_ok h
    obtain rfl := stripPrefix_ok (Prod.ext_iff.1 hstrip).1
    rw [show (MapIter.mk info.tail).tryFold visit (default, false) = .ok st from
      (Prod.ext_iff.1 hst).1]
    obtain ⟨r', _ | _⟩ := st
    · cases h
    · cases h
      rfl
  unfold decode Read.run at h
  obtain ⟨u, c₁, hexpect, h⟩ := Read.bind_eq_ok (Prod.ext h rfl)
  have hslice : c₁.asSlice = src.drop header.length := by
    rw [Cursor.expect_ok (Read.lift_eq_ok hexpect)]
    simp [Cursor.asSlice]
  obtain ⟨taken, c₂, htaken, h⟩ := Read.bind_eq_ok h
  cases taken with
  | ok s =>
    obtain ⟨b, c₃, -, h⟩ := Read.bind_eq_ok h
    obtain ⟨hs, -, -⟩ := Cursor.takeUntil2_ok (Read.attempt_eq_ok htaken)
    dsimp only at h
    split at h
    · obtain ⟨-, c₄, -, h⟩ := Read.bind_eq_ok h
      obtain ⟨info, c₅, hinfo, h⟩ := Read.bind_eq_ok h
      cases hinfo
      rw [infoOf, ← hslice, ← hs]
      exact hfold h
    · cases h
  | error e =>
    obtain ⟨info, c₃, hinfo, hparse⟩ := Read.bind_eq_ok h
    obtain ⟨rfl, h10, h0⟩ := Cursor.takeUntil2_error (Read.attempt_eq_ok htaken)
    cases hinfo
    have hall : infoOf src = c₂.asSlice := by
      rw [infoOf, ← hslice, List.takeWhile_eq_self_iff]
      rintro c hc
      rw [Bool.not_eq_true', Bool.or_eq_false_iff, beq_eq_false_iff_ne, beq_eq_false_iff_ne]
      exact ⟨fun he => h10 (he ▸ hc), fun he => h0 (he ▸ hc)⟩
    rw [hall]
    exact hfold hparse

/-- A decoded registration is carried. -/
theorem parsed_of_decode {src : Bytes} (h : decode src = .ok r) : r.Parsed := by
  refine MapIter.tryFold_invariant (Q := IsInfoStr) (P := fun st => st.1.Parsed)
    (fun s key value s' hv hs hr => ?_) _ _ (fun value hmem h92 => ?_) (tryFold_of_decode h) ?_
  · obtain ⟨known, hs⟩ := visit_ok hs
    exact hr.set hv hs
  · exact ⟨h92, fun hc => not_mem_infoOf (Or.inl rfl) (List.mem_of_mem_tail (hmem 10 hc)),
      fun hc => not_mem_infoOf (Or.inr rfl) (List.mem_of_mem_tail (hmem 0 hc))⟩
  · exact ⟨⟨by decide, by decide, by decide⟩, fun i _ => Flags.has_empty⟩

end ServerAdd

/-! ## There and back -/

/-- Text packets round-trip: what is encoded of a value whose strings do not break the info string
is decoded to the value, and every decoded value is such a value, for a registration with named
flags only. -/
theorem text_packets_roundtrip :
    (∀ (r : ServerAdd) (cap : ℕ) (out : Bytes), r.Carried → ServerAdd.Named r.flags →
      r.encode cap = .ok out → Server.Packet.decode out = .ok (some (.serverAdd r))) ∧
    (∀ (r : GetServerInfoResponse) (cap : ℕ) (out : Bytes), r.Carried → r.encode cap = .ok out →
      Server.Packet.decode out = .ok (some (.getServerInfoResponse r))) ∧
    (∀ (src : Bytes) (r : ServerAdd), ServerAdd.decode src = .ok r →
      r.Carried ∧ ServerAdd.Named r.flags ∧
        ∀ cap, r.wire.length ≤ cap → ∃ out, r.encode cap = .ok out ∧
          Server.Packet.decode out = .ok (some (.serverAdd r))) ∧
    ∀ (src : Bytes) (r : GetServerInfoResponse), GetServerInfoResponse.decode src = .ok r →
      r.Carried ∧ ∀ cap, r.wire.length ≤ cap → ∃ out, r.encode cap = .ok out ∧
        Server.Packet.decode out = .ok (some (.getServerInfoResponse r)) := by
  refine ⟨fun r cap out h hn hout => ServerAdd.decode_encode h hn hout,
    fun r cap out h hout => GetServerInfoResponse.decode_encode h hout, ?_, ?_⟩
  · intro src r hsrc
    obtain ⟨hr, hn⟩ := ServerAdd.parsed_of_decode hsrc
    refine ⟨hr, hn, fun cap hcap => ?_⟩
    have hout : r.encode cap = .ok r.wire := by rw [ServerAdd.encode_eq, if_pos hcap]
    exact ⟨r.wire, hout, ServerAdd.decode_encode hr hn hout⟩
  · intro src r hsrc
    have hr := GetServerInfoResponse.carried_of_decode hsrc
    refine ⟨hr, fun cap hcap => ?_⟩
    have hout : r.encode cap = .ok r.wire := by rw [GetServerInfoResponse.encode_eq, if_pos hcap]
    exact ⟨r.wire, hout, GetServerInfoResponse.decode_encode hr hout⟩

/-- A flag without a name is lost: only the named flags have keys. -/
theorem unnamed_flag_lost :
    let r : ServerAdd := { (default : ServerAdd) with flags := .single 5 }
    r.Carried ∧ ∃ out, r.encode 512 = .ok out ∧
      Server.Packet.decode out ≠ .ok (some (.serverAdd r)) := by
  have henc : ({ (default : ServerAdd) with flags := .single 5 } : ServerAdd).encode 512 =
      (default : ServerAdd).encode 512 := by decide +kernel
  refine ⟨by decide, (default : ServerAdd).wire, ?_, ?_⟩
  · rw [henc]
    decide +kernel
  · decide +kernel

end Xash3d
