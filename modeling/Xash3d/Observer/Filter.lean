import Xash3d.Observer.Observer
import Xash3d.Protocol.InfoRoundTrip
import Xash3d.Protocol.QueryRoundTrip

/-!
# Filters of an observer

An observer has a filter of its own, which it writes into a string, and puts a key behind the string
of a query. `master_reads_query` is that the master parses the string as if there were no key, and
sees the fields of the filter.
-/

namespace Xash3d

open Lib

/-- The filter of an observer. -/
structure ObserverFilter where
  clientVersion : Option Version
  clientBuildNumber : Option UInt32
  gamedir : Option Bytes
  nat : Option Bool
  raw : Option Bytes
  deriving DecidableEq

namespace ObserverFilter

/-- An empty filter. -/
def new : ObserverFilter := ⟨none, none, none, none, none⟩

/-- A filter with the version of the client. -/
def withDefaultClientVersion : ObserverFilter := { new with clientVersion := some (.new 0 21) }

/-- Append a key and a value, if there is one. -/
def append (out : Bytes) (key : String) (value : Option (List Bytes)) : Bytes :=
  match value with
  | some value => out ++ (ascii "\\" ++ ascii key ++ ascii "\\" ++ value.flatten)
  | none => out

/-- The string of a filter. -/
def toRawString (f : ObserverFilter) : Bytes :=
  let raw := append [] "clver" (f.clientVersion.map Version.display)
  let raw := append raw "buildnum" (f.clientBuildNumber.map fun n => [numeral 10 n.toNat])
  let raw := append raw "nat" (f.nat.map fun i => [numeral 10 i.toNat])
  let raw := append raw "gamedir" (f.gamedir.map fun s => [s])
  match f.raw with
  | some s => raw ++ s
  | none => raw

/-- The pairs of a filter. -/
def kvs (f : ObserverFilter) : List (Bytes × Bytes) :=
  Filter.somePair .clver (f.clientVersion.map fun v => v.display.flatten) ++
  Filter.somePair .buildnum (f.clientBuildNumber.map fun n => numeral 10 n.toNat) ++
  Filter.somePair .nat (f.nat.map fun i => numeral 10 i.toNat) ++
  Filter.somePair .gamedir f.gamedir

/-- What a filter asks a master for. -/
def asked (f : ObserverFilter) : Filter :=
  let query : Filter :=
    { (default : Filter) with
      clver := f.clientVersion, clientBuildnum := f.clientBuildNumber, gamedir := f.gamedir }
  match f.nat with
  | some nat => query.insertFlag FilterFlags.nat nat
  | none => query

theorem append_eq (out : Bytes) (k : FilterKey) {α : Type} (value : Option α)
    (fmt : α → List Bytes) : append out k.name (value.map fmt) =
      out ++ MapIter.pairs (Filter.somePair k (value.map fun a => (fmt a).flatten)) := by
  have hslash : ascii "\\" = [92] := by decide
  cases value with
  | none => exact (List.append_nil out).symm
  | some a =>
    show out ++ (ascii "\\" ++ ascii k.name ++ ascii "\\" ++ (fmt a).flatten) =
      out ++ MapIter.pairs [(ascii k.name, (fmt a).flatten)]
    rw [hslash, MapIter.pairs_cons, MapIter.pairs_nil]
    simp

theorem toRawString_eq {f : ObserverFilter} (hraw : f.raw = none) :
    f.toRawString = MapIter.pairs f.kvs := by
  unfold toRawString kvs
  rw [hraw, show append _ "clver" _ = _ from append_eq [] .clver f.clientVersion Version.display]
  dsimp only
  rw [show append _ "buildnum" _ = _ from append_eq _ .buildnum f.clientBuildNumber _,
    show append _ "nat" _ = _ from append_eq _ .nat f.nat _,
    show append _ "gamedir" _ = _ from append_eq _ .gamedir f.gamedir _]
  simp only [List.flatten_singleton, Option.map_id', List.nil_append, MapIter.pairs_append]

example : withDefaultClientVersion.toRawString = ascii "\\clver\\0.21" := by decide +kernel

end ObserverFilter

/-! ## Queries -/

/-- The pairs with a key behind them. -/
def withKey (kvs : List (Bytes × Bytes)) (key : UInt32) : List (Bytes × Bytes) :=
  kvs ++ [(ascii "key", numeral 16 key.toNat)]

theorem isMapStr_withKey {kvs : List (Bytes × Bytes)}
    (h : ∀ kv ∈ kvs, IsMapStr kv.1 ∧ IsMapStr kv.2) (key : UInt32) :
    ∀ kv ∈ withKey kvs key, IsMapStr kv.1 ∧ IsMapStr kv.2 := by
  have hname : IsMapStr (ascii "key") := by decide
  have hnum : ∀ c, ¬ IsDigit c → c ∉ numeral 16 key.toNat := fun c hc hmem =>
    hc (isDigit_of_mem_numeral (by decide) le_rfl hmem)
  intro kv hkv
  rcases List.mem_append.1 hkv with hkv | hkv
  · exact h kv hkv
  · rw [List.mem_singleton.1 hkv]
    exact ⟨hname, hnum 92 (by decide), hnum 0 (by decide)⟩

/-- A key behind a filter string takes the place of any other. -/
theorem Filter.fromSlice_withKey {kvs : List (Bytes × Bytes)}
    (h : ∀ kv ∈ kvs, IsMapStr kv.1 ∧ IsMapStr kv.2) (key : UInt32) :
    Filter.fromSlice (MapIter.pairs (withKey kvs key)) =
      (Filter.fromSlice (MapIter.pairs kvs)).map fun f => { f with key := some key } := by
  rw [fromSlice_pairs h, fromSlice_pairs (isMapStr_withKey h key), withKey, visitAll_append]
  cases visitAll kvs default with
  | error e => rfl
  | ok f =>
    have hset : f.setKey .key (numeral 16 key.toNat) = .ok { f with key := some key } := by
      rw [setKey, parseHex32_numeral]
      rfl
    show visitAll [(ascii FilterKey.key.name, numeral 16 key.toNat)] f = _
    unfold visitAll
    rw [List.foldlM_cons, visit_name f .key _ hset]
    rfl

namespace Master

/-- The bytes of a query with a filter string and a key. -/
def queryWire (filter : Bytes) (key : UInt32) : Bytes :=
  QueryServers.header ++ ([Region.restOfTheWorld.toU8] ++ (ascii "0.0.0.0:0" ++ ([0] ++
    ((filter ++ (ascii "\\key\\" ++ numeral 16 key.toNat)) ++ [0]))))

theorem length_queryWire_le (filter : Bytes) (key : UInt32) :
    (queryWire filter key).length ≤ filter.length + 26 := by
  have hkey : (numeral 16 key.toNat).length ≤ 8 :=
    length_numeral_le (by decide) (by decide) key.toNat_lt
  have hheader : QueryServers.header.length = 1 := rfl
  have hlast : (ascii "0.0.0.0:0").length = 9 := rfl
  have hname : (ascii "\\key\\").length = 5 := rfl
  unfold queryWire
  simp only [List.length_append, List.length_singleton, hheader, hlast, hname]
  omega

/-- The packet of a query is known from what is printed of its filter. -/
theorem encode_query {T : Type} (display : T → List Bytes) (x : T) (cap : ℕ) :
    (QueryServers.new x).encodeWith display cap =
      if (QueryServers.header ++ ([Region.restOfTheWorld.toU8] ++ (ascii "0.0.0.0:0" ++ ([0] ++
        ((display x).flatten ++ [0]))))).length ≤ cap then
        .ok (QueryServers.header ++ ([Region.restOfTheWorld.toU8] ++ (ascii "0.0.0.0:0" ++ ([0] ++
          ((display x).flatten ++ [0])))))
      else .error (.cursorError .bufferOverflow) := by
  have hlast : (strFormatBytes (ascii "0.0.0.0:0")).flatten = ascii "0.0.0.0:0" := by decide +kernel
  have hwire := ((Writes.putBytes QueryServers.header).seq
    ((Writes.putU8 Region.restOfTheWorld.toU8).seq
      ((Writes.putAsStr (strFormatBytes (ascii "0.0.0.0:0"))).seq ((Writes.putU8 0).seq
        ((Writes.putAsStr (display x)).seq (Writes.putU8 0)))))).run cap
  rw [hlast] at hwire
  exact hwire

/-- A query that fits into the buffer is sent with the key that was drawn for it. -/
theorem encodeQueryServersPacket_eq (sys : System) (w : World Master) {filter : Bytes} {cap : ℕ}
    (hcap : filter.length + 26 ≤ cap) : encodeQueryServersPacket sys filter cap w =
      .ok (queryWire filter (sys.rng w.trace.length))
        ⟨{ w.state with key := sys.rng w.trace.length },
          w.trace ++ [.draw w.state.addr (sys.rng w.trace.length)]⟩ := by
  have hfits := (length_queryWire_le filter (sys.rng w.trace.length)).trans hcap
  have hflat : [filter, ascii "\\key\\", numeral 16 (sys.rng w.trace.length).toNat].flatten =
      filter ++ (ascii "\\key\\" ++ numeral 16 (sys.rng w.trace.length).toNat) := by simp
  show (Prog.unwrap ((QueryServers.new _).encodeWith _ cap) : Prog Master Bytes) _ = _
  rw [encode_query]
  dsimp only
  rw [hflat]
  exact congrArg (fun r => (Prog.unwrap r : Prog Master Bytes) _) (if_pos hfits)

/-- A query is sent with a key, whenever this is the key that is drawn. -/
def Sends (filter : Bytes) (key : UInt32) (cap : ℕ) (packet : Bytes) : Prop :=
  ∀ (sys : System) (w : World Master), sys.rng w.trace.length = key →
    ∃ w', encodeQueryServersPacket sys filter cap w = .ok packet w' ∧ w'.state.key = key

theorem sends_queryWire {filter : Bytes} {cap : ℕ} (key : UInt32)
    (hcap : filter.length + 26 ≤ cap) : Sends filter key cap (queryWire filter key) := by
  rintro sys w rfl
  exact ⟨_, encodeQueryServersPacket_eq sys w hcap, rfl⟩

/-- A master parses the filter string of a query, and then its key. -/
theorem decode_queryWire {kvs : List (Bytes × Bytes)}
    (h : ∀ kv ∈ kvs, IsMapStr kv.1 ∧ IsMapStr kv.2) (key : UInt32) :
    QueryServers.decode (queryWire (MapIter.pairs kvs) key) =
      (Filter.fromSlice (MapIter.pairs kvs)).map fun f =>
        QueryServers.new { f with key := some key } := by
  have hname : ascii "\\key\\" = 92 :: (ascii "key" ++ [92]) := by decide
  have hraw : MapIter.pairs kvs ++ (ascii "\\key\\" ++ numeral 16 key.toNat) =
      MapIter.pairs (withKey kvs key) := by
    rw [withKey, MapIter.pairs_append, MapIter.pairs_cons, MapIter.pairs_nil, hname]
    simp
  have h0 : (0 : UInt8) ∉ MapIter.pairs (withKey kvs key) :=
    MapIter.not_mem_pairs (by decide) fun kv hkv =>
      ⟨(isMapStr_withKey h key kv hkv).1.2, (isMapStr_withKey h key kv hkv).2.2⟩
  unfold queryWire
  rw [hraw, QueryServers.decode_packet .restOfTheWorld (by decide) h0, Filter.fromSlice_withKey h]
  cases Filter.fromSlice (MapIter.pairs kvs) <;> rfl

end Master

/-! ## What the master sees -/

namespace ObserverFilter

theorem setKey_nat (g : Filter) (i : Bool) :
    g.setKey .nat (numeral 10 i.toNat) = .ok (g.insertFlag FilterFlags.nat i) := by
  have hparse : parseBool (numeral 10 i.toNat) = .ok i := by cases i <;> decide +kernel
  rw [Filter.setKey, Filter.setFlag, hparse]
  rfl

/-- The pairs of a filter are parsed to what it asks for. -/
theorem visitAll_kvs (f : ObserverFilter) : Filter.visitAll f.kvs default = .ok f.asked := by
  have hclver : Filter.visitAll (Filter.somePair .clver _) default =
      .ok (asked ⟨f.clientVersion, none, none, none, none⟩) :=
    Filter.visitAll_somePair .clver f.clientVersion
      (fun version => asked ⟨version, none, none, none, none⟩) rfl fun v => by
        rw [Filter.setKey, parseVersion_display]
        rfl
  have hbuildnum : Filter.visitAll (Filter.somePair .buildnum _) _ =
      .ok (asked ⟨f.clientVersion, f.clientBuildNumber, none, none, none⟩) :=
    Filter.visitAll_somePair .buildnum f.clientBuildNumber
      (fun n => asked ⟨f.clientVersion, n, none, none, none⟩) rfl fun n => by
        rw [Filter.setKey, parseU32_numeral]
        rfl
  have hnat : Filter.visitAll (Filter.somePair .nat _) _ =
      .ok (asked ⟨f.clientVersion, f.clientBuildNumber, none, f.nat, none⟩) :=
    Filter.visitAll_somePair .nat f.nat
      (fun nat => asked ⟨f.clientVersion, f.clientBuildNumber, none, nat, none⟩) rfl fun i =>
        setKey_nat _ i
  have hgamedir : Filter.visitAll (Filter.somePair .gamedir _) _ =
      .ok (asked ⟨f.clientVersion, f.clientBuildNumber, f.gamedir, f.nat, none⟩) :=
    Filter.visitAll_string .gamedir f.gamedir
      (fun gamedir => asked ⟨f.clientVersion, f.clientBuildNumber, gamedir, f.nat, none⟩) rfl
        fun s => by
          unfold asked
          cases f.nat <;> rfl
  unfold kvs
  rw [Filter.visitAll_append, Filter.visitAll_append, Filter.visitAll_append, hclver]
  show (Filter.visitAll _ _ >>= _) >>= _ = _
  rw [hbuildnum]
  show Filter.visitAll _ _ >>= _ = _
  rw [hnat]
  exact hgamedir

theorem isMapStr_kvs {f : ObserverFilter} (h : ∀ s, f.gamedir = some s → IsMapStr s) :
    ∀ kv ∈ f.kvs, IsMapStr kv.1 ∧ IsMapStr kv.2 := by
  have hsome : ∀ (k : FilterKey) (value : Option Bytes), IsMapStr (ascii k.name) →
      (∀ s, value = some s → IsMapStr s) →
        ∀ kv ∈ Filter.somePair k value, IsMapStr kv.1 ∧ IsMapStr kv.2 := by
    intro k value hk hvalue kv hkv
    cases value with
    | none => cases hkv
    | some s =>
      rw [List.mem_singleton.1 hkv]
      exact ⟨hk, hvalue s rfl⟩
  have hmap : ∀ {α : Type} {value : Option α} {fmt : α → Bytes}, (∀ a, IsMapStr (fmt a)) →
      ∀ s, value.map fmt = some s → IsMapStr s := by
    intro α value fmt hfmt s hs
    obtain ⟨a, -, rfl⟩ := Option.map_eq_some_iff.1 hs
    exact hfmt a
  have hversion : ∀ v : Version, IsMapStr v.display.flatten := fun v =>
    ⟨(ServerAdd.isInfoStr_version v).1, (ServerAdd.isInfoStr_version v).2.2⟩
  unfold kvs
  rw [List.forall_mem_append, List.forall_mem_append, List.forall_mem_append]
  refine ⟨⟨⟨hsome _ _ ?_ (hmap hversion), hsome _ _ ?_ (hmap fun n => isMapStr_numeral _)⟩,
    hsome _ _ ?_ (hmap fun i => isMapStr_numeral _)⟩, hsome _ _ ?_ h⟩
  · decide
  · decide
  · decide
  · decide

end ObserverFilter

/-- Observer and master agree on queries: the master parses the filter string of a packet, with the
key of the packet, and so sees what the filter of the observer asks for. -/
theorem master_reads_query (key : UInt32) (cap : ℕ) :
    (∀ kvs : List (Bytes × Bytes), (∀ kv ∈ kvs, IsMapStr kv.1 ∧ IsMapStr kv.2) →
      (MapIter.pairs kvs).length + 26 ≤ cap →
      ∃ packet, Master.Sends (MapIter.pairs kvs) key cap packet ∧
        QueryServers.decode packet = (Filter.fromSlice (MapIter.pairs kvs)).map fun f =>
          QueryServers.new { f with key := some key }) ∧
    ∀ f : ObserverFilter, f.raw = none → (∀ s, f.gamedir = some s → IsMapStr s) →
      f.toRawString.length + 26 ≤ cap →
      ∃ packet, Master.Sends f.toRawString key cap packet ∧
        QueryServers.decode packet = .ok (QueryServers.new { f.asked with key := some key }) := by
  refine ⟨fun kvs h hcap => ?_, fun f hraw h hcap => ?_⟩
  · exact ⟨_, Master.sends_queryWire key hcap, Master.decode_queryWire h key⟩
  · refine ⟨_, Master.sends_queryWire key hcap, ?_⟩
    have hkvs := ObserverFilter.isMapStr_kvs h
    rw [ObserverFilter.toRawString_eq hraw, Master.decode_queryWire hkvs,
      Filter.fromSlice_pairs hkvs, ObserverFilter.visitAll_kvs]
    rfl

/-- A filter for a version and a map. -/
theorem master_reads_query_map : ∃ packet,
    Master.Sends (ascii "\\clver\\0.21\\map\\crossfire") 5 64 packet ∧
    QueryServers.decode packet = (Filter.fromSlice (ascii "\\clver\\0.21\\map\\crossfire")).map
      fun f => QueryServers.new { f with key := some 5 } :=
  (master_reads_query 5 64).1 [(ascii "clver", ascii "0.21"), (ascii "map", ascii "crossfire")]
    (by decide) (by decide)

end Xash3d
