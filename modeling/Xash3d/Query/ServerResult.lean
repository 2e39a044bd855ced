import Xash3d.Observer.Connection

/-!
# Results of a query

`ServerResult` is what a query knows of a game server: a kind, and a slot for players that came
before the information. `set_calls_iff` says after which calls of its two setters the result is
that of the last calls: the players that are kept are chosen once and never replaced.
-/

namespace Xash3d.Query

open Lib

/-! ## Players and information -/

/-- A player, with the name made valid UTF-8. -/
structure PlayerInfo where
  id : UInt8
  name : Bytes
  frags : Int32
  time : UInt32
  deriving DecidableEq

def PlayerInfo.ofEvent (info : Xash3d.PlayerInfo) : PlayerInfo where
  id := info.id
  name := utf8Lossy info.name
  frags := info.frags
  time := info.time

structure Players where
  bots : UInt8
  players : List PlayerInfo
  deriving DecidableEq

namespace Players

def botsCount (p : Players) : UInt8 := p.bots

/-- Count a bot, or keep a player. -/
def add (p : Players) (info : Xash3d.PlayerInfo) : Players :=
  if !info.isBot then { p with players := p.players ++ [.ofEvent info] }
  else { p with bots := p.bots + 1 }

/-- Entries that cannot be decoded are skipped. -/
def ofEvent (value : GetPlayersResponse) : Players :=
  (value.iter.filterMap Except.toOption).foldl add ⟨0, []⟩

end Players

structure ServerInfo where
  gamedir : Bytes
  map : Bytes
  host : Bytes
  protocol : UInt8
  numcl : UInt8
  maxcl : UInt8
  bots : UInt8
  dm : Bool
  team : Bool
  coop : Bool
  password : Bool
  dedicated : Bool
  deriving DecidableEq

def ServerInfo.ofEvent (other : Event.ServerInfo) : ServerInfo where
  gamedir := utf8Lossy other.response.gamedir
  map := utf8Lossy other.response.map
  host := utf8Lossy other.response.host
  protocol := other.response.protocol
  numcl := other.response.numcl
  maxcl := other.response.maxcl
  bots := 0
  dm := other.response.dm
  team := other.response.team
  coop := other.response.coop
  password := other.response.password
  dedicated := other.response.dedicated

/-! ## Results -/

inductive ServerResultKind where
  | ok (info : ServerInfo)
  | okWithPlayers (info : ServerInfo) (players : Players)
  | ping
  | invalidPacket (data : Bytes)
  | timeout
  | invalidProtocol
  | remove
  deriving DecidableEq

namespace ServerResultKind

def newOkWithPlayers (info : ServerInfo) (players : Players) : ServerResultKind :=
  .okWithPlayers { info with bots := players.botsCount } players

def isTimeout : ServerResultKind → Bool
  | timeout => true
  | _ => false

end ServerResultKind

structure ServerResult where
  address : SocketAddr
  ping : Option ℕ
  kind : ServerResultKind
  /-- Temporary storage for server players. -/
  players : Option Players
  deriving DecidableEq

namespace ServerResult

def new (address : SocketAddr) (ping : Option ℕ) (kind : ServerResultKind) : ServerResult :=
  ⟨address, ping, kind, none⟩

def newTimeout (address : SocketAddr) : ServerResult := new address none .timeout

def newInvalidProtocol (address : SocketAddr) : ServerResult := new address none .invalidProtocol

def newInvalidPacket (address : SocketAddr) (response : Bytes) : ServerResult :=
  new address none (.invalidPacket response)

def setPlayers (r : ServerResult) (players : Players) : ServerResult :=
  match r.kind with
  | .ok info => { r with kind := .newOkWithPlayers info players }
  | _ => { r with players := some players }

def isOk (r : ServerResult) : Bool :=
  match r.kind with
  | .ok _ => true
  | _ => false

def hasPlayers (r : ServerResult) : Bool := r.players.isSome

def setOk (r : ServerResult) (ping : ℕ) (info : ServerInfo) : ServerResult :=
  match r.kind with
  | .okWithPlayers _ players => { r with ping := some ping, kind := .newOkWithPlayers info players }
  | _ =>
    match r.players with
    | some players =>
      { r with ping := some ping, kind := .newOkWithPlayers info players, players := none }
    | none => { r with ping := some ping, kind := .ok info }

section Setters

variable {r : ServerResult} {i : ServerInfo} {p : Players}

/-- A complete result keeps its players. -/
theorem setOk_of_complete (h : r.kind = .okWithPlayers i p) (ping : ℕ) (info : ServerInfo) :
    r.setOk ping info = { r with ping := some ping, kind := .newOkWithPlayers info p } := by
  unfold setOk
  rw [h]

/-- The players of the slot become those of the result. -/
theorem setOk_of_slot (h : ∀ i p, r.kind ≠ .okWithPlayers i p) (hp : r.players = some p)
    (ping : ℕ) (info : ServerInfo) : r.setOk ping info =
      { r with ping := some ping, kind := .newOkWithPlayers info p, players := none } := by
  unfold setOk
  rw [hp]
  cases hk : r.kind with
  | okWithPlayers i p => exact absurd hk (h i p)
  | _ => rfl

theorem setOk_of_none (h : ∀ i p, r.kind ≠ .okWithPlayers i p) (hp : r.players = none)
    (ping : ℕ) (info : ServerInfo) :
    r.setOk ping info = { r with ping := some ping, kind := .ok info, players := none } := by
  obtain ⟨address, ping', kind, players⟩ := r
  obtain rfl : players = none := hp
  cases kind with
  | okWithPlayers i p => exact absurd rfl (h i p)
  | _ => rfl

theorem setPlayers_of_ok (h : r.kind = .ok i) (players : Players) :
    r.setPlayers players = { r with kind := .newOkWithPlayers i players } := by
  unfold setPlayers
  rw [h]

/-- Players that find no information, or players, wait in the slot. -/
theorem setPlayers_of_not_ok (h : ∀ i, r.kind ≠ .ok i) (players : Players) :
    r.setPlayers players = { r with players := some players } := by
  unfold setPlayers
  cases hk : r.kind with
  | ok i => exact absurd hk (h i)
  | _ => rfl

theorem setOk_ne_invalidProtocol (r : ServerResult) (ping : ℕ) (info : ServerInfo) :
    (r.setOk ping info).kind ≠ .invalidProtocol := by
  unfold setOk
  split
  · exact nofun
  · split <;> exact nofun

theorem setPlayers_ne_invalidProtocol (h : r.kind ≠ .invalidProtocol) (players : Players) :
    (r.setPlayers players).kind ≠ .invalidProtocol := by
  unfold setPlayers
  split
  · exact nofun
  · exact h

end Setters

end ServerResult

/-! ## Calls of the setters -/

/-- A call of a setter. -/
inductive Call where
  | setOk (ping : ℕ) (info : ServerInfo)
  | setPlayers (players : Players)
  deriving DecidableEq

namespace Call

def apply (r : ServerResult) : Call → ServerResult
  | setOk ping info => r.setOk ping info
  | setPlayers players => r.setPlayers players

/-- Calls on a fresh result. -/
def run (address : SocketAddr) (calls : List Call) : ServerResult :=
  calls.foldl apply (.newTimeout address)

def ok? : Call → Option (ℕ × ServerInfo)
  | setOk ping info => some (ping, info)
  | setPlayers _ => none

def players? : Call → Option Players
  | setOk _ _ => none
  | setPlayers players => some players

/-- The calls with information. -/
def oks (calls : List Call) : List (ℕ × ServerInfo) := calls.filterMap ok?

/-- The calls with players. -/
def playersOf (calls : List Call) : List Players := calls.filterMap players?

/-- The calls before the first one with information. -/
def early (calls : List Call) : List Call := calls.takeWhile fun c => c.ok?.isNone

/-- The players that stay: the last ones before any information, else the first ones. -/
def kept (calls : List Call) : Option Players :=
  (playersOf (early calls)).getLast?.or (playersOf calls).head?

section Snoc

variable {calls : List Call}

theorem oks_setOk (calls : List Call) (ping : ℕ) (info : ServerInfo) :
    oks (calls ++ [setOk ping info]) = oks calls ++ [(ping, info)] := by simp [oks, ok?]

theorem oks_setPlayers (calls : List Call) (players : Players) :
    oks (calls ++ [setPlayers players]) = oks calls := by simp [oks, ok?]

theorem playersOf_setOk (calls : List Call) (ping : ℕ) (info : ServerInfo) :
    playersOf (calls ++ [setOk ping info]) = playersOf calls := by simp [playersOf, players?]

theorem playersOf_setPlayers (calls : List Call) (players : Players) :
    playersOf (calls ++ [setPlayers players]) = playersOf calls ++ [players] := by
  simp [playersOf, players?]

theorem early_eq_self (h : oks calls = []) : early calls = calls := by
  unfold early
  rw [List.takeWhile_eq_self_iff]
  intro c hc
  rw [Option.isNone_iff_eq_none]
  exact List.filterMap_eq_nil_iff.1 h c hc

theorem early_append (h : oks calls ≠ []) (c : Call) : early (calls ++ [c]) = early calls := by
  induction calls with
  | nil => exact absurd rfl h
  | cons d calls ih =>
    cases d with
    | setOk ping info => rfl
    | setPlayers players => exact congrArg (setPlayers players :: ·) (ih h)

/-- Until there is information the last players would stay. -/
theorem kept_eq_getLast? (h : oks calls = []) : kept calls = (playersOf calls).getLast? := by
  unfold kept
  rw [early_eq_self h]
  cases hp : playersOf calls with
  | nil => rfl
  | cons p ps =>
    rw [List.getLast?_eq_getLast_of_ne_nil (List.cons_ne_nil p ps)]
    rfl

theorem kept_setOk (calls : List Call) (ping : ℕ) (info : ServerInfo) :
    kept (calls ++ [setOk ping info]) = kept calls := by
  unfold kept
  rw [playersOf_setOk]
  by_cases h : oks calls = []
  · have hearly : early (calls ++ [setOk ping info]) = early calls := by
      rw [early_eq_self h]
      unfold early
      rw [List.takeWhile_append_of_pos]
      · exact List.append_nil calls
      · intro c hc
        rw [Option.isNone_iff_eq_none]
        exact List.filterMap_eq_nil_iff.1 h c hc
    rw [hearly]
  · rw [early_append h]

/-- Players after the first information stay only if there were none. -/
theorem kept_setPlayers (h : oks calls ≠ []) (players : Players) :
    kept (calls ++ [setPlayers players]) = (kept calls).or (some players) := by
  unfold kept
  rw [early_append h, playersOf_setPlayers, Option.or_assoc]
  cases playersOf calls <;> rfl

end Snoc

/-! ## What the setters leave -/

/-- What the setters have made of the calls. -/
structure Stage (calls : List Call) (r : ServerResult) : Prop where
  ping : r.ping = (oks calls).getLast?.map Prod.fst
  /-- Nothing is shown before the first information. -/
  early : oks calls = [] → r.kind = .timeout ∧ r.players = kept calls
  /-- The information without players. -/
  info : ∀ i, (oks calls).getLast? = some i → kept calls = none →
    r.kind = .ok i.2 ∧ r.players = none
  /-- The information with the players that stay. -/
  complete : ∀ i k, (oks calls).getLast? = some i → kept calls = some k →
    r.kind = .newOkWithPlayers i.2 k

/-- Before the first information only the players matter. -/
theorem Stage.of_nil {calls : List Call} {r : ServerResult} (hnil : oks calls = [])
    (hping : r.ping = none) (hkind : r.kind = .timeout) (hplayers : r.players = kept calls) :
    Stage calls r where
  ping := by
    rw [hnil]
    exact hping
  early _ := ⟨hkind, hplayers⟩
  info i hi _ := by
    rw [hnil] at hi
    cases hi
  complete i k hi _ := by
    rw [hnil] at hi
    cases hi

/-- From then on the last information matters. -/
theorem Stage.of_last {calls : List Call} {r : ServerResult} {i : ℕ × ServerInfo}
    (hlast : (oks calls).getLast? = some i) (hping : r.ping = some i.1)
    (hinfo : kept calls = none → r.kind = .ok i.2 ∧ r.players = none)
    (hcomplete : ∀ k, kept calls = some k → r.kind = .newOkWithPlayers i.2 k) :
    Stage calls r where
  ping := by
    rw [hlast]
    exact hping
  early hnil := by
    rw [hnil] at hlast
    cases hlast
  info j hj hk := by
    rw [hlast] at hj
    cases hj
    exact hinfo hk
  complete j k hj hk := by
    rw [hlast] at hj
    cases hj
    exact hcomplete k hk

theorem Stage.kept_of_complete {calls : List Call} {r : ServerResult} (h : Stage calls r)
    {i : ServerInfo} {p : Players} (hkind : r.kind = .okWithPlayers i p) :
    kept calls = some p := by
  cases hoks : (oks calls).getLast? with
  | none =>
    have hearly := (h.early (List.getLast?_eq_none_iff.1 hoks)).1
    rw [hkind] at hearly
    cases hearly
  | some j =>
    cases hkept : kept calls with
    | none =>
      have hinfo := (h.info j hoks hkept).1
      rw [hkind] at hinfo
      cases hinfo
    | some k =>
      have hcomplete := h.complete j k hoks hkept
      rw [hkind] at hcomplete
      rw [(ServerResultKind.okWithPlayers.inj hcomplete).2]

/-- As long as the result is not complete the slot has the players that would stay. -/
theorem Stage.slot {calls : List Call} {r : ServerResult} (h : Stage calls r)
    (hkind : ∀ i p, r.kind ≠ .okWithPlayers i p) : r.players = kept calls := by
  cases hoks : (oks calls).getLast? with
  | none => exact (h.early (List.getLast?_eq_none_iff.1 hoks)).2
  | some j =>
    cases hkept : kept calls with
    | none => exact (h.info j hoks hkept).2
    | some k => exact absurd (h.complete j k hoks hkept) (hkind _ _)

theorem Stage.setOk {calls : List Call} {r : ServerResult} (h : Stage calls r) (ping : ℕ)
    (info : ServerInfo) : Stage (calls ++ [setOk ping info]) (r.setOk ping info) := by
  have hlast : (oks (calls ++ [Call.setOk ping info])).getLast? = some (ping, info) := by
    rw [oks_setOk, List.getLast?_concat]
  by_cases hcomplete : ∃ i p, r.kind = .okWithPlayers i p
  · obtain ⟨i, p, hkind⟩ := hcomplete
    rw [ServerResult.setOk_of_complete hkind]
    refine Stage.of_last hlast rfl ?_ ?_ <;> rw [kept_setOk, h.kept_of_complete hkind]
    · exact nofun
    · intro k hk
      rw [Option.some.inj hk]
  · push Not at hcomplete
    have hslot := h.slot hcomplete
    cases hkept : kept calls with
    | none =>
      rw [ServerResult.setOk_of_none hcomplete (hslot.trans hkept)]
      refine Stage.of_last hlast rfl (fun _ => ⟨rfl, rfl⟩) ?_
      rw [kept_setOk, hkept]
      exact nofun
    | some p =>
      rw [ServerResult.setOk_of_slot hcomplete (hslot.trans hkept)]
      refine Stage.of_last hlast rfl ?_ ?_ <;> rw [kept_setOk, hkept]
      · exact nofun
      · intro k hk
        rw [Option.some.inj hk]

section SetPlayers

variable {calls : List Call} {r : ServerResult} {i : ℕ × ServerInfo}

/-- Players before any information wait in the slot. -/
theorem Stage.setPlayers_nil (h : Stage calls r) (hnil : oks calls = []) (players : Players) :
    Stage (calls ++ [setPlayers players]) (r.setPlayers players) := by
  obtain ⟨hkind, -⟩ := h.early hnil
  have hnot : ∀ i, r.kind ≠ .ok i := by
    intro i hi
    rw [hkind] at hi
    cases hi
  have hnil' : oks (calls ++ [Call.setPlayers players]) = [] := by rw [oks_setPlayers, hnil]
  have hping : r.ping = none := by
    rw [h.ping, hnil]
    rfl
  rw [ServerResult.setPlayers_of_not_ok hnot]
  refine Stage.of_nil hnil' hping hkind ?_
  rw [kept_eq_getLast? hnil', playersOf_setPlayers, List.getLast?_concat]

/-- The first players after the information complete the result. -/
theorem Stage.setPlayers_info (h : Stage calls r) (hoks : (oks calls).getLast? = some i)
    (hkept : kept calls = none) (players : Players) :
    Stage (calls ++ [setPlayers players]) (r.setPlayers players) := by
  have hne : oks calls ≠ [] := by
    intro hnil
    rw [hnil] at hoks
    cases hoks
  have hping : r.ping = some i.1 := by
    rw [h.ping, hoks]
    rfl
  have hkept' : kept (calls ++ [Call.setPlayers players]) = some players := by
    rw [kept_setPlayers hne, hkept, Option.none_or]
  rw [ServerResult.setPlayers_of_ok (h.info i hoks hkept).1]
  refine Stage.of_last ((oks_setPlayers calls players).symm ▸ hoks) hping ?_ ?_ <;> rw [hkept']
  · exact nofun
  · intro k hk
    rw [Option.some.inj hk]

/-- The players of a complete result stay: new ones only reach the slot. -/
theorem Stage.setPlayers_complete (h : Stage calls r) (hoks : (oks calls).getLast? = some i)
    {p : Players} (hkept : kept calls = some p) (players : Players) :
    Stage (calls ++ [setPlayers players]) (r.setPlayers players) := by
  have hkind := h.complete i p hoks hkept
  have hne : oks calls ≠ [] := by
    intro hnil
    rw [hnil] at hoks
    cases hoks
  have hping : r.ping = some i.1 := by
    rw [h.ping, hoks]
    rfl
  have hnot : ∀ i, r.kind ≠ .ok i := by
    intro i hi
    rw [hkind] at hi
    cases hi
  have hkept' : kept (calls ++ [Call.setPlayers players]) = some p := by
    rw [kept_setPlayers hne, hkept, Option.some_or]
  rw [ServerResult.setPlayers_of_not_ok hnot]
  refine Stage.of_last ((oks_setPlayers calls players).symm ▸ hoks) hping ?_ ?_ <;> rw [hkept']
  · exact nofun
  · intro k hk
    rw [← Option.some.inj hk]
    exact hkind

theorem Stage.setPlayers (h : Stage calls r) (players : Players) :
    Stage (calls ++ [setPlayers players]) (r.setPlayers players) := by
  cases hoks : (oks calls).getLast? with
  | none => exact h.setPlayers_nil (List.getLast?_eq_none_iff.1 hoks) players
  | some i =>
    cases hkept : kept calls with
    | none => exact h.setPlayers_info hoks hkept players
    | some p => exact h.setPlayers_complete hoks hkept players

end SetPlayers

theorem run_stage (address : SocketAddr) (calls : List Call) : Stage calls (run address calls) := by
  induction calls using List.reverseRecOn with
  | nil => exact Stage.of_nil rfl rfl rfl rfl
  | append_singleton calls c ih =>
    unfold run
    rw [List.foldl_append]
    cases c with
    | setOk ping info => exact ih.setOk ping info
    | setPlayers players => exact ih.setPlayers players

/-- The result is complete, with these players. -/
def Shows (r : ServerResult) (ping : ℕ) (info : ServerInfo) (players : Players) : Prop :=
  r.kind = .okWithPlayers { info with bots := players.botsCount } players ∧ r.ping = some ping

/-- There are players to keep as soon as there are players. -/
theorem kept_ne_none {calls : List Call} (h : playersOf calls ≠ []) : kept calls ≠ none := by
  intro hk
  unfold kept at hk
  rw [Option.or_eq_none_iff, List.head?_eq_none_iff] at hk
  exact h hk.2

/-- After calls of both setters the result is that of the last calls exactly when the players that
stay are the last ones. -/
theorem set_calls_iff (address : SocketAddr) {calls : List Call} {ping : ℕ} {info : ServerInfo}
    {players : Players} (hok : (oks calls).getLast? = some (ping, info))
    (hplayers : (playersOf calls).getLast? = some players) :
    Shows (run address calls) ping info players ↔ kept calls = some players := by
  have hstage := run_stage address calls
  have hne : playersOf calls ≠ [] := by
    intro hnil
    rw [hnil] at hplayers
    cases hplayers
  obtain ⟨k, hk⟩ := Option.ne_none_iff_exists'.1 (kept_ne_none hne)
  have hkind := hstage.complete _ k hok hk
  constructor
  · rintro ⟨hshow, -⟩
    rw [hk, (ServerResultKind.okWithPlayers.inj (hkind.symm.trans hshow)).2]
  · intro h
    rw [hk] at h
    cases h
    refine ⟨hkind, ?_⟩
    rw [hstage.ping, hok]
    rfl

/-- A server with a game that has started. -/
def crossfire : ServerInfo where
  gamedir := ascii "valve"
  map := ascii "crossfire"
  host := ascii "Crossfire"
  protocol := 49
  numcl := 4
  maxcl := 32
  bots := 0
  dm := true
  team := false
  coop := false
  password := false
  dedicated := true

/-- Players that came before the information are shown with it. -/
theorem set_calls_iff_crossfire : Shows (run (.v4 ⟨⟨⟨[192, 0, 2, 1], rfl⟩⟩, 27015⟩)
    [.setPlayers ⟨2, []⟩, .setPlayers ⟨3, []⟩, .setOk 7 crossfire]) 7 crossfire ⟨3, []⟩ :=
  (set_calls_iff _ rfl rfl).2 rfl

/-- The players of a second answer are not shown. -/
theorem players_stale : ¬ ∀ (address : SocketAddr) (calls : List Call) (ping : ℕ)
    (info : ServerInfo) (players : Players), (oks calls).getLast? = some (ping, info) →
      (playersOf calls).getLast? = some players →
        Shows (run address calls) ping info players := by
  intro h
  have hshow := (h (.v4 ⟨⟨⟨[192, 0, 2, 1], rfl⟩⟩, 27015⟩)
    [.setOk 7 crossfire, .setPlayers ⟨2, []⟩, .setPlayers ⟨3, []⟩, .setOk 9 crossfire]
    9 crossfire ⟨3, []⟩ rfl rfl).1
  revert hshow
  decide +kernel

end Call

end Xash3d.Query
