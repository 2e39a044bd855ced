import Xash3d.Lib.Last
import Xash3d.Protocol.Net.Server
import Xash3d.Protocol.Info2RoundTrip

/-!
# Player lists

The iterator of a player list goes on after an entry that fails, from where the failed read left
the cursor. What is left there has no zero byte or fewer than four bytes (`Dead`), so no later
entry can be read: `iter_records`.
-/

namespace Xash3d

open Lib

/-! ## Encoding -/

namespace CursorMut

def putI32Le (n : Int32) : Put := putBytes (u32Le n.toUInt32)

/-- A float is given by its bits. -/
def putF32Le (n : UInt32) : Put := putBytes (u32Le n)

end CursorMut

/-- How the encoder of a player list fails: with an error, or by a panic. -/
inductive PutPlayersError where
  | error (e : ProtocolError)
  | panicked
  deriving DecidableEq

namespace PutPlayersError

/-- The error of a cursor. -/
def ofCursor (e : CursorError) : PutPlayersError := .error (.cursorError e)

end PutPlayersError

open CursorMut in
/-- Write an entry of a player list. -/
def PlayerInfo.put (info : PlayerInfo) : Put :=
  putU8 info.id >=> putCstr info.name >=> putI32Le info.frags >=> putF32Le info.time

namespace GetPlayersResponse

/-- Write the players after `count` others. -/
def putPlayers : List PlayerInfo → UInt8 → CursorMut → Except PutPlayersError (UInt8 × CursorMut)
  | [], count, tail => .ok (count, tail)
  | info :: players, count, tail =>
    if count = 255 then .error .panicked
    else do
      let tail ← (info.put tail).mapError .ofCursor
      putPlayers players (count + 1) tail

def encode (cap : ℕ) (players : List PlayerInfo) : Except PutPlayersError Bytes := do
  let cur ← (CursorMut.putBytes header (.new cap)).mapError .ofCursor
  let (head, tail) ← (cur.split 1).mapError .ofCursor
  let (count, tail) ← putPlayers players 0 tail
  let head ← (CursorMut.putU8 count head).mapError .ofCursor
  head.expectFull.mapError fun _ => .panicked
  return head.data ++ tail.data

end GetPlayersResponse

/-! ## Records -/

namespace PlayerInfo

/-- The bytes of an entry. -/
def wire (info : PlayerInfo) : Bytes :=
  [info.id] ++ ((info.name ++ [0]) ++ (u32Le info.frags.toUInt32 ++ u32Le info.time))

/-- The name ends at its terminator. -/
def Named (info : PlayerInfo) : Prop := (0 : UInt8) ∉ info.name

instance : DecidablePred Named := fun _ => inferInstanceAs (Decidable (¬ _))

theorem writes_put (info : PlayerInfo) : Writes info.put info.wire :=
  (Writes.putU8 _).seq ((Writes.putCstr _).seq ((Writes.putBytes _).seq (Writes.putBytes _)))

theorem ten_le_length_wire (info : PlayerInfo) : 10 ≤ info.wire.length := by
  unfold wire
  simp only [List.length_append, List.length_cons, List.length_nil, length_u32Le]
  omega

theorem zero_mem_wire (info : PlayerInfo) : (0 : UInt8) ∈ info.wire := by simp [wire]

theorem takes_get {info : PlayerInfo} (h : info.Named) : Read.Takes get info.wire info := by
  have hfrags : Read.Takes Cursor.getI32Le (u32Le info.frags.toUInt32) info.frags := by
    intro pre t
    unfold Cursor.getI32Le
    rw [Read.bind_ok (Cursor.getBytes_after pre _ t (length_u32Le _)), ofU32Le_u32Le]
    rfl
  have htime : Read.Takes Cursor.getF32Le (u32Le info.time) info.time :=
    fun pre t => Cursor.getU32Le_after pre t info.time
  have hlast := htime.lift.bind
    (f := fun time => pure (⟨info.id, info.name, info.frags, time⟩ : PlayerInfo)) (Read.Takes.pure _)
  rw [List.append_nil] at hlast
  exact (Cursor.takes_u8 info.id).lift.bind <| (Cursor.takes_cstr h).lift.bind <|
    hfrags.lift.bind hlast

/-- What a failed entry leaves: the later ones fail as well. -/
def Dead (s : Bytes) : Prop := (0 : UInt8) ∉ s ∨ s.length < 4

theorem split_of_le {n : ℕ} {s : Bytes} (h : n ≤ s.length) :
    ∃ s₁ t, s₁.length = n ∧ s = s₁ ++ t :=
  ⟨s.take n, s.drop n, List.length_take_of_le h, (List.take_append_drop n s).symm⟩

/-- The four fields one after another: the first that is not there is the end of the list. -/
theorem get_cases (pre s : Bytes) :
    (∃ info t, Named info ∧ s = info.wire ++ t) ∨
      ∃ e pre' s', get (.after pre s) = (.error e, .after pre' s') ∧ Dead s' := by
  cases s with
  | nil =>
    obtain ⟨e, he⟩ := Cursor.getBytes_short pre [] Nat.one_pos
    have hid : Cursor.getU8 (.after pre []) = (.error e, .after pre []) := Read.bind_error he
    exact Or.inr ⟨_, pre, [], Read.bind_error (Read.lift_error hid), Or.inl List.not_mem_nil⟩
  | cons id s =>
    have hid := Read.lift_ok (Cursor.getU8_after pre s id)
    by_cases h0 : (0 : UInt8) ∈ s
    · obtain ⟨name, t, rfl, hname⟩ := List.eq_append_cons_of_mem h0
      have hcstr := Read.lift_ok (Cursor.getCstr_after (pre ++ [id]) name t hname)
      by_cases hfrags : t.length < 4
      · obtain ⟨e, he⟩ := Cursor.getBytes_short (pre ++ [id] ++ name ++ [0]) t hfrags
        have hget : Cursor.getI32Le _ = (.error e, _) := Read.bind_error he
        refine Or.inr ⟨.cursorError e, pre ++ [id] ++ name ++ [0], t, ?_, Or.inr hfrags⟩
        unfold get
        rw [Read.bind_ok hid, Read.bind_ok hcstr, Read.bind_error (Read.lift_error hget)]
      · obtain ⟨f, u, hf, rfl⟩ := split_of_le (not_lt.1 hfrags)
        have hget : Cursor.getI32Le _ = (.ok _, _) :=
          Read.bind_ok (Cursor.getBytes_after (pre ++ [id] ++ name ++ [0]) f u hf)
        by_cases htime : u.length < 4
        · obtain ⟨e, he⟩ := Cursor.getBytes_short (pre ++ [id] ++ name ++ [0] ++ f) u htime
          have hget' : Cursor.getF32Le _ = (.error e, _) := Read.bind_error he
          refine Or.inr ⟨.cursorError e, pre ++ [id] ++ name ++ [0] ++ f, u, ?_, Or.inr htime⟩
          unfold get
          rw [Read.bind_ok hid, Read.bind_ok hcstr, Read.bind_ok (Read.lift_ok hget),
            Read.bind_error (Read.lift_error hget')]
        · obtain ⟨g, w, hg, rfl⟩ := split_of_le (not_lt.1 htime)
          refine Or.inl ⟨⟨id, name, (ofU32Le f).toInt32, ofU32Le g⟩, w, hname, ?_⟩
          simp [wire, u32Le_ofU32Le hf, u32Le_ofU32Le hg]
    · obtain ⟨e, he⟩ : ∃ e, Cursor.getCstr (.after (pre ++ [id]) s) =
          (.error e, .after (pre ++ [id]) s) :=
        ⟨_, Read.bind_error (Cursor.getCstrFfi_none (pre ++ [id]) s h0)⟩
      refine Or.inr ⟨.cursorError e, pre ++ [id], s, ?_, Or.inl h0⟩
      unfold get
      rw [Read.bind_ok hid, Read.bind_error (Read.lift_error he)]

theorem get_dead (pre : Bytes) {s : Bytes} (h : Dead s) :
    ∃ e pre' s', get (.after pre s) = (.error e, .after pre' s') ∧ Dead s' := by
  rcases get_cases pre s with ⟨info, t, -, rfl⟩ | herror
  · rcases h with h | h
    · exact absurd (List.mem_append_left t info.zero_mem_wire) h
    · have hlen := info.ten_le_length_wire
      rw [List.length_append] at h
      omega
  · exact herror

/-- Entries can be told apart by their bytes. -/
theorem wire_inj {a b : PlayerInfo} {s t : Bytes} (ha : a.Named) (hb : b.Named)
    (h : a.wire ++ s = b.wire ++ t) : a = b ∧ s = t := by
  have hget := takes_get ha [] s
  rw [h, takes_get hb [] t] at hget
  have hab : b = a := Except.ok.inj (congrArg Prod.fst hget)
  subst hab
  exact ⟨rfl, List.append_cancel_left h⟩

end PlayerInfo

namespace GetPlayersResponse

/-! ## The iterator -/

/-- The entries are at the start of the data, one after another. -/
def Records (l : List PlayerInfo) (data : Bytes) : Prop :=
  (∀ info ∈ l, info.Named) ∧ l.flatMap PlayerInfo.wire <+: data

/-- Behind what a failed entry leaves, every entry fails. -/
theorem entries_dead (n : ℕ) : ∀ (pre : Bytes) {s : Bytes}, PlayerInfo.Dead s →
    ∃ errs : List ProtocolError, errs.length = n ∧
      entries n (.after pre s) = errs.map Except.error := by
  induction n with
  | zero => exact fun _ _ _ => ⟨[], rfl, rfl⟩
  | succ n ih =>
    intro pre s h
    obtain ⟨e, pre', s', hget, hdead⟩ := PlayerInfo.get_dead pre h
    obtain ⟨errs, hlen, herrs⟩ := ih pre' hdead
    refine ⟨e :: errs, congrArg (· + 1) hlen, ?_⟩
    rw [entries, hget, herrs]
    rfl

/-- The entries of a player list: the longest list of records of at most `n`, then errors. -/
theorem entries_records (n : ℕ) : ∀ pre s : Bytes, ∃ (l : List PlayerInfo)
    (errs : List ProtocolError), l.length + errs.length = n ∧
      entries n (.after pre s) = l.map Except.ok ++ errs.map Except.error ∧ Records l s ∧
      ∀ l', Records l' s → l'.length ≤ n → l' <+: l := by
  induction n with
  | zero =>
    intro pre s
    refine ⟨[], [], rfl, rfl, ⟨nofun, List.nil_prefix⟩, ?_⟩
    intro l' _ hlen
    rw [List.eq_nil_of_length_eq_zero (Nat.le_zero.1 hlen)]
  | succ n ih =>
    intro pre s
    rcases PlayerInfo.get_cases pre s with ⟨info, t, hname, rfl⟩ | ⟨e, pre', s', hget, hdead⟩
    · obtain ⟨l, errs, hlen, hentries, ⟨hnames, hprefix⟩, hmax⟩ := ih (pre ++ info.wire) t
      refine ⟨info :: l, errs, ?_, ?_, ⟨?_, ?_⟩, ?_⟩
      · rw [List.length_cons]
        omega
      · rw [entries, PlayerInfo.takes_get hname pre t, hentries]
        rfl
      · exact List.forall_mem_cons.2 ⟨hname, hnames⟩
      · rw [List.flatMap_cons]
        exact (List.prefix_append_right_inj _).2 hprefix
      · rintro l' ⟨hnames', hprefix'⟩ hlen'
        cases l' with
        | nil => exact List.nil_prefix
        | cons info' l' =>
          rw [List.forall_mem_cons] at hnames'
          rw [List.flatMap_cons] at hprefix'
          obtain ⟨u, hu⟩ := hprefix'
          rw [List.append_assoc] at hu
          obtain ⟨rfl, hrest⟩ := PlayerInfo.wire_inj hnames'.1 hname hu
          have htail := hmax l' ⟨hnames'.2, ⟨u, hrest⟩⟩ (Nat.le_of_succ_le_succ hlen')
          exact List.cons_prefix_cons.2 ⟨rfl, htail⟩
    · obtain ⟨errs, hlen, herrs⟩ := entries_dead n pre' hdead
      refine ⟨[], e :: errs, ?_, ?_, ⟨nofun, List.nil_prefix⟩, ?_⟩
      · rw [List.length_cons, List.length_nil]
        omega
      · rw [entries, hget, herrs]
        rfl
      · rintro l' ⟨hnames', hprefix'⟩ -
        cases l' with
        | nil => exact List.nil_prefix
        | cons info' l' =>
          -- a record at the start would have been read
          rw [List.forall_mem_cons] at hnames'
          obtain ⟨u, rfl⟩ := hprefix'
          rw [List.flatMap_cons, List.append_assoc, PlayerInfo.takes_get hnames'.1] at hget
          cases hget

theorem decode_ok {src : Bytes} {r : GetPlayersResponse} (h : decode src = .ok r) :
    src = header ++ r.count :: r.players := by
  have hp := List.isPrefixOf_iff_prefix.1 (isPrefixOf_of_run h)
  obtain ⟨s, rfl⟩ := hp
  unfold decode Read.run at h
  rw [Cursor.new_eq, (Cursor.takes_expect header).lift.bind_after] at h
  cases s with
  | nil =>
    obtain ⟨e, he⟩ := Cursor.getBytes_short ([] ++ header) [] Nat.one_pos
    have hcount : Cursor.getU8 (.after ([] ++ header) []) = (.error e, _) := Read.bind_error he
    rw [Read.bind_error (Read.lift_error hcount)] at h
    cases h
  | cons count s =>
    rw [Read.bind_ok (Read.lift_ok (Cursor.getU8_after _ s count)),
      Read.bind_ok (Cursor.rest_after _ s)] at h
    cases h
    rfl

theorem decode_wire (count : UInt8) (players : Bytes) :
    decode (header ++ count :: players) = .ok ⟨count, players⟩ := by
  unfold decode Read.run
  rw [Cursor.new_eq, (Cursor.takes_expect header).lift.bind_after,
    Read.bind_ok (Read.lift_ok (Cursor.getU8_after _ players count)),
    Read.bind_ok (Cursor.rest_after _ players)]
  rfl

/-! ## The encoder -/

/-- The bytes of a player list. -/
def wire (players : List PlayerInfo) : Bytes :=
  header ++ UInt8.ofNat players.length :: players.flatMap PlayerInfo.wire

/-- The tail is filled with the entries, which are counted. -/
theorem putPlayers_eq : ∀ (players : List PlayerInfo) (count : UInt8) (tail : CursorMut),
    count.toNat + players.length ≤ 255 → putPlayers players count tail =
      ((CursorMut.putBytes (players.flatMap PlayerInfo.wire) tail).mapError .ofCursor).map
        fun tail => (count + UInt8.ofNat players.length, tail) := by
  intro players
  induction players with
  | nil =>
    intro count tail _
    rw [List.flatMap_nil, Writes.putBytes_nil]
    simp [putPlayers, Except.map, Except.mapError]
  | cons info players ih =>
    intro count tail h
    rw [List.length_cons] at h
    have hne : count ≠ 255 := by
      rintro rfl
      simp at h
    have hsucc : (count + 1).toNat = count.toNat + 1 := by
      rw [UInt8.toNat_add]
      exact Nat.mod_eq_of_lt (by simp; omega)
    have hput := congrFun (Writes.putBytes_append info.wire (players.flatMap PlayerInfo.wire)) tail
    rw [putPlayers, if_neg hne, List.flatMap_cons, ← hput, PlayerInfo.writes_put info tail]
    simp only [Bind.kleisliRight, bind, Except.bind]
    cases CursorMut.putBytes info.wire tail with
    | error e => rfl
    | ok tail =>
      simp only [Except.mapError]
      rw [ih (count + 1) tail (by omega)]
      have hcount : count + 1 + UInt8.ofNat players.length =
          count + UInt8.ofNat (players.length + 1) := by
        rw [UInt8.ofNat_add, add_assoc, add_comm 1]
        rfl
      rw [hcount]
      rfl

theorem putPlayers_panics : ∀ (players : List PlayerInfo) (count : UInt8) (tail : CursorMut),
    255 < count.toNat + players.length → ¬ ∃ r, putPlayers players count tail = .ok r := by
  intro players
  induction players with
  | nil =>
    intro count tail h
    have hlt := count.toNat_lt
    rw [List.length_nil] at h
    omega
  | cons info players ih =>
    intro count tail h
    rw [List.length_cons] at h
    rw [putPlayers]
    by_cases hcount : count = 255
    · rw [if_pos hcount]
      exact not_ok_error _
    · rw [if_neg hcount]
      have hsucc : (count + 1).toNat = count.toNat + 1 := by
        rw [UInt8.toNat_add]
        have hne : count.toNat ≠ 255 := fun h255 => hcount (UInt8.toNat_inj.1 h255)
        have hlt := count.toNat_lt
        exact Nat.mod_eq_of_lt (by simp; omega)
      simp only [bind, Except.bind]
      cases (info.put tail).mapError PutPlayersError.ofCursor with
      | error e => exact not_ok_error _
      | ok tail => exact ih (count + 1) tail (by omega)

/-- The byte that was left out behind `s`. -/
theorem putU8_full (s : Bytes) (b : UInt8) (offset : ℕ) :
    CursorMut.putU8 b ⟨s.length + 1, s, offset, Nat.le_add_right _ _⟩ =
      .ok ⟨s.length + 1, s ++ [b], offset, by simp⟩ := dif_pos le_rfl

/-- A list that is short enough is encoded when its bytes fit. -/
theorem encode_eq {players : List PlayerInfo} (h : players.length ≤ 255) (cap : ℕ) :
    encode cap players = if (wire players).length ≤ cap then .ok (wire players)
      else .error (.error (.cursorError .bufferOverflow)) := by
  have hlen : (wire players).length = 6 + (players.flatMap PlayerInfo.wire).length := by
    unfold wire
    rw [List.length_append, List.length_cons, show header.length = 5 from rfl]
    omega
  rw [hlen]
  unfold encode
  by_cases hheader : header.length ≤ cap
  · have hcur : CursorMut.putBytes header (.new cap) = .ok ⟨cap, header, 0, hheader⟩ :=
      GetServerInfo2Response.putBytes_empty hheader
    rw [hcur]
    by_cases hsplit : header.length + 1 ≤ cap
    · have hparts : CursorMut.split 1 ⟨cap, header, 0, hheader⟩ =
          .ok (⟨header.length + 1, header, 0, Nat.le_add_right _ _⟩,
            ⟨cap - (header.length + 1), [], 0 + (header.length + 1), Nat.zero_le _⟩) :=
        if_pos hsplit
      have hplayers := putPlayers_eq players 0
        ⟨cap - (header.length + 1), [], 0 + (header.length + 1), Nat.zero_le _⟩
        (by simpa using h)
      by_cases hfit : (players.flatMap PlayerInfo.wire).length ≤ cap - (header.length + 1)
      · rw [GetServerInfo2Response.putBytes_empty hfit] at hplayers
        have hbyte : CursorMut.putU8 (0 + UInt8.ofNat players.length)
            ⟨header.length + 1, header, 0, Nat.le_add_right _ _⟩ = .ok ⟨header.length + 1,
              header ++ [0 + UInt8.ofNat players.length], 0, by simp⟩ := putU8_full header _ 0
        have hfull : CursorMut.expectFull ⟨header.length + 1,
            header ++ [0 + UInt8.ofNat players.length], 0, by simp⟩ = .ok () := if_pos (by simp)
        rw [if_pos (show 6 + _ ≤ cap from by simp [header, ascii] at hfit hsplit ⊢; omega)]
        simp only [bind, Except.bind, Except.mapError, hparts, hplayers, Except.map, hbyte, hfull]
        simp [pure, Except.pure, wire]
      · rw [GetServerInfo2Response.putBytes_empty_error hfit] at hplayers
        rw [if_neg (show ¬ 6 + _ ≤ cap from by simp [header, ascii] at hfit hsplit ⊢; omega)]
        simp only [bind, Except.bind, Except.mapError, hparts, hplayers, Except.map]
        rfl
    · have hparts : CursorMut.split 1 ⟨cap, header, 0, hheader⟩ = .error .bufferOverflow :=
        if_neg hsplit
      rw [if_neg (show ¬ 6 + _ ≤ cap from by simp [header, ascii] at hsplit ⊢; omega)]
      simp only [bind, Except.bind, Except.mapError, hparts]
      rfl
  · have hcur : CursorMut.putBytes header (.new cap) = .error .bufferOverflow :=
      GetServerInfo2Response.putBytes_empty_error hheader
    rw [if_neg (show ¬ 6 + _ ≤ cap from by simp [header, ascii] at hheader ⊢; omega), hcur]
    rfl

/-- A longer list is never encoded. -/
theorem length_of_encode {cap : ℕ} {players : List PlayerInfo} {out : Bytes}
    (h : encode cap players = .ok out) : players.length ≤ 255 := by
  by_contra hlen
  have hpanics := fun tail => putPlayers_panics players 0 tail (by simpa using hlen)
  unfold encode at h
  simp only [bind, Except.bind] at h
  split at h
  · cases h
  · split at h
    · cases h
    · split at h
      · cases h
      · next hplayers => exact hpanics _ ⟨_, hplayers⟩

end GetPlayersResponse

/-- A player list is read back as it was encoded; of any list that is accepted exactly the records
at its start are read, and nothing behind the first error. -/
theorem player_lists :
    (∀ (players : List PlayerInfo) (cap : ℕ), players.length ≤ 255 →
      (∀ info ∈ players, info.Named) → (GetPlayersResponse.wire players).length ≤ cap →
      ∃ out r, GetPlayersResponse.encode cap players = .ok out ∧
        GetPlayersResponse.decode out = .ok r ∧ r.count.toNat = players.length ∧
        r.iter = players.map Except.ok) ∧
    ∀ (src : Bytes) (r : GetPlayersResponse), GetPlayersResponse.decode src = .ok r →
      src = GetPlayersResponse.header ++ r.count :: r.players ∧
      ∃ (l : List PlayerInfo) (errs : List ProtocolError),
        r.iter = l.map Except.ok ++ errs.map Except.error ∧ r.iter.length = r.count.toNat ∧
        GetPlayersResponse.Records l r.players ∧
        ∀ l', GetPlayersResponse.Records l' r.players → l'.length ≤ r.count.toNat → l' <+: l := by
  constructor
  · intro players cap hlen hnames hfit
    have hcount : (UInt8.ofNat players.length).toNat = players.length := by
      rw [UInt8.toNat_ofNat', Nat.mod_eq_of_lt (by omega)]
    refine ⟨_, ⟨UInt8.ofNat players.length, players.flatMap PlayerInfo.wire⟩,
      (GetPlayersResponse.encode_eq hlen cap).trans (if_pos hfit),
      GetPlayersResponse.decode_wire _ _, hcount, ?_⟩
    obtain ⟨l, errs, hsum, hiter, -, hmax⟩ := GetPlayersResponse.entries_records players.length []
      (players.flatMap PlayerInfo.wire)
    have hprefix := hmax players ⟨hnames, List.prefix_refl _⟩ le_rfl
    have hl : players = l := hprefix.eq_of_length_le (by omega)
    subst hl
    have herrs : errs = [] := List.eq_nil_of_length_eq_zero (by omega)
    subst herrs
    unfold GetPlayersResponse.iter
    rw [hcount, Cursor.new, Cursor.new_eq, hiter]
    exact List.append_nil _
  · intro src r h
    obtain ⟨l, errs, hsum, hiter, hrecords, hmax⟩ :=
      GetPlayersResponse.entries_records r.count.toNat [] r.players
    refine ⟨GetPlayersResponse.decode_ok h, l, errs, hiter, ?_, hrecords, hmax⟩
    rw [GetPlayersResponse.iter, Cursor.new, Cursor.new_eq, hiter]
    simpa using hsum

end Xash3d
