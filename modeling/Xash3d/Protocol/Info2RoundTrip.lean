import Xash3d.Protocol.Net.Info2

/-!
# Binary information packets there and back

The encoder of `GetServerInfo2Response` leaves out a byte for the presence flags, writes the extra
data behind it and fills it in afterwards. `encode_eq` is what the buffer holds in the end, and
`decode_wire` that this is read back.
-/

namespace Xash3d

open Lib

namespace GetServerInfo2Response

variable {r : GetServerInfo2Response}

/-! ## Optional fields -/

/-- The bytes of an optional field. -/
def optBytes {α : Type} (value : Option α) (fmt : α → Bytes) : Bytes := (value.map fmt).getD []

/-- Insert a flag if its field is there. -/
def insertIf (there : Bool) (flag extra : ServerInfoExtra) : ServerInfoExtra :=
  if there then extra.insert flag else extra

theorem has_insertIf {k : ℕ} (hk : k < 8) (there : Bool) (extra : ServerInfoExtra) (i : ℕ) :
    (insertIf there (.single k) extra).has i = ((there && decide (i = k)) || extra.has i) := by
  cases there with
  | false => rfl
  | true =>
    rw [insertIf, if_pos rfl, Flags.has_insert hk, Bool.true_and]

/-- The write inserts flags into those so far, and appends exactly `s` to the tail. -/
def ExtraWrites (p : ServerInfoExtra × CursorMut → Except CursorError (ServerInfoExtra × CursorMut))
    (add : ServerInfoExtra → ServerInfoExtra) (s : Bytes) : Prop :=
  ∀ extra tail, p (extra, tail) = (CursorMut.putBytes s tail).map fun tail => (add extra, tail)

theorem ExtraWrites.putExtra {α : Type} (flag : ServerInfoExtra) (value : Option α) {put : α → Put}
    {fmt : α → Bytes} (h : ∀ a, Writes (put a) (fmt a)) :
    ExtraWrites (putExtra flag (value.map put)) (insertIf value.isSome flag)
      (optBytes value fmt) := by
  intro extra tail
  cases value with
  | none =>
    show Except.ok (extra, tail) = (CursorMut.putBytes [] tail).map fun tail => (extra, tail)
    rw [Writes.putBytes_nil]
    rfl
  | some a =>
    show (put a tail >>= fun tail => pure (extra.insert flag, tail)) = _
    rw [h a tail]
    show _ = (CursorMut.putBytes (fmt a) tail).map _
    cases CursorMut.putBytes (fmt a) tail <;> rfl

theorem ExtraWrites.seq {p q : ServerInfoExtra × CursorMut →
      Except CursorError (ServerInfoExtra × CursorMut)} {add add' : ServerInfoExtra → ServerInfoExtra}
    {s t : Bytes} (hp : ExtraWrites p add s) (hq : ExtraWrites q add' t) :
    ExtraWrites (p >=> q) (fun extra => add' (add extra)) (s ++ t) := by
  intro extra tail
  have happend := congrFun (Writes.putBytes_append s t) tail
  rw [← happend]
  show (p (extra, tail) >>= q) = _
  rw [hp extra tail]
  show _ = ((CursorMut.putBytes s tail >>= CursorMut.putBytes t).map _)
  cases CursorMut.putBytes s tail with
  | error e => rfl
  | ok tail => exact hq (add extra) tail

/-- An optional field is read back where its flag is. -/
theorem takes_getExtra {α : Type} {extra : ServerInfoExtra} {k : ℕ} (hk : k < 8)
    {get : Read CursorError α} {value : Option α} {fmt : α → Bytes}
    (hflag : extra.has k = value.isSome) (h : ∀ a, value = some a → Read.Takes get (fmt a) a) :
    Read.Takes (getExtra extra (.single k) get) (optBytes value fmt) value := by
  unfold getExtra
  rw [Flags.intersects_single hk, hflag]
  cases value with
  | none => exact Read.Takes.pure none
  | some a =>
    have hget : Read.Takes (get.lift >>= fun a => pure (some a)) (fmt a ++ []) (some a) :=
      (h a rfl).lift.bind (f := fun a => pure (some a)) (Read.Takes.pure (some a))
    rw [List.append_nil] at hget
    exact hget

/-! ## What is written -/

/-- The full app id, where the short one does not hold it. -/
def longAppId (r : GetServerInfo2Response) : Option UInt64 :=
  if r.appId.toNat < 2 ^ 16 then none else some r.appId

/-- The presence flags of a reply. -/
def extraFlags (r : GetServerInfo2Response) : ServerInfoExtra :=
  insertIf r.longAppId.isSome ServerInfoExtra.appId
    (insertIf r.keywords.isSome ServerInfoExtra.keywords
      (insertIf r.sourceTv.isSome ServerInfoExtra.sourceTv
        (insertIf r.steamId.isSome ServerInfoExtra.steamId
          (insertIf r.port.isSome ServerInfoExtra.port .empty))))

/-- The extra data of a reply. -/
def extras (r : GetServerInfo2Response) : Bytes :=
  optBytes r.port u16Le ++ (optBytes r.steamId u64Le ++
    (optBytes r.sourceTv (fun tv => u16Le tv.port ++ (tv.name ++ [0])) ++
      (optBytes r.keywords (· ++ [0]) ++ optBytes r.longAppId u64Le)))

/-- The part up to the version, in front of `tail`. -/
def wireWith (r : GetServerInfo2Response) (tail : Bytes) : Bytes :=
  header ++ ([r.protocol] ++ ((r.host ++ [0]) ++ ((r.map ++ [0]) ++ ((r.gamedir ++ [0]) ++
    ((r.game ++ [0]) ++ (u16Le r.appId.toUInt16 ++ ([r.players + r.bots] ++ ([r.maxPlayers] ++
      ([r.bots] ++ ([r.ty.toU8] ++ ([r.os.toU8] ++ ([if r.password then 1 else 0] ++
        ([if r.secure then 1 else 0] ++ ((r.version ++ [0]) ++ tail))))))))))))))

theorem wireWith_append (r : GetServerInfo2Response) (tail : Bytes) :
    r.wireWith [] ++ tail = r.wireWith tail := by simp [wireWith]

/-- The bytes of an encoded reply. -/
def wire (r : GetServerInfo2Response) : Bytes :=
  r.wireWith (if r.extraFlags.isEmpty then [] else r.extraFlags.toByte :: r.extras)

theorem writes_putBool (v : Bool) : Writes (putBool v) [if v then 1 else 0] := Writes.putU8 _

theorem writes_putBase (r : GetServerInfo2Response) : Writes r.putBase (r.wireWith []) := by
  have hversion := Writes.putCstr r.version
  rw [← List.append_nil (r.version ++ [0])] at hversion
  exact (Writes.putBytes header).seq <| (Writes.putU8 _).seq <| (Writes.putCstr _).seq <|
    (Writes.putCstr _).seq <| (Writes.putCstr _).seq <| (Writes.putCstr _).seq <|
    (Writes.putU16Le _).seq <| (Writes.putU8 _).seq <| (Writes.putU8 _).seq <|
    (Writes.putU8 _).seq <| (Writes.putU8 _).seq <| (Writes.putU8 _).seq <|
    (writes_putBool _).seq <| (writes_putBool _).seq hversion

theorem writes_putExtras (r : GetServerInfo2Response) :
    ExtraWrites r.putExtras (fun extra => insertIf r.longAppId.isSome ServerInfoExtra.appId
      (insertIf r.keywords.isSome ServerInfoExtra.keywords
        (insertIf r.sourceTv.isSome ServerInfoExtra.sourceTv
          (insertIf r.steamId.isSome ServerInfoExtra.steamId
            (insertIf r.port.isSome ServerInfoExtra.port extra))))) r.extras := by
  have hlong : (if r.appId.toNat < 2 ^ 16 then none else some (CursorMut.putU64Le r.appId)) =
      r.longAppId.map CursorMut.putU64Le := by
    unfold longAppId
    by_cases h : r.appId.toNat < 2 ^ 16
    · rw [if_pos h, if_pos h]
      rfl
    · rw [if_neg h, if_neg h]
      rfl
  have hport := ExtraWrites.putExtra ServerInfoExtra.port r.port Writes.putU16Le
  have hsteamId := ExtraWrites.putExtra ServerInfoExtra.steamId r.steamId Writes.putU64Le
  have hsourceTv := ExtraWrites.putExtra ServerInfoExtra.sourceTv r.sourceTv
    fun tv => (Writes.putU16Le tv.port).seq (Writes.putCstr tv.name)
  have hkeywords := ExtraWrites.putExtra ServerInfoExtra.keywords r.keywords Writes.putCstr
  have happId := ExtraWrites.putExtra ServerInfoExtra.appId r.longAppId Writes.putU64Le
  unfold putExtras
  rw [hlong]
  exact hport.seq (hsteamId.seq (hsourceTv.seq (hkeywords.seq happId)))

theorem has_extraFlags (r : GetServerInfo2Response) (i : ℕ) : r.extraFlags.has i =
    ((r.longAppId.isSome && decide (i = 0)) || ((r.keywords.isSome && decide (i = 5)) ||
      ((r.sourceTv.isSome && decide (i = 6)) || ((r.steamId.isSome && decide (i = 4)) ||
        ((r.port.isSome && decide (i = 7)) || false))))) := by
  unfold extraFlags ServerInfoExtra.appId ServerInfoExtra.keywords ServerInfoExtra.sourceTv
    ServerInfoExtra.steamId ServerInfoExtra.port
  rw [has_insertIf (by decide), has_insertIf (by decide), has_insertIf (by decide),
    has_insertIf (by decide), has_insertIf (by decide), Flags.has_empty]

/-- Without flags there are no fields. -/
theorem isSome_of_isEmpty (h : r.extraFlags.isEmpty = true) :
    r.port = none ∧ r.steamId = none ∧ r.sourceTv = none ∧ r.keywords = none ∧
      r.longAppId = none := by
  have hbit := fun i => (has_extraFlags r i).symm.trans (Flags.isEmpty_iff.1 h i)
  refine ⟨?_, ?_, ?_, ?_, ?_⟩
  · simpa using hbit 7
  · simpa using hbit 4
  · simpa using hbit 6
  · simpa using hbit 5
  · simpa using hbit 0

theorem extras_eq_nil (h : r.extraFlags.isEmpty = true) : r.extras = [] := by
  obtain ⟨hport, hsteamId, hsourceTv, hkeywords, happId⟩ := isSome_of_isEmpty h
  unfold extras optBytes
  rw [hport, hsteamId, hsourceTv, hkeywords, happId]
  rfl

/-- Filling an empty buffer. -/
theorem putBytes_empty {cap offset : ℕ} {s : Bytes} (h : s.length ≤ cap) :
    CursorMut.putBytes s ⟨cap, [], offset, Nat.zero_le _⟩ = .ok ⟨cap, s, offset, h⟩ := by
  unfold CursorMut.putBytes
  rw [dif_pos (by simpa using h)]
  simp

theorem putBytes_empty_error {cap offset : ℕ} {s : Bytes} (h : ¬ s.length ≤ cap) :
    CursorMut.putBytes s ⟨cap, [], offset, Nat.zero_le _⟩ = .error .bufferOverflow := by
  unfold CursorMut.putBytes
  rw [dif_neg (by simpa using h)]

/-- The part of the encoder behind the version. -/
theorem encode_of_fits {cap : ℕ} (hbase : (r.wireWith []).length ≤ cap) : r.encode cap =
    if (r.wireWith []).length + 1 + r.extras.length ≤ cap then .ok r.wire
    else .error (.cursorError .bufferOverflow) := by
  have hput : r.putBase (.new cap) = .ok ⟨cap, r.wireWith [], 0, hbase⟩ :=
    (writes_putBase r _).trans (putBytes_empty hbase)
  unfold encode
  rw [hput]
  by_cases hsplit : (r.wireWith []).length + 1 ≤ cap
  · have hparts : CursorMut.split 1 ⟨cap, r.wireWith [], 0, hbase⟩ =
        .ok (⟨(r.wireWith []).length + 1, r.wireWith [], 0, Nat.le_add_right _ _⟩,
          ⟨cap - ((r.wireWith []).length + 1), [], 0 + ((r.wireWith []).length + 1),
            Nat.zero_le _⟩) := if_pos hsplit
    have hextras := writes_putExtras r .empty ⟨cap - ((r.wireWith []).length + 1), [],
      0 + ((r.wireWith []).length + 1), Nat.zero_le _⟩
    by_cases hfit : r.extras.length ≤ cap - ((r.wireWith []).length + 1)
    · have hflags : r.putExtras (.empty, ⟨cap - ((r.wireWith []).length + 1), [],
          0 + ((r.wireWith []).length + 1), Nat.zero_le _⟩) =
          .ok (r.extraFlags, ⟨cap - ((r.wireWith []).length + 1), r.extras,
            0 + ((r.wireWith []).length + 1), hfit⟩) := by
        rw [hextras, putBytes_empty hfit]
        rfl
      rw [if_pos (by omega)]
      simp only [bind, Except.bind, hparts, hflags]
      unfold wire
      by_cases hempty : r.extraFlags.isEmpty = true
      · rw [if_pos hempty, if_pos hempty]
        rfl
      · have hbyte : CursorMut.putU8 r.extraFlags.toByte
            ⟨(r.wireWith []).length + 1, r.wireWith [], 0, Nat.le_add_right _ _⟩ =
            .ok ⟨(r.wireWith []).length + 1, r.wireWith [] ++ [r.extraFlags.toByte], 0, by simp⟩ :=
          dif_pos le_rfl
        have hfull : CursorMut.expectFull
            ⟨(r.wireWith []).length + 1, r.wireWith [] ++ [r.extraFlags.toByte], 0, by simp⟩ =
            .ok () := if_pos (by simp)
        rw [if_neg hempty, if_neg hempty, ← wireWith_append r (_ :: _), hbyte]
        dsimp only
        rw [hfull]
        simp [Except.mapError, pure, Except.pure]
    · rw [putBytes_empty_error hfit] at hextras
      rw [if_neg (by omega)]
      simp only [bind, Except.bind, hparts, hextras, Except.map]
      rfl
  · have hparts : CursorMut.split 1 ⟨cap, r.wireWith [], 0, hbase⟩ = .error .bufferOverflow :=
      if_neg hsplit
    rw [if_neg (by omega)]
    simp only [bind, Except.bind, hparts]
    rfl

/-- An encoder succeeds when its bytes fit, and a byte is left out for the flags. -/
theorem encode_eq (r : GetServerInfo2Response) (cap : ℕ) : r.encode cap =
    if (r.wireWith []).length + 1 + r.extras.length ≤ cap then .ok r.wire
    else .error (.cursorError .bufferOverflow) := by
  by_cases hbase : (r.wireWith []).length ≤ cap
  · exact encode_of_fits hbase
  · have hput : r.putBase (.new cap) = .error .bufferOverflow :=
      (writes_putBase r _).trans (putBytes_empty_error hbase)
    unfold encode
    rw [hput, if_neg (by omega)]
    rfl

/-! ## What is read back -/

/-- No string has a zero byte, and the number of clients fits in a byte. -/
def Carried (r : GetServerInfo2Response) : Prop :=
  (0 : UInt8) ∉ r.host ∧ (0 : UInt8) ∉ r.map ∧ (0 : UInt8) ∉ r.gamedir ∧ (0 : UInt8) ∉ r.game ∧
    (0 : UInt8) ∉ r.version ∧ (∀ tv, r.sourceTv = some tv → (0 : UInt8) ∉ tv.name) ∧
    (∀ s, r.keywords = some s → (0 : UInt8) ∉ s) ∧ r.players.toNat + r.bots.toNat ≤ 255

/-- The extra data of a reply. -/
def extra (r : GetServerInfo2Response) : Extra :=
  ⟨r.port, r.steamId, r.sourceTv, r.keywords, r.longAppId⟩

/-- The extra data is read back, up to the end of the packet. -/
theorem decodeExtra_after (h : r.Carried) (pre : Bytes) :
    ∃ pre', decodeExtra (.after pre (if r.extraFlags.isEmpty then [] else
      r.extraFlags.toByte :: r.extras)) = (.ok r.extra, .after pre' []) := by
  obtain ⟨-, -, -, -, -, htv, hkeywords, -⟩ := h
  unfold decodeExtra
  rw [Read.bind_ok (Cursor.rest_after _ _)]
  by_cases hempty : r.extraFlags.isEmpty = true
  · obtain ⟨h1, h2, h3, h4, h5⟩ := isSome_of_isEmpty hempty
    refine ⟨pre, ?_⟩
    rw [if_pos hempty, extra, h1, h2, h3, h4, h5]
    rfl
  · have hhas := has_extraFlags r
    have hport : Read.Takes (getExtra r.extraFlags ServerInfoExtra.port Cursor.getU16Le)
        (optBytes r.port u16Le) r.port :=
      takes_getExtra (by decide) (by rw [hhas]; simp) fun a _ => Cursor.takes_u16Le a
    have hsteamId : Read.Takes (getExtra r.extraFlags ServerInfoExtra.steamId Cursor.getU64Le)
        (optBytes r.steamId u64Le) r.steamId :=
      takes_getExtra (by decide) (by rw [hhas]; simp) fun a _ => Cursor.takes_u64Le a
    have hsourceTv : Read.Takes (getExtra r.extraFlags ServerInfoExtra.sourceTv getSourceTv)
        (optBytes r.sourceTv fun tv => u16Le tv.port ++ (tv.name ++ [0])) r.sourceTv := by
      refine takes_getExtra (by decide) (by rw [hhas]; simp) fun tv htv' => ?_
      rw [← List.append_nil (tv.name ++ [0])]
      exact (Cursor.takes_u16Le tv.port).bind
        ((Cursor.takes_cstr (htv tv htv')).bind (Read.Takes.pure tv))
    have hkeywords : Read.Takes (getExtra r.extraFlags ServerInfoExtra.keywords Cursor.getCstr)
        (optBytes r.keywords (· ++ [0])) r.keywords :=
      takes_getExtra (by decide) (by rw [hhas]; simp) fun a ha => Cursor.takes_cstr (hkeywords a ha)
    have happId : Read.Takes (getExtra r.extraFlags ServerInfoExtra.appId Cursor.getU64Le)
        (optBytes r.longAppId u64Le) r.longAppId :=
      takes_getExtra (by decide) (by rw [hhas]; simp) fun a _ => Cursor.takes_u64Le a
    rw [if_neg hempty]
    show ∃ pre', (Cursor.getU8.lift >>= _ : Read ProtocolError Extra)
      (.after pre ([r.extraFlags.toByte] ++ r.extras)) = (.ok r.extra, .after pre' [])
    rw [(Cursor.takes_u8 r.extraFlags.toByte).lift.bind_after, ServerInfoExtra.fromBitsRetain_toByte,
      extras, hport.bind_after, hsteamId.bind_after, hsourceTv.bind_after, hkeywords.bind_after,
      ← List.append_nil (optBytes r.longAppId u64Le), happId.bind_after]
    exact ⟨_, rfl⟩

theorem putBool_eq (v : Bool) : ((if v then 1 else 0 : UInt8) != 0) = v := by cases v <;> rfl

theorem checkedSub_add {players bots : UInt8} (h : players.toNat + bots.toNat ≤ 255) :
    checkedSub (players + bots) bots = Pure.pure players := by
  have hsum : (players + bots).toNat = players.toNat + bots.toNat := by
    rw [UInt8.toNat_add, Nat.mod_eq_of_lt (by omega)]
  have hlt : ¬ players + bots < bots := by
    rw [UInt8.lt_iff_toNat_lt, hsum]
    omega
  rw [checkedSub, if_neg hlt, UInt8.add_sub_cancel]

/-- The app id is put together from its two widths. -/
theorem appId_eq (r : GetServerInfo2Response) :
    r.longAppId.getD r.appId.toUInt16.toUInt64 = r.appId := by
  unfold longAppId
  by_cases h : r.appId.toNat < 2 ^ 16
  · rw [if_pos h]
    refine UInt64.toNat_inj.1 ?_
    simp
    omega
  · rw [if_neg h]
    rfl

/-- What is written is read back. -/
theorem decode_wire (h : r.Carried) : decode r.wire = .ok r := by
  obtain ⟨pre', hextra⟩ := decodeExtra_after h (header ++ [r.protocol] ++ (r.host ++ [0]) ++
    (r.map ++ [0]) ++ (r.gamedir ++ [0]) ++ (r.game ++ [0]) ++ u16Le r.appId.toUInt16 ++
    [r.players + r.bots] ++ [r.maxPlayers] ++ [r.bots] ++ [r.ty.toU8] ++ [r.os.toU8] ++
    [if r.password then 1 else 0] ++ [if r.secure then 1 else 0] ++ (r.version ++ [0]))
  obtain ⟨hhost, hmap, hgamedir, hgame, hversion, -, -, hsum⟩ := h
  unfold decode Read.run wire wireWith
  rw [Cursor.new_eq, (Cursor.takes_expect header).lift.bind_after,
    (Cursor.takes_u8 r.protocol).lift.bind_after, (Cursor.takes_cstr hhost).lift.bind_after,
    (Cursor.takes_cstr hmap).lift.bind_after, (Cursor.takes_cstr hgamedir).lift.bind_after,
    (Cursor.takes_cstr hgame).lift.bind_after, (Cursor.takes_u16Le _).lift.bind_after,
    (Cursor.takes_u8 _).lift.bind_after, (Cursor.takes_u8 _).lift.bind_after,
    (Cursor.takes_u8 _).lift.bind_after, checkedSub_add hsum, Read.bind_ok (Read.pure_apply _ _),
    (Cursor.takes_u8 _).lift.bind_after, (Cursor.takes_u8 _).lift.bind_after,
    (Cursor.takes_u8 _).lift.bind_after, (Cursor.takes_u8 _).lift.bind_after,
    (Cursor.takes_cstr hversion).lift.bind_after, List.nil_append, Read.bind_ok hextra,
    Read.bind_ok (Read.lift_ok (Cursor.expectEmpty_after _))]
  have happId := appId_eq r
  simp only [Read.pure_apply, putBool_eq, extra, happId, ServerType.ofU8_toU8, Os.ofU8_toU8]

theorem returns_getExtra {α : Type} {extra flag : ServerInfoExtra} {get : Read CursorError α}
    {P : α → Prop} (h : Read.Returns get P) :
    Read.Returns (getExtra extra flag get) fun value => ∀ a, value = some a → P a := by
  unfold getExtra
  by_cases hflag : extra.intersects flag = true
  · rw [if_pos hflag]
    refine h.lift.bind fun a ha => Read.Returns.pure ?_
    rintro b hb
    cases hb
    exact ha
  · rw [if_neg hflag]
    exact Read.Returns.pure fun a ha => nomatch ha

/-- The strings of decoded extra data have no zero byte. -/
theorem returns_decodeExtra : Read.Returns decodeExtra fun extra =>
    (∀ tv, extra.sourceTv = some tv → (0 : UInt8) ∉ tv.name) ∧
      ∀ s, extra.keywords = some s → (0 : UInt8) ∉ s := by
  have hsourceTv : Read.Returns getSourceTv fun tv => (0 : UInt8) ∉ tv.name :=
    Read.Returns.bind_any fun _ => Cursor.returns_cstr.bind fun _ h => Read.Returns.pure h
  unfold decodeExtra
  refine Read.Returns.bind_any fun s => ?_
  by_cases hempty : s.isEmpty = true
  · rw [if_pos hempty]
    exact Read.Returns.pure ⟨fun _ h => (nomatch h), fun _ h => (nomatch h)⟩
  · rw [if_neg hempty]
    refine Read.Returns.bind_any fun b => .bind_any fun port => .bind_any fun steamId => ?_
    refine (returns_getExtra hsourceTv).bind fun tv htv => ?_
    refine (returns_getExtra Cursor.returns_cstr).bind fun keywords hkeywords => ?_
    exact Read.Returns.bind_any fun appId => Read.Returns.pure ⟨htv, hkeywords⟩

/-- The number of players leaves room for the bots. -/
theorem returns_checkedSub (clients bots : UInt8) : Read.Returns (checkedSub clients bots)
    fun players => players.toNat + bots.toNat ≤ 255 := by
  unfold checkedSub
  by_cases h : clients < bots
  · rw [if_pos h]
    exact Read.Returns.fail
  · rw [if_neg h]
    refine Read.Returns.pure ?_
    have hle : bots ≤ clients := UInt8.not_lt.1 h
    have hclients := clients.toNat_lt
    rw [UInt8.toNat_sub_of_le _ _ hle]
    rw [UInt8.le_iff_toNat_le] at hle
    omega

/-- Every decoded reply can be written. -/
theorem carried_of_decode {src : Bytes} (h : decode src = .ok r) : r.Carried := by
  refine Read.Returns.run ?_ h
  refine .bind_any fun _ => .bind_any fun protocol => ?_
  refine Cursor.returns_cstr.lift.bind fun host hhost => ?_
  refine Cursor.returns_cstr.lift.bind fun map hmap => ?_
  refine Cursor.returns_cstr.lift.bind fun gamedir hgamedir => ?_
  refine Cursor.returns_cstr.lift.bind fun game hgame => ?_
  refine .bind_any fun appId => .bind_any fun clients => .bind_any fun maxPlayers => ?_
  refine .bind_any fun bots => (returns_checkedSub clients bots).bind fun players hsum => ?_
  refine .bind_any fun ty => .bind_any fun os => .bind_any fun password => .bind_any fun secure => ?_
  refine Cursor.returns_cstr.lift.bind fun version hversion => ?_
  refine returns_decodeExtra.bind fun extra hextra => .bind_any fun _ => Read.Returns.pure ?_
  exact ⟨hhost, hmap, hgamedir, hgame, hversion, hextra.1, hextra.2, hsum⟩

/-- A reply comes back as it was. -/
theorem decode_encode {cap : ℕ} {out : Bytes} (h : r.Carried) (hout : r.encode cap = .ok out) :
    Server.Packet.decode out = .ok (some (.getServerInfo2Response r)) := by
  have hwire : out = r.wire := by
    rw [encode_eq] at hout
    exact Writes.eq_of_encoded hout
  have hheader : header.isPrefixOf r.wire = true :=
    List.isPrefixOf_iff_prefix.2 (List.prefix_append _ _)
  rw [hwire, Server.Packet.decode_getServerInfo2Response hheader, decode_wire h]
  rfl

end GetServerInfo2Response

namespace GetServerInfo2ResponseOld

open GetServerInfo2Response

variable {r : GetServerInfo2ResponseOld}

/-- No string has a zero byte. -/
def Carried (r : GetServerInfo2ResponseOld) : Prop :=
  (0 : UInt8) ∉ r.address ∧ (0 : UInt8) ∉ r.host ∧ (0 : UInt8) ∉ r.map ∧ (0 : UInt8) ∉ r.gamedir ∧
    (0 : UInt8) ∉ r.game ∧
    ∀ m, r.modInfo = some m → (0 : UInt8) ∉ m.link ∧ (0 : UInt8) ∉ m.downloadLink

/-- The bytes of mod information. -/
def modWire (m : ModInfo) : Bytes :=
  (m.link ++ [0]) ++ ((m.downloadLink ++ [0]) ++ ([0] ++ (u32Le m.version ++ (u32Le m.size ++
    ([if m.multiplayerOnly then 1 else 0] ++ [if m.customDll then 1 else 0])))))

/-- The bytes of optional mod information. -/
def optModWire : Option ModInfo → Bytes
  | some m => [1] ++ modWire m
  | none => [0]

/-- The bytes of an encoded reply. -/
def wire (r : GetServerInfo2ResponseOld) : Bytes :=
  header ++ ((r.address ++ [0]) ++ ((r.host ++ [0]) ++ ((r.map ++ [0]) ++ ((r.gamedir ++ [0]) ++
    ((r.game ++ [0]) ++ ([r.players] ++ ([r.maxPlayers] ++ ([r.protocol] ++ ([r.ty.toU8] ++
      ([r.os.toU8] ++ ([if r.password then 1 else 0] ++ (optModWire r.modInfo ++
        ([if r.secure then 1 else 0] ++ [r.bots])))))))))))))

theorem writes_putModInfo (m : Option ModInfo) : Writes (putModInfo m) (optModWire m) := by
  cases m with
  | none => exact Writes.putU8 0
  | some m =>
    exact (Writes.putU8 1).seq <| (Writes.putCstr _).seq <| (Writes.putCstr _).seq <|
      (Writes.putU8 0).seq <| (Writes.putU32Le _).seq <| (Writes.putU32Le _).seq <|
      (writes_putBool _).seq (writes_putBool _)

theorem encode_eq (r : GetServerInfo2ResponseOld) (cap : ℕ) : r.encode cap =
    if r.wire.length ≤ cap then .ok r.wire else .error (.cursorError .bufferOverflow) := by
  refine Writes.run (s := r.wire) ?_ cap
  exact (Writes.putBytes header).seq <| (Writes.putCstr _).seq <| (Writes.putCstr _).seq <|
    (Writes.putCstr _).seq <| (Writes.putCstr _).seq <| (Writes.putCstr _).seq <|
    (Writes.putU8 _).seq <| (Writes.putU8 _).seq <| (Writes.putU8 _).seq <| (Writes.putU8 _).seq <|
    (Writes.putU8 _).seq <| (writes_putBool _).seq <| (writes_putModInfo _).seq <|
    (writes_putBool _).seq (Writes.putU8 _)

theorem takes_modInfo {m : ModInfo} (hlink : (0 : UInt8) ∉ m.link)
    (hdownload : (0 : UInt8) ∉ m.downloadLink) : Read.Takes decodeModInfo (modWire m) m := by
  refine (Cursor.takes_cstr hlink).lift.bind ((Cursor.takes_cstr hdownload).lift.bind ?_)
  refine (Cursor.takes_u8 0).lift.bind ((Cursor.takes_u32Le m.version).lift.bind ?_)
  refine (Cursor.takes_u32Le m.size).lift.bind ((Cursor.takes_u8 _).lift.bind ?_)
  refine (Cursor.takes_u8 (if m.customDll then 1 else 0)).lift.bind (t := []) ?_
  rw [putBool_eq, putBool_eq]
  exact Read.Takes.pure m

theorem takes_optModInfo (m : Option ModInfo)
    (h : ∀ m', m = some m' → (0 : UInt8) ∉ m'.link ∧ (0 : UInt8) ∉ m'.downloadLink) :
    Read.Takes decodeOptModInfo (optModWire m) m := by
  cases m with
  | none => exact (Cursor.takes_u8 0).lift.bind (t := []) (Read.Takes.pure none)
  | some m =>
    obtain ⟨hlink, hdownload⟩ := h m rfl
    refine (Cursor.takes_u8 1).lift.bind ?_
    rw [← List.append_nil (modWire m)]
    exact (takes_modInfo hlink hdownload).bind (Read.Takes.pure (some m))

/-- What is written is read back. -/
theorem decode_wire (h : r.Carried) : decode r.wire = .ok r := by
  obtain ⟨haddress, hhost, hmap, hgamedir, hgame, hmod⟩ := h
  unfold decode Read.run wire
  rw [← List.append_nil [r.bots], Cursor.new_eq, (Cursor.takes_expect header).lift.bind_after,
    (Cursor.takes_cstr haddress).lift.bind_after, (Cursor.takes_cstr hhost).lift.bind_after,
    (Cursor.takes_cstr hmap).lift.bind_after, (Cursor.takes_cstr hgamedir).lift.bind_after,
    (Cursor.takes_cstr hgame).lift.bind_after, (Cursor.takes_u8 _).lift.bind_after,
    (Cursor.takes_u8 _).lift.bind_after, (Cursor.takes_u8 _).lift.bind_after,
    (Cursor.takes_u8 _).lift.bind_after, (Cursor.takes_u8 _).lift.bind_after,
    (Cursor.takes_u8 _).lift.bind_after, (takes_optModInfo _ hmod).bind_after,
    (Cursor.takes_u8 _).lift.bind_after, (Cursor.takes_u8 _).lift.bind_after,
    Read.bind_ok (Read.lift_ok (Cursor.expectEmpty_after _))]
  simp only [Read.pure_apply, putBool_eq, ServerType.ofU8_toU8, Os.ofU8_toU8]

theorem returns_optModInfo : Read.Returns decodeOptModInfo fun m =>
    ∀ m', m = some m' → (0 : UInt8) ∉ m'.link ∧ (0 : UInt8) ∉ m'.downloadLink := by
  refine Read.Returns.bind_any fun hasMod => ?_
  by_cases hhas : (hasMod != 0) = true
  · rw [if_pos hhas]
    have hmod : Read.Returns decodeModInfo fun m =>
        (0 : UInt8) ∉ m.link ∧ (0 : UInt8) ∉ m.downloadLink := by
      refine Cursor.returns_cstr.lift.bind fun link hlink => ?_
      refine Cursor.returns_cstr.lift.bind fun download hdownload => ?_
      refine .bind_any fun _ => .bind_any fun version => .bind_any fun size => ?_
      refine .bind_any fun multiplayer => .bind_any fun custom => Read.Returns.pure ?_
      exact ⟨hlink, hdownload⟩
    refine hmod.bind fun m hm => Read.Returns.pure ?_
    rintro m' hm'
    cases hm'
    exact hm
  · rw [if_neg hhas]
    exact Read.Returns.pure fun m' hm' => nomatch hm'

/-- Every decoded reply can be written. -/
theorem carried_of_decode {src : Bytes} (h : decode src = .ok r) : r.Carried := by
  refine Read.Returns.run ?_ h
  refine .bind_any fun _ => ?_
  refine Cursor.returns_cstr.lift.bind fun address haddress => ?_
  refine Cursor.returns_cstr.lift.bind fun host hhost => ?_
  refine Cursor.returns_cstr.lift.bind fun map hmap => ?_
  refine Cursor.returns_cstr.lift.bind fun gamedir hgamedir => ?_
  refine Cursor.returns_cstr.lift.bind fun game hgame => ?_
  refine .bind_any fun players => .bind_any fun maxPlayers => .bind_any fun protocol => ?_
  refine .bind_any fun ty => .bind_any fun os => .bind_any fun password => ?_
  refine returns_optModInfo.bind fun m hm => .bind_any fun secure => .bind_any fun bots => ?_
  refine .bind_any fun _ => Read.Returns.pure ?_
  exact ⟨haddress, hhost, hmap, hgamedir, hgame, hm⟩

/-- A reply comes back as it was. -/
theorem decode_encode {cap : ℕ} {out : Bytes} (h : r.Carried) (hout : r.encode cap = .ok out) :
    Server.Packet.decode out = .ok (some (.getServerInfo2ResponseOld r)) := by
  have hwire : out = r.wire := by
    rw [encode_eq] at hout
    exact Writes.eq_of_encoded hout
  have hheader : header.isPrefixOf r.wire = true :=
    List.isPrefixOf_iff_prefix.2 (List.prefix_append _ _)
  rw [hwire, Server.Packet.decode_getServerInfo2ResponseOld hheader, decode_wire h]
  rfl

end GetServerInfo2ResponseOld

/-- Binary packets round-trip: what is encoded of a reply whose strings have no zero byte, and
whose clients fit in a byte, is decoded to the reply, and every decoded reply is such a reply. -/
theorem binary_packets_roundtrip :
    (∀ (r : GetServerInfo2Response) (cap : ℕ) (out : Bytes), r.Carried → r.encode cap = .ok out →
      Server.Packet.decode out = .ok (some (.getServerInfo2Response r))) ∧
    (∀ (r : GetServerInfo2ResponseOld) (cap : ℕ) (out : Bytes), r.Carried →
      r.encode cap = .ok out →
      Server.Packet.decode out = .ok (some (.getServerInfo2ResponseOld r))) ∧
    (∀ (src : Bytes) (r : GetServerInfo2Response), GetServerInfo2Response.decode src = .ok r →
      r.Carried ∧ ∀ cap, (r.wireWith []).length + 1 + r.extras.length ≤ cap →
        ∃ out, r.encode cap = .ok out ∧
          Server.Packet.decode out = .ok (some (.getServerInfo2Response r))) ∧
    ∀ (src : Bytes) (r : GetServerInfo2ResponseOld), GetServerInfo2ResponseOld.decode src = .ok r →
      r.Carried ∧ ∀ cap, r.wire.length ≤ cap → ∃ out, r.encode cap = .ok out ∧
        Server.Packet.decode out = .ok (some (.getServerInfo2ResponseOld r)) := by
  refine ⟨fun r cap out h hout => GetServerInfo2Response.decode_encode h hout,
    fun r cap out h hout => GetServerInfo2ResponseOld.decode_encode h hout, ?_, ?_⟩
  · intro src r hsrc
    have hr := GetServerInfo2Response.carried_of_decode hsrc
    refine ⟨hr, fun cap hcap => ?_⟩
    have hout : r.encode cap = .ok r.wire := by rw [GetServerInfo2Response.encode_eq, if_pos hcap]
    exact ⟨r.wire, hout, GetServerInfo2Response.decode_encode hr hout⟩
  · intro src r hsrc
    have hr := GetServerInfo2ResponseOld.carried_of_decode hsrc
    refine ⟨hr, fun cap hcap => ?_⟩
    have hout : r.encode cap = .ok r.wire := by
      rw [GetServerInfo2ResponseOld.encode_eq, if_pos hcap]
    exact ⟨r.wire, hout, GetServerInfo2ResponseOld.decode_encode hr hout⟩

end Xash3d
