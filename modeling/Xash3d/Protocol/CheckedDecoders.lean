import Xash3d.Protocol.CheckedText
import Xash3d.Protocol.Net.Admin
import Xash3d.Protocol.Net.Info2
import Xash3d.Protocol.Net.Packets
import Xash3d.Protocol.Players

/-!
# Decoders with their checks

The decoders of the packets on checked reads. Each of them is the decoder of the model, without
faults, on every packet that fits into memory.
-/

namespace Xash3d

open Lib

variable {src : Bytes}

/-! ## Packets of a game server -/

namespace Challenge

def decodeChecked (src : Bytes) : Except Fault (Except ProtocolError Challenge) := Checked.run (do
  (Checked.expect header).lift
  let n ← Checked.remaining
  let serverChallenge ←
    if n = 4 then do
      let c ← Checked.getU32Le.lift
      pure (some c)
    else pure none
  Checked.expectEmpty.lift
  return ⟨serverChallenge⟩) src

theorem decodeChecked_eq (h : src.length < 2 ^ 63) : decodeChecked src = .ok (decode src) := by
  apply Safe.run h
  intro c hc
  refine (Safe.expect hc (by decide)).lift.bind fun _ c hc _ => ?_
  refine Safe.remaining hc ?_
  refine Safe.ite (fun _ => ?_) fun _ => ?_
  · refine (Safe.getU32Le hc).lift.bind fun _ c hc _ => ?_
    refine (Safe.expectEmpty hc).lift.bind fun _ c hc _ => ?_
    exact .pure hc _
  · refine (Safe.expectEmpty hc).lift.bind fun _ c hc _ => ?_
    exact .pure hc _

end Challenge

/-- A string without its first backslash. -/
theorem clean_of_stripPrefix {info bytes : Bytes} (h : stripPrefix info = .ok bytes)
    (h0 : (0 : UInt8) ∉ info) (hlen : info.length < 2 ^ 63) : MapIter.Clean ⟨bytes⟩ := by
  cases info with
  | nil =>
    cases h
    exact ⟨h0, hlen⟩
  | cons c s =>
    unfold stripPrefix at h
    dsimp only at h
    split_ifs at h
    cases h
    rw [List.length_cons] at hlen
    exact ⟨fun hmem => h0 (List.mem_cons_of_mem c hmem), (Nat.lt_succ_self _).trans hlen⟩

namespace ServerAdd

/-- What is made of an info string, of the same `decode`. -/
def parseChecked (info : Bytes) : Checked ProtocolError ServerAdd := do
  let info ← Checked.ofExcept (stripPrefix info)
  let st ← Checked.outcome ((MapIter.mk info).tryFoldChecked visit (default, false))
  if st.2 then return st.1 else Checked.fail (.invalidServerValue "challenge" .expect)

def decodeChecked (src : Bytes) : Except Fault (Except ProtocolError ServerAdd) := Checked.run (do
  (Checked.expect header).lift
  let taken ← (Checked.takeUntil2 10 0).attempt
  match taken with
  | .ok s => do
    let c ← Checked.getU8.attempt
    if c = .ok 10 then
      Checked.expectEmpty.lift
      parseChecked s
    else Checked.fail .invalidPacket
  | .error (_ : CursorError) => do
    let s ← Checked.rest
    parseChecked s) src

theorem decodeChecked_eq (h : src.length < 2 ^ 63) : decodeChecked src = .ok (decode src) := by
  have hparse {info : Bytes} {c : Cursor} (hc : c.Fits) (h0 : (0 : UInt8) ∉ info)
      (hlen : info.length < 2 ^ 63) : Safe (parseChecked info)
        (Read.ofExcept (stripPrefix info) >>= fun info =>
          Read.ofExcept ((MapIter.mk info).tryFold visit (default, false)) >>= fun st =>
            if st.2 then pure st.1
            else Read.fail (.invalidServerValue "challenge" .expect)) c := by
    refine (Safe.ofExcept hc _).bind fun bytes c hc hbytes => ?_
    have hclean := clean_of_stripPrefix (congrArg Prod.fst hbytes) h0 hlen
    refine (Safe.outcome hc (MapIter.tryFoldChecked_eq _ hclean _)).bind fun st c hc _ => ?_
    exact Safe.ite (fun _ => .pure hc _) fun _ => .fail hc _
  apply Safe.run h
  intro c hc
  refine (Safe.expect hc (by decide)).lift.bind fun _ c hc _ => ?_
  refine (Safe.takeUntil2 hc 10 0).attempt.bind fun taken c₁ hc₁ htaken => ?_
  have htaken := Read.attempt_eq_ok htaken
  cases taken with
  | error e =>
    obtain ⟨rfl, -, h0⟩ := Cursor.takeUntil2_error htaken
    refine (Safe.rest hc₁).bind fun s c hc hrest => ?_
    cases hrest
    exact hparse hc h0 hc₁.length_asSlice_lt
  | ok s =>
    obtain ⟨hs, -, h0⟩ := Cursor.takeUntil2_ok htaken
    have hlen : s.length < 2 ^ 63 := by
      rw [hs]
      exact (List.takeWhile_prefix _).length_le.trans_lt hc.length_asSlice_lt
    refine (Safe.getU8 hc₁).attempt.bind fun r c₂ hc₂ _ => ?_
    by_cases hr : r = .ok 10
    · subst hr
      rw [if_pos rfl]
      refine (Safe.expectEmpty hc₂).lift.bind fun _ c hc _ => ?_
      exact hparse hc h0 hlen
    · rw [if_neg hr]
      split
      · exact absurd rfl hr
      · exact (Safe.fail hc₂ _).congr rfl

end ServerAdd

namespace ServerRemove

def decodeChecked (src : Bytes) : Except Fault (Except ProtocolError ServerRemove) :=
  Checked.run (do
    (Checked.expect header).lift
    Checked.expectEmpty.lift
    return ⟨⟩) src

theorem decodeChecked_eq (h : src.length < 2 ^ 63) : decodeChecked src = .ok (decode src) := by
  apply Safe.run h
  intro c hc
  refine (Safe.expect hc (by decide)).lift.bind fun _ c hc _ => ?_
  refine (Safe.expectEmpty hc).lift.bind fun _ c hc _ => ?_
  exact .pure hc _

end ServerRemove

namespace GetServerInfoResponse

/-- The slice behind the last colon of a reply that is not an info string. -/
def notInfoChecked (s : Bytes) : Except Fault ProtocolError :=
  match s.reverse.findIdx? (· == 58) with
  | none => .ok .invalidPacket
  | some p => do
    let start ← wordSub s.length p
    let msg ← sliceRange s start s.length
    return if msg = ascii " wrong version\n" then .invalidProtocolVersion else .invalidPacket

/-- What is made of an info string, of the same `decode`. -/
def parseChecked (info : Bytes) : Checked ProtocolError GetServerInfoResponse := do
  let info ← Checked.ofExcept (stripPrefix info)
  Checked.outcome ((MapIter.mk info).tryFoldChecked visit default)

def decodeChecked (src : Bytes) : Except Fault (Except ProtocolError GetServerInfoResponse) :=
  Checked.run (do
    (Checked.expect header).lift
    let s ← Checked.rest
    if !(ascii "\\").isPrefixOf s then
      let n ← Checked.remaining
      let s ← (Checked.getBytes n).lift
      let e ← Checked.check (notInfoChecked s)
      Checked.fail e
    else
      let cstr ← Checked.getCstrFfi.attempt
      match cstr with
      | .ok s => do
        Checked.expectEmpty.lift
        parseChecked (Cursor.toBytes s)
      | .error (_ : CursorError) => do
        let s ← Checked.rest
        parseChecked s) src

theorem notInfoChecked_eq (s : Bytes) : notInfoChecked s = .ok (notInfo s) := by
  unfold notInfoChecked notInfo
  cases hp : s.reverse.findIdx? (· == 58) with
  | none => rfl
  | some p =>
    have hlt := lt_length_of_findIdx? hp
    rw [List.length_reverse] at hlt
    dsimp only
    rw [wordSub_ok hlt.le]
    show ((sliceRange s (s.length - p) s.length).bind fun msg => _) = _
    rw [sliceRange_rest (Nat.sub_le _ _)]
    rfl

theorem decodeChecked_eq (h : src.length < 2 ^ 63) : decodeChecked src = .ok (decode src) := by
  have hparse {info : Bytes} {c : Cursor} (hc : c.Fits) (h0 : (0 : UInt8) ∉ info)
      (hlen : info.length < 2 ^ 63) : Safe (parseChecked info)
        (Read.ofExcept (stripPrefix info) >>= fun info =>
          Read.ofExcept ((MapIter.mk info).tryFold visit default)) c := by
    refine (Safe.ofExcept hc _).bind fun bytes c hc hbytes => ?_
    have hclean := clean_of_stripPrefix (congrArg Prod.fst hbytes) h0 hlen
    exact Safe.outcome hc (MapIter.tryFoldChecked_eq _ hclean _)
  apply Safe.run h
  intro c hc
  refine (Safe.expect hc (by decide)).lift.bind fun _ c hc _ => ?_
  refine (Safe.rest hc).bind fun s c₁ hc₁ hs => ?_
  cases hs
  refine Safe.ite (fun _ => ?_) fun _ => ?_
  · refine Safe.remaining hc₁ ?_
    refine (Safe.getBytes hc₁ hc₁.length_asSlice_lt).lift.bind fun s c hc _ => ?_
    exact Safe.check (notInfoChecked_eq s) (.fail hc _)
  · refine (Safe.getCstrFfi hc₁).attempt.bind fun cstr c₂ hc₂ hcstr => ?_
    have hcstr := Read.attempt_eq_ok hcstr
    cases cstr with
    | error e =>
      obtain ⟨rfl, h0⟩ := Cursor.getCstrFfi_error hcstr
      refine (Safe.rest hc₂).bind fun s c hc hrest => ?_
      cases hrest
      exact hparse hc h0 hc₂.length_asSlice_lt
    | ok s =>
      refine (Safe.expectEmpty hc₂).lift.bind fun _ c hc _ => ?_
      exact hparse hc (Cursor.getCstrFfi_ok hcstr) (Safe.length_of_getCstrFfi hc₁ hcstr)

end GetServerInfoResponse

namespace GetChallengeResponse

def decodeChecked (src : Bytes) : Except Fault (Except ProtocolError GetChallengeResponse) :=
  Checked.run (do
    (Checked.expect header).lift
    let challenge ← Checked.getU32Le.lift
    Checked.expectEmpty.lift
    return ⟨challenge⟩) src

theorem decodeChecked_eq (h : src.length < 2 ^ 63) : decodeChecked src = .ok (decode src) := by
  apply Safe.run h
  intro c hc
  refine (Safe.expect hc (by decide)).lift.bind fun _ c hc _ => ?_
  refine (Safe.getU32Le hc).lift.bind fun _ c hc _ => ?_
  refine (Safe.expectEmpty hc).lift.bind fun _ c hc _ => ?_
  exact .pure hc _

end GetChallengeResponse

namespace GetServerInfo2Response

/-- Read a field if its flag is there. -/
def getExtraChecked {α : Type} (extra flag : ServerInfoExtra) (get : Checked CursorError α) :
    Checked ProtocolError (Option α) :=
  if extra.intersects flag then do
    let a ← get.lift
    return some a
  else return none

def getSourceTvChecked : Checked CursorError SourceTv := do
  let port ← Checked.getU16Le
  let name ← Checked.getCstr
  return ⟨port, name⟩

/-- The extra data, of the same `decode`. -/
def decodeExtraChecked : Checked ProtocolError Extra := do
  let more ← Checked.hasRemaining
  if more then do
    let b ← Checked.getU8.lift
    let extra := ServerInfoExtra.fromBitsRetain b
    let port ← getExtraChecked extra ServerInfoExtra.port Checked.getU16Le
    let steamId ← getExtraChecked extra ServerInfoExtra.steamId Checked.getU64Le
    let sourceTv ← getExtraChecked extra ServerInfoExtra.sourceTv getSourceTvChecked
    let keywords ← getExtraChecked extra ServerInfoExtra.keywords Checked.getCstr
    let appId ← getExtraChecked extra ServerInfoExtra.appId Checked.getU64Le
    return ⟨port, steamId, sourceTv, keywords, appId⟩
  else return ⟨none, none, none, none, none⟩

/-- The number of players, out of the number of clients. -/
def checkedSubChecked (clients bots : UInt8) : Checked ProtocolError UInt8 :=
  if clients < bots then Checked.fail .invalidPacket else return clients - bots

def decodeChecked (src : Bytes) : Except Fault (Except ProtocolError GetServerInfo2Response) :=
  Checked.run (do
    (Checked.expect header).lift
    let protocol ← Checked.getU8.lift
    let host ← Checked.getCstr.lift
    let map ← Checked.getCstr.lift
    let gamedir ← Checked.getCstr.lift
    let game ← Checked.getCstr.lift
    let appId ← Checked.getU16Le.lift
    let clients ← Checked.getU8.lift
    let maxPlayers ← Checked.getU8.lift
    let bots ← Checked.getU8.lift
    let players ← checkedSubChecked clients bots
    let ty ← Checked.getU8.lift
    let os ← Checked.getU8.lift
    let password ← Checked.getU8.lift
    let secure ← Checked.getU8.lift
    let version ← Checked.getCstr.lift
    let extra ← decodeExtraChecked
    Checked.expectEmpty.lift
    return {
      protocol, host, map, gamedir, game
      appId := extra.appId.getD appId.toUInt64
      players, maxPlayers, bots
      ty := .ofU8 ty
      os := .ofU8 os
      password := password != 0
      secure := secure != 0
      version
      port := extra.port
      steamId := extra.steamId
      sourceTv := extra.sourceTv
      keywords := extra.keywords }) src

section

variable {c : Cursor}

theorem safe_getExtra {α : Type} (hc : c.Fits) (extra flag : ServerInfoExtra)
    {get : Checked CursorError α} {get' : Read CursorError α}
    (hget : Safe get get' c) :
    Safe (getExtraChecked extra flag get) (getExtra extra flag get') c :=
  Safe.ite (fun _ => hget.lift.bind fun _ _ hc _ => .pure hc _) fun _ => .pure hc _

theorem safe_getSourceTv (hc : c.Fits) : Safe getSourceTvChecked getSourceTv c := by
  refine (Safe.getU16Le hc).bind fun _ c hc _ => ?_
  refine (Safe.getCstr hc).bind fun _ c hc _ => ?_
  exact .pure hc _

theorem safe_decodeExtra (hc : c.Fits) : Safe decodeExtraChecked decodeExtra c := by
  refine Safe.hasRemaining ?_
  by_cases hempty : c.asSlice.isEmpty = true
  · rw [hempty]
    exact .pure hc _
  · rw [Bool.eq_false_iff.mpr hempty]
    refine (Safe.getU8 hc).lift.bind fun b c hc _ => ?_
    refine (safe_getExtra hc _ _ (Safe.getU16Le hc)).bind fun port c hc _ => ?_
    refine (safe_getExtra hc _ _ (Safe.getU64Le hc)).bind fun steamId c hc _ => ?_
    refine (safe_getExtra hc _ _ (safe_getSourceTv hc)).bind fun sourceTv c hc _ => ?_
    refine (safe_getExtra hc _ _ (Safe.getCstr hc)).bind fun keywords c hc _ => ?_
    refine (safe_getExtra hc _ _ (Safe.getU64Le hc)).bind fun appId c hc _ => ?_
    exact .pure hc _

theorem safe_checkedSub (hc : c.Fits) (clients bots : UInt8) :
    Safe (checkedSubChecked clients bots) (checkedSub clients bots) c :=
  Safe.ite (fun _ => .fail hc _) fun _ => .pure hc _

end

theorem decodeChecked_eq (h : src.length < 2 ^ 63) : decodeChecked src = .ok (decode src) := by
  apply Safe.run h
  intro c hc
  refine (Safe.expect hc (by decide)).lift.bind fun _ c hc _ => ?_
  refine (Safe.getU8 hc).lift.bind fun protocol c hc _ => ?_
  refine (Safe.getCstr hc).lift.bind fun host c hc _ => ?_
  refine (Safe.getCstr hc).lift.bind fun map c hc _ => ?_
  refine (Safe.getCstr hc).lift.bind fun gamedir c hc _ => ?_
  refine (Safe.getCstr hc).lift.bind fun game c hc _ => ?_
  refine (Safe.getU16Le hc).lift.bind fun appId c hc _ => ?_
  refine (Safe.getU8 hc).lift.bind fun clients c hc _ => ?_
  refine (Safe.getU8 hc).lift.bind fun maxPlayers c hc _ => ?_
  refine (Safe.getU8 hc).lift.bind fun bots c hc _ => ?_
  refine (safe_checkedSub hc clients bots).bind fun players c hc _ => ?_
  refine (Safe.getU8 hc).lift.bind fun ty c hc _ => ?_
  refine (Safe.getU8 hc).lift.bind fun os c hc _ => ?_
  refine (Safe.getU8 hc).lift.bind fun password c hc _ => ?_
  refine (Safe.getU8 hc).lift.bind fun secure c hc _ => ?_
  refine (Safe.getCstr hc).lift.bind fun version c hc _ => ?_
  refine (safe_decodeExtra hc).bind fun extra c hc _ => ?_
  refine (Safe.expectEmpty hc).lift.bind fun _ c hc _ => ?_
  exact .pure hc _

end GetServerInfo2Response

namespace GetServerInfo2ResponseOld

/-- The mod information, of the same `decode`. -/
def decodeModInfoChecked : Checked ProtocolError ModInfo := do
  let link ← Checked.getCstr.lift
  let downloadLink ← Checked.getCstr.lift
  let _ ← Checked.getU8.lift -- unknown byte, must be zero
  let version ← Checked.getU32Le.lift
  let size ← Checked.getU32Le.lift
  let multiplayerOnly ← Checked.getU8.lift
  let customDll ← Checked.getU8.lift
  return {
    link, downloadLink, version, size
    multiplayerOnly := multiplayerOnly != 0
    customDll := customDll != 0 }

/-- The optional mod information behind its presence byte. -/
def decodeOptModInfoChecked : Checked ProtocolError (Option ModInfo) := do
  let hasMod ← Checked.getU8.lift
  if hasMod != 0 then do
    let modInfo ← decodeModInfoChecked
    return some modInfo
  else return none

def decodeChecked (src : Bytes) : Except Fault (Except ProtocolError GetServerInfo2ResponseOld) :=
  Checked.run (do
    (Checked.expect header).lift
    let address ← Checked.getCstr.lift
    let host ← Checked.getCstr.lift
    let map ← Checked.getCstr.lift
    let gamedir ← Checked.getCstr.lift
    let game ← Checked.getCstr.lift
    let players ← Checked.getU8.lift
    let maxPlayers ← Checked.getU8.lift
    let protocol ← Checked.getU8.lift
    let ty ← Checked.getU8.lift
    let os ← Checked.getU8.lift
    let password ← Checked.getU8.lift
    let modInfo ← decodeOptModInfoChecked
    let secure ← Checked.getU8.lift
    let bots ← Checked.getU8.lift
    Checked.expectEmpty.lift
    return {
      address, host, map, gamedir, game, players, maxPlayers, protocol
      ty := .ofU8 ty
      os := .ofU8 os
      password := password != 0
      modInfo
      secure := secure != 0
      bots }) src

theorem safe_decodeModInfo {c : Cursor} (hc : c.Fits) :
    Safe decodeModInfoChecked decodeModInfo c := by
  refine (Safe.getCstr hc).lift.bind fun link c hc _ => ?_
  refine (Safe.getCstr hc).lift.bind fun downloadLink c hc _ => ?_
  refine (Safe.getU8 hc).lift.bind fun _ c hc _ => ?_
  refine (Safe.getU32Le hc).lift.bind fun version c hc _ => ?_
  refine (Safe.getU32Le hc).lift.bind fun size c hc _ => ?_
  refine (Safe.getU8 hc).lift.bind fun multiplayerOnly c hc _ => ?_
  refine (Safe.getU8 hc).lift.bind fun customDll c hc _ => ?_
  exact .pure hc _

theorem safe_decodeOptModInfo {c : Cursor} (hc : c.Fits) :
    Safe decodeOptModInfoChecked decodeOptModInfo c := by
  refine (Safe.getU8 hc).lift.bind fun hasMod c hc _ => ?_
  refine Safe.ite (fun _ => ?_) fun _ => .pure hc _
  exact (safe_decodeModInfo hc).bind fun modInfo c hc _ => .pure hc _

theorem decodeChecked_eq (h : src.length < 2 ^ 63) : decodeChecked src = .ok (decode src) := by
  apply Safe.run h
  intro c hc
  refine (Safe.expect hc (by decide)).lift.bind fun _ c hc _ => ?_
  refine (Safe.getCstr hc).lift.bind fun address c hc _ => ?_
  refine (Safe.getCstr hc).lift.bind fun host c hc _ => ?_
  refine (Safe.getCstr hc).lift.bind fun map c hc _ => ?_
  refine (Safe.getCstr hc).lift.bind fun gamedir c hc _ => ?_
  refine (Safe.getCstr hc).lift.bind fun game c hc _ => ?_
  refine (Safe.getU8 hc).lift.bind fun players c hc _ => ?_
  refine (Safe.getU8 hc).lift.bind fun maxPlayers c hc _ => ?_
  refine (Safe.getU8 hc).lift.bind fun protocol c hc _ => ?_
  refine (Safe.getU8 hc).lift.bind fun ty c hc _ => ?_
  refine (Safe.getU8 hc).lift.bind fun os c hc _ => ?_
  refine (Safe.getU8 hc).lift.bind fun password c hc _ => ?_
  refine (safe_decodeOptModInfo hc).bind fun modInfo c hc _ => ?_
  refine (Safe.getU8 hc).lift.bind fun secure c hc _ => ?_
  refine (Safe.getU8 hc).lift.bind fun bots c hc _ => ?_
  refine (Safe.expectEmpty hc).lift.bind fun _ c hc _ => ?_
  exact .pure hc _

end GetServerInfo2ResponseOld

/-- An entry of a player list. -/
def PlayerInfo.getChecked : Checked ProtocolError PlayerInfo := do
  let id ← Checked.getU8.lift
  let name ← Checked.getCstr.lift
  let frags ← Checked.getI32Le.lift
  let time ← Checked.getF32Le.lift
  return ⟨id, name, frags, time⟩

theorem PlayerInfo.safe_get {c : Cursor} (hc : c.Fits) :
    Safe PlayerInfo.getChecked PlayerInfo.get c := by
  refine (Safe.getU8 hc).lift.bind fun id c hc _ => ?_
  refine (Safe.getCstr hc).lift.bind fun name c hc _ => ?_
  refine (Safe.getI32Le hc).lift.bind fun frags c hc _ => ?_
  refine (Safe.getF32Le hc).lift.bind fun time c hc _ => ?_
  exact .pure hc _

namespace GetPlayersResponse

def decodeChecked (src : Bytes) : Except Fault (Except ProtocolError GetPlayersResponse) :=
  Checked.run (do
    (Checked.expect header).lift
    let count ← Checked.getU8.lift
    let players ← Checked.rest
    return ⟨count, players⟩) src

/-- The players of the list, each of them read by a call. -/
def iterChecked (r : GetPlayersResponse) : Except Fault (List (Except ProtocolError PlayerInfo)) :=
  calls PlayerInfo.getChecked r.count.toNat (.new r.players)

theorem decodeChecked_eq (h : src.length < 2 ^ 63) : decodeChecked src = .ok (decode src) := by
  apply Safe.run h
  intro c hc
  refine (Safe.expect hc (by decide)).lift.bind fun _ c hc _ => ?_
  refine (Safe.getU8 hc).lift.bind fun count c hc _ => ?_
  refine (Safe.rest hc).bind fun players c hc _ => ?_
  exact .pure hc _

theorem entries_eq (n : ℕ) (c : Cursor) : entries n c = returned PlayerInfo.get n c := by
  induction n generalizing c with
  | zero => rfl
  | succ n ih =>
    rw [entries, ih]
    rfl

theorem iterChecked_eq {r : GetPlayersResponse} (h : r.players.length < 2 ^ 63) :
    iterChecked r = .ok r.iter := by
  unfold iterChecked iter
  rw [entries_eq]
  exact calls_ok (fun c hc => PlayerInfo.safe_get hc) ⟨Nat.zero_le _, h⟩ _

/-- The bytes of the players are in the packet. -/
theorem length_players_le {r : GetPlayersResponse} (h : decode src = .ok r) :
    r.players.length ≤ src.length := by
  rw [decode_ok h, List.length_append, List.length_cons]
  omega

end GetPlayersResponse

end Xash3d
