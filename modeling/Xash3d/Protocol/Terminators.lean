import Xash3d.Protocol.Net.Game

/-!
# Missing terminators

Three decoders take the rest of a packet where the byte that ends a string is missing. Each of them
reads the same string with and without that byte, and the rest of the decoder depends on the string
only; with anything behind the byte they fail.
-/

namespace Xash3d

open Lib

namespace ServerAdd

/-- What is made of an info string. -/
def parse (info : Bytes) : Except ProtocolError ServerAdd := do
  let info ← stripPrefix info
  let (ret, hasChallenge) ← (MapIter.mk info).tryFold visit (default, false)
  if hasChallenge then return ret else .error (.invalidServerValue "challenge" .expect)

variable {s t : Bytes}

/-- The decoder behind its info string. -/
theorem parse_apply (info : Bytes) (c : Cursor) :
    ((Read.ofExcept (stripPrefix info) >>= fun info =>
      Read.ofExcept ((MapIter.mk info).tryFold visit (default, false)) >>= fun st =>
        if st.2 then pure st.1 else Read.fail (.invalidServerValue "challenge" .expect)) c).1 =
      parse info := by
  unfold parse
  rw [Read.bind_apply, Read.ofExcept_apply]
  cases stripPrefix info with
  | error e => rfl
  | ok info =>
    dsimp only
    rw [Read.bind_apply, Read.ofExcept_apply]
    simp only [bind, Except.bind]
    cases (MapIter.mk info).tryFold visit (default, false) with
    | error e => rfl
    | ok st =>
      obtain ⟨ret, _ | _⟩ := st
      · rfl
      · rfl

theorem decode_without (h10 : (10 : UInt8) ∉ s) (h0 : (0 : UInt8) ∉ s) :
    decode (header ++ s) = parse s := by
  unfold decode Read.run
  rw [Cursor.new_eq, Read.bind_ok (Read.lift_ok (Cursor.expect_after [] header s)),
    Read.bind_ok (Read.attempt_apply (Cursor.takeUntil2_none _ _ h10 h0))]
  dsimp only
  rw [Read.bind_ok (Cursor.rest_after _ _)]
  exact parse_apply s _

/-- With the newline, the string is taken up to it. -/
theorem decode_with (h10 : (10 : UInt8) ∉ s) (h0 : (0 : UInt8) ∉ s) :
    decode (header ++ (s ++ [10])) = parse s := by
  unfold decode Read.run
  rw [Cursor.new_eq, Read.bind_ok (Read.lift_ok (Cursor.expect_after [] header _)),
    Read.bind_ok (Read.attempt_apply (Cursor.takeUntil2_after _ _ [] h10 h0))]
  dsimp only
  rw [Read.bind_ok (Read.attempt_apply (Cursor.getU8_after _ [] 10))]
  show ((Cursor.expectEmpty.lift >>= _ : Read ProtocolError ServerAdd) _).1 = _
  rw [Read.bind_ok (Read.lift_ok (Cursor.expectEmpty_after _)), Read.bind_ok (Read.pure_apply _ _)]
  exact parse_apply s _

theorem decode_more (h10 : (10 : UInt8) ∉ s) (h0 : (0 : UInt8) ∉ s) (ht : t ≠ []) :
    decode (header ++ (s ++ 10 :: t)) = .error (.cursorError .expectEmpty) := by
  unfold decode Read.run
  rw [Cursor.new_eq, Read.bind_ok (Read.lift_ok (Cursor.expect_after [] header _)),
    Read.bind_ok (Read.attempt_apply (Cursor.takeUntil2_after _ _ t h10 h0))]
  dsimp only
  rw [Read.bind_ok (Read.attempt_apply (Cursor.getU8_after _ t 10))]
  show ((Cursor.expectEmpty.lift >>= _ : Read ProtocolError ServerAdd) _).1 = _
  rw [Read.bind_error (Read.lift_error (Cursor.expectEmpty_more _ t ht))]

end ServerAdd

namespace QueryServers

variable {last s t : Bytes}

/-- The packet in front of its filter. -/
def before (region : UInt8) (last : Bytes) : Bytes := header ++ ([region] ++ (last ++ [0]))

/-- The decoder behind the address. -/
def decodeFilter (region : Region) (last : Bytes) : Read ProtocolError (QueryServers Filter) := do
  let cstr ← Cursor.getCstrFfi.attempt
  let filterRaw ← match cstr with
    | .ok s => do
      Cursor.expectEmpty.lift
      pure (Cursor.toBytes s)
    | .error (_ : CursorError) => Cursor.rest
  let filter ← Read.ofExcept (Filter.fromSlice filterRaw)
  return ⟨region, last, filter⟩

theorem decode_before (b : UInt8) (hlast : (0 : UInt8) ∉ last) (tail : Bytes) :
    decode (before b last ++ tail) = (Region.tryFrom b).mapError (fun _ => .invalidRegion) >>=
      fun region => (decodeFilter region last (.after (before b last) tail)).1 := by
  have hpos : header ++ [b] ++ last ++ [0] = before b last := by simp [before]
  have hsrc : before b last ++ tail = header ++ b :: (last ++ 0 :: tail) := by simp [before]
  unfold decode decodeWith Read.run
  rw [hsrc, Cursor.new_eq, Read.bind_ok (Read.lift_ok (Cursor.expect_after [] header _)),
    List.nil_append, Read.bind_ok (Read.lift_ok (Cursor.getU8_after header _ b)), Read.bind_apply,
    Read.ofExcept_apply]
  cases (Region.tryFrom b).mapError fun _ => ProtocolError.invalidRegion with
  | error e => rfl
  | ok region =>
    dsimp only
    rw [Read.bind_ok (Read.lift_ok (Cursor.getCstr_after _ last tail hlast)), hpos]
    rfl

variable (pre : Bytes) (region : Region)

theorem decodeFilter_without (h0 : (0 : UInt8) ∉ s) :
    (decodeFilter region last (.after pre s)).1 =
      (Filter.fromSlice s).map fun filter => ⟨region, last, filter⟩ := by
  unfold decodeFilter
  rw [Read.bind_ok (Read.attempt_apply (Cursor.getCstrFfi_none pre s h0))]
  dsimp only
  rw [Read.bind_ok (Cursor.rest_after pre s), Read.bind_apply, Read.ofExcept_apply]
  cases Filter.fromSlice s with
  | error e => rfl
  | ok filter => rfl

theorem decodeFilter_with (h0 : (0 : UInt8) ∉ s) :
    (decodeFilter region last (.after pre (s ++ [0]))).1 =
      (Filter.fromSlice s).map fun filter => ⟨region, last, filter⟩ := by
  unfold decodeFilter
  rw [Read.bind_ok (Read.attempt_apply (Cursor.getCstrFfi_after pre s [] h0))]
  dsimp only
  rw [Read.bind_ok (Read.lift_ok (Cursor.expectEmpty_after _)), Read.bind_ok (Read.pure_apply _ _),
    Cursor.toBytes, List.dropLast_concat, Read.bind_apply, Read.ofExcept_apply]
  cases Filter.fromSlice s with
  | error e => rfl
  | ok filter => rfl

theorem decodeFilter_more (h0 : (0 : UInt8) ∉ s) (ht : t ≠ []) :
    (decodeFilter region last (.after pre (s ++ 0 :: t))).1 =
      .error (.cursorError .expectEmpty) := by
  unfold decodeFilter
  rw [Read.bind_ok (Read.attempt_apply (Cursor.getCstrFfi_after pre s t h0))]
  dsimp only
  rw [Read.bind_error (Read.lift_error (Cursor.expectEmpty_more _ t ht))]

end QueryServers

namespace GetServerInfoResponse

variable {s t : Bytes}

/-- What is made of an info string. -/
def parse (info : Bytes) : Except ProtocolError GetServerInfoResponse := do
  let info ← stripPrefix info
  (MapIter.mk info).tryFold visit default

/-- The decoder behind the header of an info string. -/
def decodeInfo : Read ProtocolError GetServerInfoResponse := do
  let cstr ← Cursor.getCstrFfi.attempt
  let info ← match cstr with
    | .ok s => do
      Cursor.expectEmpty.lift
      pure (Cursor.toBytes s)
    | .error (_ : CursorError) => Cursor.rest
  let info ← Read.ofExcept (stripPrefix info)
  Read.ofExcept ((MapIter.mk info).tryFold visit default)

theorem decode_info (hs : s.head? = some 92) (tail : Bytes) :
    decode (header ++ (s ++ tail)) = (decodeInfo (.after header (s ++ tail))).1 := by
  have hpre : (ascii "\\").isPrefixOf (s ++ tail) = true := by
    cases s with
    | nil => cases hs
    | cons c s =>
      cases hs
      rfl
  unfold decode Read.run
  rw [Cursor.new_eq, Read.bind_ok (Read.lift_ok (Cursor.expect_after [] header _)),
    Read.bind_ok (Cursor.rest_after _ _), hpre, if_neg (by simp)]
  rfl

theorem parse_apply (info : Bytes) (c : Cursor) :
    ((Read.ofExcept (stripPrefix info) >>= fun info =>
      Read.ofExcept ((MapIter.mk info).tryFold visit default)) c).1 = parse info := by
  unfold parse
  rw [Read.bind_apply, Read.ofExcept_apply]
  cases stripPrefix info with
  | error e => rfl
  | ok info => rfl

variable (pre : Bytes)

theorem decodeInfo_without (h0 : (0 : UInt8) ∉ s) :
    (decodeInfo (.after pre s)).1 = parse s := by
  unfold decodeInfo
  rw [Read.bind_ok (Read.attempt_apply (Cursor.getCstrFfi_none pre s h0))]
  dsimp only
  rw [Read.bind_ok (Cursor.rest_after pre s)]
  exact parse_apply s _

theorem decodeInfo_with (h0 : (0 : UInt8) ∉ s) :
    (decodeInfo (.after pre (s ++ [0]))).1 = parse s := by
  unfold decodeInfo
  rw [Read.bind_ok (Read.attempt_apply (Cursor.getCstrFfi_after pre s [] h0))]
  dsimp only
  rw [Read.bind_ok (Read.lift_ok (Cursor.expectEmpty_after _)), Read.bind_ok (Read.pure_apply _ _),
    Cursor.toBytes, List.dropLast_concat]
  exact parse_apply s _

theorem decodeInfo_more (h0 : (0 : UInt8) ∉ s) (ht : t ≠ []) :
    (decodeInfo (.after pre (s ++ 0 :: t))).1 = .error (.cursorError .expectEmpty) := by
  unfold decodeInfo
  rw [Read.bind_ok (Read.attempt_apply (Cursor.getCstrFfi_after pre s t h0))]
  dsimp only
  rw [Read.bind_error (Read.lift_error (Cursor.expectEmpty_more _ t ht))]

end GetServerInfoResponse

/-- With and without the byte at its end an info string and a filter string give the same result,
and no packet goes on behind that byte. -/
theorem terminators_immaterial :
    (∀ s : Bytes, (10 : UInt8) ∉ s → (0 : UInt8) ∉ s →
      ServerAdd.decode (ServerAdd.header ++ (s ++ [10])) = ServerAdd.decode (ServerAdd.header ++ s) ∧
      ∀ t ≠ [], ∃ e, ServerAdd.decode (ServerAdd.header ++ (s ++ 10 :: t)) = .error e) ∧
    (∀ (region : UInt8) (last s : Bytes), (0 : UInt8) ∉ last → (0 : UInt8) ∉ s →
      QueryServers.decode (QueryServers.before region last ++ (s ++ [0])) =
        QueryServers.decode (QueryServers.before region last ++ s) ∧
      ∀ t ≠ [], ∃ e, QueryServers.decode (QueryServers.before region last ++ (s ++ 0 :: t)) =
        .error e) ∧
    ∀ s : Bytes, (0 : UInt8) ∉ s → s.head? = some 92 →
      GetServerInfoResponse.decode (GetServerInfoResponse.header ++ (s ++ [0])) =
        GetServerInfoResponse.decode (GetServerInfoResponse.header ++ s) ∧
      ∀ t ≠ [], ∃ e, GetServerInfoResponse.decode (GetServerInfoResponse.header ++ (s ++ 0 :: t)) =
        .error e := by
  refine ⟨?_, ?_, ?_⟩
  · intro s h10 h0
    refine ⟨?_, fun t ht => ⟨_, ServerAdd.decode_more h10 h0 ht⟩⟩
    rw [ServerAdd.decode_with h10 h0, ServerAdd.decode_without h10 h0]
  · intro b last s hlast h0
    constructor
    · rw [QueryServers.decode_before b hlast, QueryServers.decode_before b hlast]
      refine congrArg _ (funext fun region => ?_)
      rw [QueryServers.decodeFilter_with _ region h0, QueryServers.decodeFilter_without _ region h0]
    · intro t ht
      rw [QueryServers.decode_before b hlast]
      cases (Region.tryFrom b).mapError fun _ => ProtocolError.invalidRegion with
      | error e => exact ⟨e, rfl⟩
      | ok region => exact ⟨_, QueryServers.decodeFilter_more _ region h0 ht⟩
  · intro s h0 hs
    constructor
    · have hnil := GetServerInfoResponse.decode_info hs []
      rw [List.append_nil] at hnil
      rw [GetServerInfoResponse.decode_info hs, hnil, GetServerInfoResponse.decodeInfo_with _ h0,
        GetServerInfoResponse.decodeInfo_without _ h0]
    · intro t ht
      rw [GetServerInfoResponse.decode_info hs]
      exact ⟨_, GetServerInfoResponse.decodeInfo_more _ h0 ht⟩

end Xash3d
