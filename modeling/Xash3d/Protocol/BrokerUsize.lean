import Xash3d.Protocol.Net.Broker

/-!
# Frames of the broker on a machine word

The decoders of the broker with the additions and slices of a build whose `usize` has a given
number of bits. As long as no addition overflows they are the decoders of the model
(`Agrees`). `crash_iff` says which frames crash a build of 32 bits.
-/

namespace Xash3d.Broker

open Lib

/-- A build: the number of bits of `usize`, and whether an addition that overflows panics. -/
structure Build where
  bits : ℕ
  overflowChecks : Bool

/-- A reason to panic. -/
inductive Panic where
  | overflow
  | slice
  deriving DecidableEq

/-- A read of a build: it panics, or it returns a result and the cursor it leaves. -/
def BuildRead (ε α : Type) := Build → Cursor → Except Panic (Except ε α × Cursor)

namespace BuildRead

variable {ε α β : Type}

instance : Monad (BuildRead ε) where
  pure a := fun _ c => .ok (.ok a, c)
  bind m f := fun b c => match m b c with
    | .ok (.ok a, c') => f a b c'
    | .ok (.error e, c') => .ok (.error e, c')
    | .error p => .error p

theorem bind_apply (m : BuildRead ε α) (f : α → BuildRead ε β) (b : Build) (c : Cursor) :
    (m >>= f) b c = match m b c with
      | .ok (.ok a, c') => f a b c'
      | .ok (.error e, c') => .ok (.error e, c')
      | .error p => .error p := rfl

theorem bind_ok {m : BuildRead ε α} {f : α → BuildRead ε β} {b : Build} {c c' : Cursor} {a : α}
    (h : m b c = .ok (.ok a, c')) : (m >>= f) b c = f a b c' := by rw [bind_apply, h]

theorem bind_panic {m : BuildRead ε α} {f : α → BuildRead ε β} {b : Build} {c : Cursor}
    {p : Panic} (h : m b c = .error p) : (m >>= f) b c = .error p := by rw [bind_apply, h]

/-- A read inside a packet decoder. -/
def lift (m : BuildRead CursorError α) : BuildRead ProtocolError α := fun b c =>
  (m b c).map fun x => (x.1.mapError .cursorError, x.2)

/-- The result of a read on a packet. -/
def run (m : BuildRead ε α) (b : Build) (src : Bytes) : Except Panic (Except ε α) :=
  (m b ⟨src, 0⟩).map Prod.fst

/-- A read that cannot panic. -/
def ofRead (m : Read ε α) : BuildRead ε α := fun _ c => .ok (m c)

end BuildRead

/-- An addition of `usize`. -/
def add (b : Build) (x y : ℕ) : Except Panic ℕ :=
  if x + y < 2 ^ b.bits then .ok (x + y)
  else if b.overflowChecks then .error .overflow
  else .ok ((x + y) % 2 ^ b.bits)

/-- The bytes from a position up to another. -/
def slice (s : Bytes) (start stop : ℕ) : Except Panic Bytes :=
  if start ≤ stop ∧ stop ≤ s.length then .ok ((s.take stop).drop start) else .error .slice

/-! ## Reads -/

def getBytes (count : ℕ) : BuildRead CursorError Bytes := fun b c => do
  let e ← add b c.pos count
  if e ≤ c.buffer.length then
    let bytes ← slice c.buffer c.pos e
    return (.ok bytes, { c with pos := e })
  else return (.error (.needMoreBytes (e - c.buffer.length)), c)

theorem add_checked {bits x y : ℕ} (h : 2 ^ bits ≤ x + y) :
    add ⟨bits, true⟩ x y = .error .overflow := by
  unfold add
  rw [if_neg (not_lt.2 h)]
  rfl

theorem add_wraps {bits x y : ℕ} (h : 2 ^ bits ≤ x + y) :
    add ⟨bits, false⟩ x y = .ok ((x + y) % 2 ^ bits) := by
  unfold add
  rw [if_neg (not_lt.2 h)]
  rfl

theorem getBytes_of_overflow {b : Build} {c : Cursor} {count : ℕ} {p : Panic}
    (h : add b c.pos count = .error p) : getBytes count b c = .error p := by
  unfold getBytes
  rw [h]
  rfl

/-- An end that has wrapped around is before the start. -/
theorem getBytes_of_wrap {b : Build} {c : Cursor} {count e : ℕ} (h : add b c.pos count = .ok e)
    (hpos : e < c.pos) (hlen : e ≤ c.buffer.length) : getBytes count b c = .error .slice := by
  have hslice : slice c.buffer c.pos e = .error .slice := if_neg fun hs => by omega
  unfold getBytes
  rw [h]
  simp only [bind, Except.bind]
  rw [if_pos hlen, hslice]

def advance (count : ℕ) : BuildRead CursorError Unit := do
  let _ ← getBytes count
  return ()

def getU16Le : BuildRead CursorError UInt16 := do
  let s ← getBytes 2
  return ofU16Le s

def getU32Le : BuildRead CursorError UInt32 := do
  let s ← getBytes 4
  return ofU32Le s

def getU64Le : BuildRead CursorError UInt64 := do
  let s ← getBytes 8
  return ofU64Le s

def expect (s : Bytes) : BuildRead CursorError Unit := fun b c =>
  if c.remaining < s.length then .ok (.error (.needMoreBytes (s.length - c.remaining)), c)
  else if s.isPrefixOf c.asSlice then advance s.length b c
  else .ok (.error .expect, c)

/-- A number of 32 bits as a `usize`. -/
def tryFromU32 (n : UInt32) : BuildRead CursorError ℕ := fun b c =>
  if n.toNat < 2 ^ b.bits then .ok (.ok n.toNat, c) else .ok (.error .invalidNumber, c)

/-! ## Decoders -/

/-- The length of the frame at the front of a packet. -/
def Frame.decodeLenOn : BuildRead CursorError ℕ := do
  expect header
  let payloadLen ← getU16Le
  let _ ← getBytes payloadLen.toNat
  .ofRead pos

/-- The bytes of the frame at the front of a packet. -/
def Frame.decodeBytesOn (b : Build) (src : Bytes) : Except Panic (Except CursorError Bytes) :=
  if src.length < fixedSize then .ok (.error (.needMoreBytes (fixedSize - src.length)))
  else (decodeLenOn.run b src).map fun r => r.map fun len => src.take len

def ConnectResponse.decodeOn (b : Build) (frame : Frame) :
    Except Panic (Except ProtocolError ConnectResponse) := BuildRead.run (do
  (expect header).lift
  let challenge ← getU32Le.lift
  let clientSteamId ← getU64Le.lift
  let n ← getU32Le.lift
  let len ← (tryFromU32 n).lift
  let ticket ← (getBytes len).lift
  .lift (.ofRead Cursor.expectEmpty)
  return ⟨clientSteamId, ticket, challenge⟩) b frame.payload

def ServerPacket.decodeOn (b : Build) (frame : Frame) :
    Except Panic (Except ProtocolError ServerPacket) :=
  if ConnectResponse.header.isPrefixOf frame.payload then
    (ConnectResponse.decodeOn b frame).map fun r => r.map .connectResponse
  else .ok (.error .invalidPacket)

/-! ## Reads without overflow -/

/-- The read of a build does what the read of the model does. -/
def Agrees {ε α : Type} (b : Build) (m : BuildRead ε α) (m' : Read ε α) (c : Cursor) : Prop :=
  m b c = .ok (m' c)

namespace Agrees

variable {ε α β : Type} {b : Build} {c : Cursor}

theorem pure (a : α) : Agrees b (Pure.pure a : BuildRead ε α) (Pure.pure a) c := rfl

theorem ofRead (m : Read ε α) : Agrees b (.ofRead m) m c := rfl

theorem bind {m : BuildRead ε α} {m' : Read ε α} {f : α → BuildRead ε β} {f' : α → Read ε β}
    (hm : Agrees b m m' c) (hf : ∀ a c', m' c = (.ok a, c') → Agrees b (f a) (f' a) c') :
    Agrees b (m >>= f) (m' >>= f') c := by
  unfold Agrees at hm ⊢
  rw [BuildRead.bind_apply, hm, Read.bind_apply]
  rcases hc : m' c with ⟨r, c'⟩
  cases r with
  | ok a => exact hf a c' hc
  | error e => rfl

/-- A read of the build only, which does not move. -/
theorem skip {γ : Type} {m : BuildRead ε γ} {f : γ → BuildRead ε β} {f' : Read ε β} {x : γ}
    (hm : m b c = .ok (.ok x, c)) (hf : Agrees b (f x) f' c) : Agrees b (m >>= f) f' c := by
  unfold Agrees at hf ⊢
  rw [BuildRead.bind_ok hm, hf]

theorem lift {m : BuildRead CursorError α} {m' : Read CursorError α} (hm : Agrees b m m' c) :
    Agrees b m.lift m'.lift c := by
  unfold Agrees BuildRead.lift at *
  rw [hm]
  rfl

theorem run {m : BuildRead ε α} {m' : Read ε α} {src : Bytes} (hm : Agrees b m m' ⟨src, 0⟩) :
    m.run b src = .ok (m'.run src) := by
  unfold BuildRead.run
  rw [hm]
  rfl

theorem getBytes {count : ℕ} (h : c.pos + count < 2 ^ b.bits) :
    Agrees b (getBytes count) (Cursor.getBytes count) c := by
  unfold Agrees Broker.getBytes Cursor.getBytes add
  rw [if_pos h]
  simp only [Bind.bind, Except.bind]
  by_cases hle : c.pos + count ≤ c.buffer.length
  · have hs : slice c.buffer c.pos (c.pos + count) =
        .ok ((c.buffer.take (c.pos + count)).drop c.pos) := if_pos ⟨by omega, hle⟩
    rw [if_pos hle, if_pos hle, hs]
    rfl
  · rw [if_neg hle, if_neg hle]
    rfl

theorem getU16Le (h : c.pos + 2 < 2 ^ b.bits) : Agrees b getU16Le Cursor.getU16Le c :=
  (getBytes h).bind fun _ _ _ => .pure _

theorem getU32Le (h : c.pos + 4 < 2 ^ b.bits) : Agrees b getU32Le Cursor.getU32Le c :=
  (getBytes h).bind fun _ _ _ => .pure _

theorem getU64Le (h : c.pos + 8 < 2 ^ b.bits) : Agrees b getU64Le Cursor.getU64Le c :=
  (getBytes h).bind fun _ _ _ => .pure _

theorem expect {s : Bytes} (h : c.pos + s.length < 2 ^ b.bits) :
    Agrees b (expect s) (Cursor.expect s) c := by
  have hadv : Agrees b (advance s.length) (Cursor.advance s.length) c :=
    (getBytes h).bind fun _ _ _ => .pure _
  unfold Agrees Broker.expect Cursor.expect
  split_ifs
  · rfl
  · exact hadv
  · rfl

end Agrees

/-! ### What a read has taken -/

section

variable {c' : Cursor} {pre s t : Bytes}

theorem getBytes_taken {n : ℕ} (h : Cursor.getBytes n (.after pre t) = (.ok s, c')) :
    ∃ u, t = s ++ u ∧ s.length = n ∧ c' = .after (pre ++ s) u := by
  by_cases hle : n ≤ t.length
  · have hlen : (t.take n).length = n := by simp [hle]
    have hread := Cursor.getBytes_after pre (t.take n) (t.drop n) hlen
    rw [List.take_append_drop, h] at hread
    cases hread
    exact ⟨t.drop n, (List.take_append_drop n t).symm, hlen, rfl⟩
  · unfold Cursor.getBytes at h
    dsimp only at h
    rw [if_neg (by simp [Cursor.after]; omega)] at h
    cases h

theorem getU16Le_taken {v : UInt16} (h : Cursor.getU16Le (.after pre t) = (.ok v, c')) :
    ∃ u, t = u16Le v ++ u ∧ c' = .after (pre ++ u16Le v) u := by
  obtain ⟨s, c₁, hs, h⟩ := Read.bind_eq_ok h
  obtain ⟨u, rfl, hlen, rfl⟩ := getBytes_taken hs
  cases h
  rw [u16Le_ofU16Le hlen]
  exact ⟨u, rfl, rfl⟩

theorem getU32Le_taken {v : UInt32} (h : Cursor.getU32Le (.after pre t) = (.ok v, c')) :
    ∃ u, t = u32Le v ++ u ∧ c' = .after (pre ++ u32Le v) u := by
  obtain ⟨s, c₁, hs, h⟩ := Read.bind_eq_ok h
  obtain ⟨u, rfl, hlen, rfl⟩ := getBytes_taken hs
  cases h
  rw [u32Le_ofU32Le hlen]
  exact ⟨u, rfl, rfl⟩

theorem getU64Le_taken {v : UInt64} (h : Cursor.getU64Le (.after pre t) = (.ok v, c')) :
    ∃ u, t = u64Le v ++ u ∧ c' = .after (pre ++ u64Le v) u := by
  obtain ⟨s, c₁, hs, h⟩ := Read.bind_eq_ok h
  obtain ⟨u, rfl, hlen, rfl⟩ := getBytes_taken hs
  cases h
  rw [u64Le_ofU64Le hlen]
  exact ⟨u, rfl, rfl⟩

theorem expect_taken (h : Cursor.expect s (.after pre t) = (.ok (), c')) :
    ∃ u, t = s ++ u ∧ c' = .after (pre ++ s) u := by
  by_cases hp : s <+: t
  · obtain ⟨u, rfl⟩ := hp
    rw [Cursor.expect_after] at h
    cases h
    exact ⟨u, rfl, rfl⟩
  · unfold Cursor.expect at h
    rw [Cursor.asSlice_after, if_neg (mt List.isPrefixOf_iff_prefix.1 hp)] at h
    split at h <;> cases h

end

/-- No addition of `Frame::decode` overflows. -/
theorem Frame.decodeBytesOn_eq {b : Build} (hb : 17 ≤ b.bits) (src : Bytes) :
    decodeBytesOn b src = .ok (decodeBytes src) := by
  have hpow : 2 ^ 17 ≤ 2 ^ b.bits := Nat.pow_le_pow_right (by omega) hb
  have hlen : Agrees b decodeLenOn decodeLen (.after [] src) := by
    apply Agrees.bind
    · apply Agrees.expect
      simp [Cursor.after]
      omega
    intro _ c₁ h₁
    obtain ⟨u, -, rfl⟩ := expect_taken h₁
    apply Agrees.bind
    · apply Agrees.getU16Le
      simp [Cursor.after]
      omega
    intro v c₂ h₂
    obtain ⟨w, -, rfl⟩ := getU16Le_taken h₂
    apply Agrees.bind
    · apply Agrees.getBytes
      have hv := v.toNat_lt
      simp [Cursor.after]
      omega
    intro _ _ _
    exact .ofRead _
  have hrun : decodeLenOn.run b src = .ok (decodeLen.run src) := hlen.run
  unfold decodeBytesOn decodeBytes
  rw [hrun]
  split_ifs
  · rfl
  · rfl

/-! ## Tickets -/

namespace ConnectResponse

@[simp] theorem length_header : header.length = 11 := by decide

/-- The fields of a response before its ticket, the last of which is the length of the ticket. -/
def fields (challenge : UInt32) (clientSteamId : UInt64) (len : UInt32) : Bytes :=
  header ++ u32Le challenge ++ u64Le clientSteamId ++ u32Le len

@[simp] theorem length_fields (challenge : UInt32) (clientSteamId : UInt64) (len : UInt32) :
    (fields challenge clientSteamId len).length = 27 := by simp [fields]

/-- A response whose ticket would end behind the last address of 32 bits. -/
def HugeTicket (payload : Bytes) : Prop :=
  ∃ challenge clientSteamId len t, payload = fields challenge clientSteamId len ++ t ∧
    2 ^ 32 ≤ 27 + len.toNat

variable {b : Build} {f : Frame}

/-- Without an overflow a build decodes what the model decodes. -/
theorem decodeOn_eq (hb : 32 ≤ b.bits)
    (h : ∀ challenge clientSteamId len t, f.payload = fields challenge clientSteamId len ++ t →
      27 + len.toNat < 2 ^ b.bits) : decodeOn b f = .ok (decode f) := by
  have hpow : 2 ^ 32 ≤ 2 ^ b.bits := Nat.pow_le_pow_right (by omega) hb
  unfold decodeOn decode
  apply Agrees.run
  show Agrees b _ _ (.after [] f.payload)
  apply Agrees.bind
  · apply Agrees.lift
    apply Agrees.expect
    simp [Cursor.after]
    omega
  intro _ c₁ h₁
  obtain ⟨t₁, hp, rfl⟩ := expect_taken (Read.lift_eq_ok h₁)
  apply Agrees.bind
  · apply Agrees.lift
    apply Agrees.getU32Le
    simp [Cursor.after]
    omega
  intro challenge c₂ h₂
  obtain ⟨t₂, rfl, rfl⟩ := getU32Le_taken (Read.lift_eq_ok h₂)
  apply Agrees.bind
  · apply Agrees.lift
    apply Agrees.getU64Le
    simp [Cursor.after]
    omega
  intro clientSteamId c₃ h₃
  obtain ⟨t₃, rfl, rfl⟩ := getU64Le_taken (Read.lift_eq_ok h₃)
  apply Agrees.bind
  · apply Agrees.lift
    apply Agrees.getU32Le
    simp [Cursor.after]
    omega
  intro n c₄ h₄
  obtain ⟨t₄, rfl, rfl⟩ := getU32Le_taken (Read.lift_eq_ok h₄)
  have hn : 27 + n.toNat < 2 ^ b.bits := by
    apply h challenge clientSteamId n t₄
    rw [hp]
    simp [fields]
  have htry : (tryFromU32 n).lift b
      (.after ([] ++ header ++ u32Le challenge ++ u64Le clientSteamId ++ u32Le n) t₄) =
      .ok (.ok n.toNat,
        .after ([] ++ header ++ u32Le challenge ++ u64Le clientSteamId ++ u32Le n) t₄) := by
    unfold BuildRead.lift tryFromU32
    rw [if_pos (by omega)]
    rfl
  apply Agrees.skip htry
  apply Agrees.bind
  · apply Agrees.lift
    apply Agrees.getBytes
    simp [Cursor.after]
    omega
  intro ticket c₅ _
  apply Agrees.bind
  · apply Agrees.lift
    exact .ofRead _
  intro _ c₆ _
  exact .pure _

/-- A ticket that ends behind the last address panics, with and without overflow checks. -/
theorem getBytes_huge {checks : Bool} {pre t : Bytes} {len : UInt32} (hpre : pre.length = 27)
    (h : 2 ^ 32 ≤ 27 + len.toNat) :
    ∃ p, getBytes len.toNat ⟨32, checks⟩ (.after pre t) = .error p := by
  have hlen := len.toNat_lt
  have hpos : (Cursor.after pre t).pos = 27 := hpre
  have hbuf : (Cursor.after pre t).buffer.length = 27 + t.length := by
    rw [← hpre]
    exact List.length_append
  have hmod : (27 + len.toNat) % 2 ^ 32 = 27 + len.toNat - 2 ^ 32 := by
    rw [Nat.mod_eq_sub_mod h, Nat.mod_eq_of_lt (by omega)]
  cases checks with
  | true =>
    refine ⟨.overflow, getBytes_of_overflow ?_⟩
    rw [hpos]
    exact add_checked h
  | false =>
    refine ⟨.slice, getBytes_of_wrap (e := 27 + len.toNat - 2 ^ 32) ?_ ?_ ?_⟩
    · rw [hpos, ← hmod]
      exact add_wraps h
    · omega
    · omega

theorem bind_of_agrees {ε α β : Type} {b : Build} {c c' : Cursor} {m : BuildRead ε α}
    {m' : Read ε α} {f : α → BuildRead ε β} {x : α} (hm : Agrees b m m' c)
    (h : m' c = (.ok x, c')) : (m >>= f) b c = f x b c' := by
  apply BuildRead.bind_ok
  rw [← h]
  exact hm

theorem decodeOn_huge {checks : Bool} (h : HugeTicket f.payload) :
    ∃ p, decodeOn ⟨32, checks⟩ f = .error p := by
  obtain ⟨challenge, clientSteamId, len, t, hp, hlen⟩ := h
  have hpay : f.payload =
      header ++ (u32Le challenge ++ (u64Le clientSteamId ++ (u32Le len ++ t))) := by
    rw [hp]
    simp [fields]
  have htry : (tryFromU32 len).lift ⟨32, checks⟩
      (.after ([] ++ header ++ u32Le challenge ++ u64Le clientSteamId ++ u32Le len) t) =
      .ok (.ok len.toNat,
        .after ([] ++ header ++ u32Le challenge ++ u64Le clientSteamId ++ u32Le len) t) := by
    unfold BuildRead.lift tryFromU32
    rw [if_pos len.toNat_lt]
    rfl
  have hread : ∃ p, getBytes len.toNat ⟨32, checks⟩
      (.after ([] ++ header ++ u32Le challenge ++ u64Le clientSteamId ++ u32Le len) t) =
      .error p := getBytes_huge (by simp) hlen
  obtain ⟨p, hpanic⟩ := hread
  have hlift : (getBytes len.toNat).lift ⟨32, checks⟩
      (.after ([] ++ header ++ u32Le challenge ++ u64Le clientSteamId ++ u32Le len) t) =
      .error p := by
    unfold BuildRead.lift
    rw [hpanic]
    rfl
  refine ⟨p, ?_⟩
  unfold decodeOn BuildRead.run
  rw [hpay, Cursor.new_eq,
    bind_of_agrees (.lift (.expect (by simp [Cursor.after])))
      (Read.lift_ok (Cursor.expect_after _ _ _)),
    bind_of_agrees (.lift (.getU32Le (by simp [Cursor.after])))
      (Read.lift_ok (Cursor.getU32Le_after _ _ _)),
    bind_of_agrees (.lift (.getU64Le (by simp [Cursor.after])))
      (Read.lift_ok (Cursor.getU64Le_after _ _ _)),
    bind_of_agrees (.lift (.getU32Le (by simp [Cursor.after])))
      (Read.lift_ok (Cursor.getU32Le_after _ _ _)),
    BuildRead.bind_ok htry, BuildRead.bind_panic hlift]
  rfl

end ConnectResponse

theorem ServerPacket.decodeOn_eq {b : Build} {f : Frame}
    (h : ConnectResponse.decodeOn b f = .ok (ConnectResponse.decode f)) :
    decodeOn b f = .ok (decode f) := by
  unfold decodeOn decode
  split_ifs
  · rw [h]
    rfl
  · rfl

/-- A ticket longer than the rest of the frame is not complete. -/
theorem ConnectResponse.decode_short {challenge : UInt32} {clientSteamId : UInt64} {len : UInt32}
    {t : Bytes} {f : Frame} (hf : f.payload = fields challenge clientSteamId len ++ t)
    (hlen : t.length < len.toNat) :
    ServerPacket.decode f =
      .error (.cursorError (.needMoreBytes (len.toNat - t.length))) := by
  have hpay : f.payload =
      header ++ (u32Le challenge ++ (u64Le clientSteamId ++ (u32Le len ++ t))) := by
    rw [hf]
    simp [fields]
  have hp : header.isPrefixOf f.payload = true := by
    rw [hpay]
    simp
  have hbytes : Cursor.getBytes len.toNat
      (.after ([] ++ header ++ u32Le challenge ++ u64Le clientSteamId ++ u32Le len) t) =
      (.error (.needMoreBytes (len.toNat - t.length)),
        .after ([] ++ header ++ u32Le challenge ++ u64Le clientSteamId ++ u32Le len) t) := by
    unfold Cursor.getBytes
    rw [if_neg (by simp [Cursor.after]; omega)]
    simp only [Cursor.after, List.length_append]
    congr 3
    omega
  have hticket : (Cursor.getBytes len.toNat).lift
      (.after ([] ++ header ++ u32Le challenge ++ u64Le clientSteamId ++ u32Le len) t) =
      (.error (.cursorError (.needMoreBytes (len.toNat - t.length))),
        .after ([] ++ header ++ u32Le challenge ++ u64Le clientSteamId ++ u32Le len) t) := by
    unfold Read.lift Read.mapError
    rw [hbytes]
    rfl
  have hdec : decode f = .error (.cursorError (.needMoreBytes (len.toNat - t.length))) := by
    unfold decode Read.run
    rw [hpay, Cursor.new_eq, Read.bind_ok (Read.lift_ok (Cursor.expect_after _ _ _)),
      Read.bind_ok (Read.lift_ok (Cursor.getU32Le_after _ _ _)),
      Read.bind_ok (Read.lift_ok (Cursor.getU64Le_after _ _ _)),
      Read.bind_ok (Read.lift_ok (Cursor.getU32Le_after _ _ _)),
      Read.bind_error hticket]
  unfold ServerPacket.decode
  rw [if_pos hp, hdec]
  rfl

/-- What a build of 32 bits should do with the frames of a broker: no panic, and a ticket that is
longer than the rest of the frame is found incomplete. -/
def Survives (checks : Bool) (f : Frame) : Prop :=
  (∃ r, ServerPacket.decodeOn ⟨32, checks⟩ f = .ok r) ∧
  ∀ challenge clientSteamId len t,
    f.payload = ConnectResponse.fields challenge clientSteamId len ++ t → t.length < len.toNat →
      ServerPacket.decodeOn ⟨32, checks⟩ f =
        .ok (.error (.cursorError (.needMoreBytes (len.toNat - t.length))))

theorem not_survives_of_huge {checks : Bool} {f : Frame}
    (h : ConnectResponse.HugeTicket f.payload) : ¬ Survives checks f := by
  rintro ⟨⟨r, hr⟩, -⟩
  have hdec : ∃ p, ConnectResponse.decodeOn ⟨32, checks⟩ f = .error p :=
    ConnectResponse.decodeOn_huge h
  obtain ⟨p, hp⟩ := hdec
  obtain ⟨challenge, clientSteamId, len, t, hpay, -⟩ := h
  have hprefix : ConnectResponse.header.isPrefixOf f.payload = true := by
    rw [hpay]
    simp [ConnectResponse.fields]
  unfold ServerPacket.decodeOn at hr
  rw [if_pos hprefix, hp] at hr
  cases hr

/-- A build of 32 bits, with or without overflow checks, takes a frame off any bytes without a
panic, and decodes it as it should exactly when it is no response whose ticket would end behind the
last address. -/
theorem crash_iff (checks : Bool) (src : Bytes) :
    (∃ r, Frame.decodeBytesOn ⟨32, checks⟩ src = .ok r) ∧
    ∀ f : Frame, Frame.decodeBytesOn ⟨32, checks⟩ src = .ok (.ok f.data) →
      (Survives checks f ↔ ¬ ConnectResponse.HugeTicket f.payload) := by
  refine ⟨⟨_, Frame.decodeBytesOn_eq (b := ⟨32, checks⟩) (show 17 ≤ 32 by decide) src⟩, ?_⟩
  intro f _
  constructor
  · intro h hhuge
    exact not_survives_of_huge hhuge h
  · intro hhuge
    have heq : ServerPacket.decodeOn ⟨32, checks⟩ f = .ok (ServerPacket.decode f) := by
      apply ServerPacket.decodeOn_eq
      apply ConnectResponse.decodeOn_eq le_rfl
      intro challenge clientSteamId len t hpay
      by_contra hlen
      exact hhuge ⟨challenge, clientSteamId, len, t, hpay, not_lt.1 hlen⟩
    refine ⟨⟨_, heq⟩, ?_⟩
    intro challenge clientSteamId len t hpay hlen
    rw [heq, ConnectResponse.decode_short hpay hlen]

/-- The length of the ticket is found again. -/
theorem ConnectResponse.len_eq (challenge : UInt32) (clientSteamId : UInt64) (len : UInt32)
    (t : Bytes) : ofU32Le (((fields challenge clientSteamId len ++ t).drop 23).take 4) = len := by
  have hhead : (header ++ u32Le challenge ++ u64Le clientSteamId).length = 23 := by simp
  have hlen : (u32Le len).length = 4 := length_u32Le len
  rw [fields, List.append_assoc, ← hhead, List.drop_left, ← hlen, List.take_left, ofU32Le_u32Le]

/-- The response of the test. -/
theorem crash_iff_ticket : Survives false (.ofPayload
    (ConnectResponse.fields 0xdeadbeef 12345 17 ++ ascii "foobar_ticket_123")
    (by decide +kernel)) := by
  refine ((crash_iff false (Frame.wire
    (ConnectResponse.fields 0xdeadbeef 12345 17 ++ ascii "foobar_ticket_123"))).2 _
    (by decide +kernel)).2 ?_
  rintro ⟨challenge, clientSteamId, len, t, hpay, hlen⟩
  rw [Frame.payload_ofPayload] at hpay
  have h17 := ConnectResponse.len_eq challenge clientSteamId len t
  rw [← hpay, ConnectResponse.len_eq] at h17
  subst h17
  revert hlen
  decide

/-- The longest ticket length panics a build without overflow checks. -/
theorem long_ticket_panics : ¬ ∀ (checks : Bool) (src : Bytes) (f : Frame),
    Frame.decodeBytesOn ⟨32, checks⟩ src = .ok (.ok f.data) → Survives checks f := by
  intro h
  have hlen : (ConnectResponse.fields 0 0 0xffffffff).length < 2 ^ 16 := by
    rw [ConnectResponse.length_fields]
    decide
  have hframe : Frame.decodeBytesOn ⟨32, false⟩ (Frame.wire (ConnectResponse.fields 0 0 0xffffffff)) =
      .ok (.ok (Frame.wire (ConnectResponse.fields 0 0 0xffffffff))) := by decide +kernel
  refine not_survives_of_huge ?_ (h false _ (.ofPayload _ hlen) hframe)
  rw [Frame.payload_ofPayload]
  exact ⟨0, 0, 0xffffffff, [], (List.append_nil _).symm, by decide⟩

end Xash3d.Broker
