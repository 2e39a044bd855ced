import Xash3d.Protocol.Net.Broker

/-!
# Messages of the broker there and back

A command is read argument by argument (`Args.next_args`), so a message with arguments that are
neither empty nor broken by a space is decoded to itself.

* `gamedir_roundtrip_iff`: a game directory is printed with escapes and read back without them.
* `messages_roundtrip`: the other messages.
-/

namespace Xash3d.Broker

open Lib

/-! ## Arguments -/

namespace Args

/-- An argument: not empty, and without spaces. -/
def IsArg (s : Bytes) : Prop := s ≠ [] ∧ (32 : UInt8) ∉ s

instance : DecidablePred IsArg := fun _ => inferInstanceAs (Decidable (_ ∧ _))

/-- Arguments, each after a space. -/
def join (args : List Bytes) : Bytes := args.flatMap fun s => 32 :: s

@[simp] theorem join_nil : join [] = [] := rfl

@[simp] theorem join_cons (s : Bytes) (args : List Bytes) :
    join (s :: args) = 32 :: s ++ join args := List.flatMap_cons

/-- What follows an argument is nothing or a space. -/
theorem join_cases (args : List Bytes) : join args = [] ∨ ∃ t, join args = 32 :: t := by
  cases args with
  | nil => exact Or.inl rfl
  | cons s args => exact Or.inr ⟨s ++ join args, rfl⟩

variable {pre s sp : Bytes} {args : List Bytes}

/-- An argument is read, with the spaces before it. -/
theorem tryNext_arg (hsp : ∀ b ∈ sp, b = 32) (hs : IsArg s) {t : Bytes}
    (ht : t = [] ∨ ∃ u, t = 32 :: u) :
    tryNext (.after pre (sp ++ (s ++ t))) = (.ok (some s), .after (pre ++ sp ++ s) t) := by
  obtain ⟨hne, h32⟩ := hs
  obtain ⟨x, s', rfl⟩ := List.exists_cons_of_ne_nil hne
  have hx : (x == 32) = false := by
    rw [beq_eq_false_iff_ne]
    rintro rfl
    exact h32 (by simp)
  have hbytes : ∀ b ∈ x :: s', (b != 32) = true := by
    intro b hb
    rw [bne_iff_ne]
    rintro rfl
    exact h32 hb
  have hskip : Cursor.takeWhile (fun b => b == 32) (.after pre (sp ++ (x :: s' ++ t))) =
      (.ok sp, .after (pre ++ sp) (x :: s' ++ t)) := by
    apply Cursor.takeWhile_after
    · intro b hb
      rw [hsp b hb]
      rfl
    · exact hx
  unfold tryNext
  rw [hskip]
  dsimp only
  rw [if_pos (by simp)]
  rcases ht with rfl | ⟨u, rfl⟩
  · rw [List.append_nil, Cursor.takeWhile_none (pre ++ sp) (x :: s') hbytes]
    dsimp only
    show (Cursor.getTail >>= fun a => pure (some a)) _ = _
    rw [Read.bind_ok (Cursor.getTail_after _ _)]
    rfl
  · rw [Cursor.takeWhile_after (pre ++ sp) (x :: s') u hbytes rfl]

theorem tryNext_after (hsp : ∀ b ∈ sp, b = 32) (hs : IsArg s) (args : List Bytes) :
    tryNext (.after pre (sp ++ (s ++ join args))) =
      (.ok (some s), .after (pre ++ sp ++ s) (join args)) := tryNext_arg hsp hs (join_cases args)

/-- The name of a command. -/
theorem next_name (hs : IsArg s) (args : List Bytes) :
    next (.after pre (s ++ join args)) = (.ok s, .after (pre ++ s) (join args)) := by
  have h : tryNext (.after pre ([] ++ (s ++ join args))) =
      (.ok (some s), .after (pre ++ [] ++ s) (join args)) := tryNext_after (by simp) hs args
  rw [List.nil_append, List.append_nil] at h
  unfold next
  rw [Read.bind_ok h]
  rfl

/-- The next argument of a command. -/
theorem next_args (hs : IsArg s) (args : List Bytes) :
    next (.after pre (join (s :: args))) = (.ok s, .after (pre ++ 32 :: s) (join args)) := by
  have h : tryNext (.after pre ([32] ++ (s ++ join args))) =
      (.ok (some s), .after (pre ++ [32] ++ s) (join args)) := tryNext_after (by simp) hs args
  have hjoin : [32] ++ (s ++ join args) = join (s :: args) := by simp
  rw [List.append_assoc, hjoin] at h
  unfold next
  rw [Read.bind_ok h]
  rfl

/-- The next argument of a command, parsed. -/
theorem parseNext_args {T : Type} {parse : Bytes → Option T} {v : T} (hs : IsArg s)
    (hu : isUtf8 s = true) (hv : parse s = some v) (args : List Bytes) :
    parseNext parse (.after pre (join (s :: args))) =
      (.ok v, .after (pre ++ 32 :: s) (join args)) := by
  unfold parseNext
  rw [Read.bind_ok (next_args hs args), if_pos hu, hv]
  rfl

/-- The bytes up to the first one that fails the condition are taken. -/
theorem takeWhile_found {cond : UInt8 → Bool} {c : Cursor} {i : ℕ}
    (h : c.asSlice.findIdx? (fun b => !cond b) = some i) :
    c.pos + i < c.buffer.length ∧ Cursor.takeWhile cond c =
      (.ok ((c.buffer.take (c.pos + i)).drop c.pos), { c with pos := c.pos + i }) := by
  have hlt := lt_length_of_findIdx? h
  rw [Cursor.asSlice, List.length_drop] at hlt
  refine ⟨by omega, ?_⟩
  unfold Cursor.takeWhile Cursor.getBytes
  rw [h]
  exact if_pos (by omega)

/-- What is taken meets the condition, and what follows it does not. -/
theorem takeWhile_ok {cond : UInt8 → Bool} {c c' : Cursor} {s : Bytes}
    (h : Cursor.takeWhile cond c = (.ok s, c')) :
    (∀ b ∈ s, cond b = true) ∧ c'.hasRemaining = true := by
  cases hidx : c.asSlice.findIdx? (fun b => !cond b) with
  | none =>
    unfold Cursor.takeWhile at h
    rw [hidx] at h
    cases h
  | some i =>
    obtain ⟨hlt, hfound⟩ := takeWhile_found hidx
    cases hfound.symm.trans h
    constructor
    · intro b hb
      simpa using Cursor.not_of_mem_slice hidx b hb
    · unfold Cursor.hasRemaining
      simp only [decide_eq_true_eq]
      omega

theorem takeWhile_error {cond : UInt8 → Bool} {c c' : Cursor} {e : CursorError}
    (h : Cursor.takeWhile cond c = (.error e, c')) : c' = c ∧ ∀ b ∈ c.asSlice, cond b = true := by
  cases hidx : c.asSlice.findIdx? (fun b => !cond b) with
  | none =>
    unfold Cursor.takeWhile at h
    rw [hidx] at h
    cases h
    refine ⟨rfl, ?_⟩
    intro b hb
    simpa using List.findIdx?_eq_none_iff.1 hidx b hb
  | some i => cases (takeWhile_found hidx).2.symm.trans h

/-- The last argument of a command is an argument; there are no spaces after it. -/
theorem isArg_of_next {c c' : Cursor} {s : Bytes} (h : next c = (.ok s, c'))
    (hend : c'.hasRemaining = false) : IsArg s := by
  unfold next at h
  obtain ⟨o, c₁, ho, h⟩ := Read.bind_eq_ok h
  cases o with
  | none => cases h
  | some s' =>
    cases h
    unfold tryNext at ho
    dsimp only at ho
    by_cases hrem : ((Cursor.takeWhile (fun b => b == 32) c).2).hasRemaining = true
    · rw [if_pos hrem] at ho
      cases htake : Cursor.takeWhile (fun b => b != 32)
          (Cursor.takeWhile (fun b => b == 32) c).2 with
      | mk r c₂ =>
        rw [htake] at ho
        cases r with
        | ok i =>
          cases ho
          rw [(takeWhile_ok htake).2] at hend
          cases hend
        | error e =>
          obtain ⟨rfl, hall⟩ := takeWhile_error htake
          dsimp only at ho
          obtain ⟨t, c₃, ht, ho⟩ := Read.bind_eq_ok (m := Cursor.getTail) (f := fun a => pure (some a)) ho
          cases ho
          unfold Cursor.hasRemaining at hrem
          rw [decide_eq_true_eq] at hrem
          unfold Cursor.getTail at ht
          rw [if_pos hrem] at ht
          cases ht
          constructor
          · intro h0
            have hlen := congrArg List.length h0
            rw [List.length_drop, List.length_nil] at hlen
            omega
          · intro h32
            have := hall 32 h32
            simp at this
    · rw [if_neg hrem] at ho
      cases ho

end Args

open Args

/-- The command of a frame is read if it is the expected one. -/
theorem Frame.expectCommand_name {name : Bytes} (hs : IsArg name) (args : List Bytes) :
    Frame.expectCommand name (.after [] (name ++ join args)) =
      (.ok (), .after name (join args)) := by
  unfold Frame.expectCommand
  rw [Read.bind_ok (next_name hs args), if_pos rfl]
  rfl

/-! ## Game directories -/

namespace Gamedir

theorem isArg_header : IsArg header := by decide

/-- The payload of a message. -/
def text (m : Gamedir) : Bytes := header ++ join [m.gamedir.flatMap escaped]

theorem encode_eq_ok {cap : ℕ} {m : Gamedir} {f : Frame} :
    m.encode cap = .ok f ↔ 6 + m.text.length ≤ cap ∧ m.text = f.payload := by
  have hflat : ([header, ascii " "] ++ strFormatBytes m.gamedir).flatten = m.text := by
    rw [List.flatten_append, strFormatBytes_flatten]
    simp [text, ascii]
  unfold encode
  rw [Frame.encodeFmt_eq_ok, hflat]

theorem decode_text {f : Frame} {s : Bytes} (hs : IsArg s) (hf : f.payload = header ++ join [s]) :
    decode f = .ok ⟨s⟩ := by
  unfold decode Read.run
  rw [hf, Cursor.new_eq, Read.bind_ok (Read.lift_ok (Frame.expectCommand_name isArg_header [s])),
    Read.bind_ok (Read.lift_ok (next_args hs []))]
  rw [join_nil, Read.bind_ok (Read.lift_ok (Cursor.expectEmpty_after _))]
  rfl

/-- The escapes of an argument are an argument. -/
theorem isArg_escaped {s : Bytes} (hs : IsArg s) : IsArg (s.flatMap escaped) := by
  have hall : ∀ c : UInt8, c ≠ 32 → (32 : UInt8) ∉ escaped c := by decide +kernel
  obtain ⟨hne, h32⟩ := hs
  constructor
  · intro h0
    have hlen := length_le_flatMap_escaped s
    rw [h0, List.length_nil] at hlen
    exact hne (List.eq_nil_of_length_eq_zero (by omega))
  · rw [List.mem_flatMap]
    rintro ⟨c, hc, hmem⟩
    apply hall c _ hmem
    rintro rfl
    exact h32 hc

/-- A decoded directory is an argument. -/
theorem isArg_of_decode {f : Frame} {m : Gamedir} (h : decode f = .ok m) : IsArg m.gamedir := by
  obtain ⟨u, c₁, -, h⟩ := Read.bind_eq_ok (Prod.ext h rfl)
  obtain ⟨s, c₂, hs, h⟩ := Read.bind_eq_ok h
  obtain ⟨v, c₃, hend, h⟩ := Read.bind_eq_ok h
  cases h
  apply isArg_of_next (Read.lift_eq_ok hs)
  have hempty := Read.lift_eq_ok hend
  unfold Cursor.expectEmpty at hempty
  by_cases hrem : c₂.hasRemaining = true
  · rw [if_pos hrem] at hempty
    cases hempty
  · exact eq_false_of_ne_true hrem

theorem dispatch_text (m : Gamedir) : ClientPacket.dispatch m.text = some .gamedir := by
  have hp : header.isPrefixOf m.text = true := by simp [text]
  unfold ClientPacket.dispatch
  rw [if_pos hp]

/-- The escaped directory is what the other side gets. -/
theorem decode_of_encode (parseAddr : Bytes → Option SocketAddr) {cap : ℕ} {m : Gamedir} {f : Frame}
    (hm : IsArg m.gamedir) (h : m.encode cap = .ok f) :
    ClientPacket.decode parseAddr f = .ok (.gamedir ⟨m.gamedir.flatMap escaped⟩) := by
  obtain ⟨-, hf⟩ := encode_eq_ok.1 h
  unfold ClientPacket.decode
  rw [← hf, m.dispatch_text]
  dsimp only
  rw [decode_text (isArg_escaped hm) hf.symm]
  rfl

end Gamedir

/-- A game directory, one that is not empty and has no space or one that was decoded, is decoded to
itself exactly when it is printable or too long to be encoded at all. -/
theorem gamedir_roundtrip_iff (parseAddr : Bytes → Option SocketAddr) (m : Gamedir)
    (hm : IsArg m.gamedir ∨ ∃ f, ClientPacket.decode parseAddr f = .ok (.gamedir m)) :
    (∀ cap f, m.encode cap = .ok f → ClientPacket.decode parseAddr f = .ok (.gamedir m)) ↔
      (∀ c ∈ m.gamedir, isPrintable c = true) ∨ 2 ^ 16 ≤ m.text.length := by
  have harg : IsArg m.gamedir := by
    rcases hm with hm | ⟨f, hf⟩
    · exact hm
    · unfold ClientPacket.decode at hf
      split at hf
      · rename_i hkind
        cases hd : Gamedir.decode f with
        | error e =>
          rw [hd] at hf
          cases hf
        | ok m' =>
          rw [hd] at hf
          cases hf
          exact Gamedir.isArg_of_decode hd
      · cases hd : Connect.decode parseAddr f <;> rw [hd] at hf <;> cases hf
      · cases hd : Disconnect.decode parseAddr f <;> rw [hd] at hf <;> cases hf
      · cases hd : Terminate.decode f <;> rw [hd] at hf <;> cases hf
      · cases hf
  constructor
  · intro h
    by_cases hlen : 2 ^ 16 ≤ m.text.length
    · exact Or.inr hlen
    · left
      have henc : m.encode (6 + m.text.length) = .ok (.ofPayload m.text (not_le.1 hlen)) :=
        Gamedir.encode_eq_ok.2 ⟨le_rfl, (Frame.payload_ofPayload _).symm⟩
      have hdec := (Gamedir.decode_of_encode parseAddr harg henc).symm.trans (h _ _ henc)
      injection hdec with hdec
      injection hdec with hdec
      exact printable_of_flatMap_escaped (congrArg Gamedir.gamedir hdec)
  · rintro hcond cap f henc
    have hdec := Gamedir.decode_of_encode parseAddr harg henc
    obtain ⟨-, hf⟩ := Gamedir.encode_eq_ok.1 henc
    rcases hcond with hprint | hlen
    · have hsame : m.gamedir.flatMap escaped = m.gamedir := by
        rw [← strFormatBytes_flatten, strFormatBytes_printable hprint]
      rw [hsame] at hdec
      exact hdec
    · have hlt := f.length_payload_lt
      rw [← hf] at hlt
      omega

/-- The directory of the test. -/
theorem gamedir_roundtrip_iff_valve :
    ∃ f, (⟨ascii "valve"⟩ : Gamedir).encode 128 = .ok f ∧
      ClientPacket.decode (fun _ => none) f = .ok (.gamedir ⟨ascii "valve"⟩) := by
  have henc : (⟨ascii "valve"⟩ : Gamedir).encode 128 =
      .ok (.ofPayload (ascii "sb_gamedir valve") (by decide +kernel)) :=
    Gamedir.encode_eq_ok.2 ⟨by decide +kernel, by decide +kernel⟩
  refine ⟨_, henc, ?_⟩
  apply (gamedir_roundtrip_iff (fun _ => none) ⟨ascii "valve"⟩ (.inl (by decide))).2 _ 128 _ henc
  exact .inl (by decide +kernel)

/-- A directory that is not ASCII comes back as its escape. -/
theorem gamedir_escaped : ¬ ∀ (m : Gamedir), IsArg m.gamedir → ∀ cap f, m.encode cap = .ok f →
    ClientPacket.decode (fun _ => none) f = .ok (.gamedir m) := by
  intro h
  have henc : (⟨[0xff]⟩ : Gamedir).encode 64 =
      .ok (.ofPayload (ascii "sb_gamedir \\xff") (by decide +kernel)) :=
    Gamedir.encode_eq_ok.2 ⟨by decide +kernel, by decide +kernel⟩
  have hdec := (Gamedir.decode_of_encode (fun _ => none) (by decide) henc).symm.trans
    (h ⟨[0xff]⟩ (by decide) 64 _ henc)
  injection hdec with hdec
  injection hdec with hdec
  exact absurd (congrArg Gamedir.gamedir hdec) (by decide +kernel)


/-! ## The other messages -/

theorem isArg_numeral (n : ℕ) : IsArg (numeral 10 n) :=
  ⟨numeral_ne_nil 10 n, not_mem_numeral (by decide)⟩

theorem isUtf8_numeral (n : ℕ) : isUtf8 (numeral 10 n) = true :=
  isUtf8_of_ascii fun _ hc => (isDigit_of_mem_numeral (by omega) (by omega) hc).lt

theorem parseU64_numeral (n : UInt64) : parseU64 (numeral 10 n.toNat) = some n := by
  have hn : n.toNat ≤ 2 ^ 64 - 1 := by
    have := n.toNat_lt
    omega
  unfold parseU64
  rw [parseUnsigned_numeral (.inl rfl) hn, Option.map_some, UInt64.ofNat_toNat]

theorem parseU32_numeral (n : UInt32) : parseU32 (numeral 10 n.toNat) = some n := by
  have hn : n.toNat ≤ 2 ^ 32 - 1 := by
    have := n.toNat_lt
    omega
  unfold parseU32
  rw [parseUnsigned_numeral (.inl rfl) hn, Option.map_some, UInt32.ofNat_toNat]

/-- A printed address is one argument. -/
theorem isArg_display (a : SocketAddr) : IsArg a.display := by
  constructor
  · have hne := numeral_ne_nil 10
    cases a with
    | v4 a => simp [SocketAddr.display, SocketAddrV4.display, hne]
    | v6 a => simp [SocketAddr.display, SocketAddrV6.display, hne]
  · intro h
    exact absurd (SocketAddr.isAddrByte h) (by decide)

theorem isUtf8_display (a : SocketAddr) : isUtf8 a.display = true := by
  apply isUtf8_of_ascii
  intro c hc
  rcases SocketAddr.isAddrByte hc with h | rfl | rfl | rfl | rfl | rfl
  · exact h.lt
  all_goals decide

namespace Connect

theorem isArg_header : IsArg header := by decide

/-- The payload of a message. -/
def text (m : Connect) : Bytes :=
  header ++ join [m.serverAddress.display, numeral 10 m.serverSteamId.toNat,
    numeral 10 m.secure.toNat, numeral 10 m.challenge.toNat]

theorem encode_eq_ok {cap : ℕ} {m : Connect} {f : Frame} :
    m.encode cap = .ok f ↔ 6 + m.text.length ≤ cap ∧ m.text = f.payload := by
  unfold encode
  rw [Frame.encodeFmt_eq_ok]
  simp [text, ascii]

theorem decode_text {parseAddr : Bytes → Option SocketAddr} {m : Connect} {f : Frame}
    (hp : parseAddr m.serverAddress.display = some m.serverAddress) (hf : m.text = f.payload) :
    decode parseAddr f = .ok m := by
  unfold decode Read.run
  rw [← hf, text, Cursor.new_eq,
    Read.bind_ok (Read.lift_ok (Frame.expectCommand_name isArg_header _)),
    Read.bind_ok (Read.lift_ok (parseNext_args (isArg_display _) (isUtf8_display _) hp _)),
    Read.bind_ok (Read.lift_ok (parseNext_args (isArg_numeral _) (isUtf8_numeral _)
      (parseU64_numeral _) _)),
    Read.bind_ok (Read.lift_ok (next_args (isArg_numeral _) _))]
  have hsecure : (if numeral 10 m.secure.toNat = ascii "0" then pure false
      else if numeral 10 m.secure.toNat = ascii "1" then pure true
      else Read.fail .invalidBool : Read CursorError Bool) = pure m.secure := by
    cases m.secure <;> rfl
  rw [hsecure, Read.bind_ok (Read.lift_ok (Read.pure_apply _ _)),
    Read.bind_ok (Read.lift_ok (parseNext_args (isArg_numeral _) (isUtf8_numeral _)
      (parseU32_numeral _) _)),
    join_nil, Read.bind_ok (Read.lift_ok (Cursor.expectEmpty_after _))]
  rfl

end Connect

namespace Disconnect

theorem isArg_header : IsArg header := by decide

/-- The payload of a message. -/
def text (m : Disconnect) : Bytes :=
  header ++ join [m.serverAddress.display, numeral 10 m.challenge.toNat]

theorem encode_eq_ok {cap : ℕ} {m : Disconnect} {f : Frame} :
    m.encode cap = .ok f ↔ 6 + m.text.length ≤ cap ∧ m.text = f.payload := by
  unfold encode
  rw [Frame.encodeFmt_eq_ok]
  simp [text, ascii]

theorem decode_text {parseAddr : Bytes → Option SocketAddr} {m : Disconnect} {f : Frame}
    (hp : parseAddr m.serverAddress.display = some m.serverAddress) (hf : m.text = f.payload) :
    decode parseAddr f = .ok m := by
  unfold decode Read.run
  rw [← hf, text, Cursor.new_eq,
    Read.bind_ok (Read.lift_ok (Frame.expectCommand_name isArg_header _)),
    Read.bind_ok (Read.lift_ok (parseNext_args (isArg_display _) (isUtf8_display _) hp _)),
    Read.bind_ok (Read.lift_ok (parseNext_args (isArg_numeral _) (isUtf8_numeral _)
      (parseU32_numeral _) _)),
    join_nil, Read.bind_ok (Read.lift_ok (Cursor.expectEmpty_after _))]
  rfl

end Disconnect

namespace Terminate

theorem isArg_header : IsArg header := by decide

theorem encode_eq_ok {cap : ℕ} {m : Terminate} {f : Frame} :
    m.encode cap = .ok f ↔ 6 + header.length ≤ cap ∧ header = f.payload := by
  unfold encode
  rw [Frame.encodeFmt_eq_ok]
  simp

theorem decode_header {m : Terminate} {f : Frame} (hf : header = f.payload) : decode f = .ok m := by
  have hname := Frame.expectCommand_name isArg_header []
  rw [join_nil, List.append_nil] at hname
  have hcmd : Frame.expectCommandNoArgs header (.after [] header) = (.ok (), .after header []) := by
    unfold Frame.expectCommandNoArgs
    rw [Read.bind_ok hname, Cursor.expectEmpty_after]
  unfold decode Read.run
  rw [← hf, Cursor.new_eq, Read.bind_ok (Read.lift_ok hcmd)]
  rfl

end Terminate

namespace ClientKind

/-- The header of a variant. -/
def header : ClientKind → Bytes
  | .gamedir => Gamedir.header
  | .connect => Connect.header
  | .disconnect => Disconnect.header
  | .terminate => Terminate.header

/-- A payload goes to the variant whose header it starts with. -/
theorem dispatch_append (k : ClientKind) (t : Bytes) :
    ClientPacket.dispatch (k.header ++ t) = some k := by
  have hp : k.header.isPrefixOf (k.header ++ t) = true := by simp
  unfold ClientPacket.dispatch
  cases k with
  | gamedir => exact if_pos hp
  | connect =>
    rw [if_neg (not_isPrefixOf (by decide) hp)]
    exact if_pos hp
  | disconnect =>
    rw [if_neg (not_isPrefixOf (by decide) hp), if_neg (not_isPrefixOf (by decide) hp)]
    exact if_pos hp
  | terminate =>
    rw [if_neg (not_isPrefixOf (by decide) hp), if_neg (not_isPrefixOf (by decide) hp),
      if_neg (not_isPrefixOf (by decide) hp)]
    exact if_pos hp

end ClientKind

namespace ClientPacket

/-- The payload of a message. -/
def text : ClientPacket → Bytes
  | .gamedir m => m.text
  | .connect m => m.text
  | .disconnect m => m.text
  | .terminate _ => Terminate.header

/-- A message fits into the buffer and the length field, or is refused. -/
theorem encode_eq_ok {cap : ℕ} {m : ClientPacket} {f : Frame} :
    m.encode cap = .ok f ↔ 6 + m.text.length ≤ cap ∧ m.text = f.payload := by
  cases m with
  | gamedir m => exact Gamedir.encode_eq_ok
  | connect m => exact Connect.encode_eq_ok
  | disconnect m => exact Disconnect.encode_eq_ok
  | terminate m => exact Terminate.encode_eq_ok (m := m)

/-- A message goes to its own variant. -/
theorem dispatch_text (m : ClientPacket) : dispatch m.text = some m.kind := by
  cases m with
  | gamedir m => exact m.dispatch_text
  | connect m => exact ClientKind.connect.dispatch_append _
  | disconnect m => exact ClientKind.disconnect.dispatch_append _
  | terminate m =>
    have h := ClientKind.terminate.dispatch_append []
    rwa [List.append_nil] at h

theorem decode_connect {parseAddr : Bytes → Option SocketAddr} {m : Connect} {f : Frame}
    (hp : parseAddr m.serverAddress.display = some m.serverAddress) (hf : m.text = f.payload) :
    decode parseAddr f = .ok (.connect m) := by
  have hk : dispatch f.payload = some .connect := hf ▸ dispatch_text (.connect m)
  unfold decode
  rw [hk]
  dsimp only
  rw [Connect.decode_text hp hf]
  rfl

theorem decode_disconnect {parseAddr : Bytes → Option SocketAddr} {m : Disconnect} {f : Frame}
    (hp : parseAddr m.serverAddress.display = some m.serverAddress) (hf : m.text = f.payload) :
    decode parseAddr f = .ok (.disconnect m) := by
  have hk : dispatch f.payload = some .disconnect := hf ▸ dispatch_text (.disconnect m)
  unfold decode
  rw [hk]
  dsimp only
  rw [Disconnect.decode_text hp hf]
  rfl

theorem decode_terminate {parseAddr : Bytes → Option SocketAddr} {m : Terminate} {f : Frame}
    (hf : Terminate.header = f.payload) : decode parseAddr f = .ok (.terminate m) := by
  have hk : dispatch f.payload = some .terminate := hf ▸ dispatch_text (.terminate m)
  unfold decode
  rw [hk]
  dsimp only
  rw [Terminate.decode_header hf]
  rfl

end ClientPacket

/-! ## The response of the broker -/

/-- Both of two writes in a row succeed. -/
theorem kleisli_ok {p q : Put} {c c' : CursorMut} (h : (p >=> q) c = .ok c') :
    ∃ c₁, p c = .ok c₁ ∧ q c₁ = .ok c' := by
  simp only [Bind.kleisliRight, bind, Except.bind] at h
  cases hc : p c with
  | error e =>
    rw [hc] at h
    cases h
  | ok c₁ =>
    rw [hc] at h
    exact ⟨c₁, rfl, h⟩

namespace ConnectResponse

/-- The payload of a message. -/
def wire (m : ConnectResponse) : Bytes :=
  header ++ (u32Le m.challenge ++ (u64Le m.clientSteamId ++
    (u32Le (UInt32.ofNat m.ticket.length) ++ m.ticket)))

theorem length_wire (m : ConnectResponse) : m.wire.length = 27 + m.ticket.length := by
  have hh : header.length = 11 := by decide
  simp only [wire, List.length_append, hh, length_u32Le, length_u64Le]
  omega

theorem writes_put {m : ConnectResponse} (h : m.ticket.length < 2 ^ 32) : Writes m.put m.wire := by
  have hlen : Writes (putLen m.ticket.length) (u32Le (UInt32.ofNat m.ticket.length)) := by
    intro c
    exact if_pos h
  exact (Writes.putBytes _).seq ((Writes.putU32Le _).seq ((Writes.putU64Le _).seq
    (hlen.seq (Writes.putBytes _))))

/-- A ticket longer than its length field is not written. -/
theorem length_lt_of_put {m : ConnectResponse} {c c' : CursorMut} (h : m.put c = .ok c') :
    m.ticket.length < 2 ^ 32 := by
  obtain ⟨c₁, -, h⟩ := kleisli_ok h
  obtain ⟨c₂, -, h⟩ := kleisli_ok h
  obtain ⟨c₃, -, h⟩ := kleisli_ok h
  obtain ⟨c₄, h, -⟩ := kleisli_ok h
  by_contra hlen
  unfold putLen at h
  rw [if_neg hlen] at h
  cases h

/-- A message fits into the buffer and both length fields, or is refused. -/
theorem encode_eq_ok {cap : ℕ} {m : ConnectResponse} {f : Frame} :
    m.encode cap = .ok f ↔ 6 + m.wire.length ≤ cap ∧ m.wire = f.payload := by
  constructor
  · intro h
    obtain ⟨-, tail, htail, -⟩ := Frame.encode_eq_ok.1 h
    exact (Frame.encode_writes (writes_put (length_lt_of_put htail))).1 h
  · rintro ⟨hcap, hf⟩
    have hlt := f.length_payload_lt
    rw [← hf, length_wire] at hlt
    exact (Frame.encode_writes (writes_put (by omega))).2 ⟨hcap, hf⟩

theorem decode_wire {m : ConnectResponse} {f : Frame} (hf : m.wire = f.payload) :
    decode f = .ok m := by
  have hlt := f.length_payload_lt
  rw [← hf, length_wire] at hlt
  have hn : m.ticket.length = (UInt32.ofNat m.ticket.length).toNat := by
    rw [UInt32.toNat_ofNat', Nat.mod_eq_of_lt (by omega)]
  have hend : m.ticket = m.ticket ++ [] := (List.append_nil _).symm
  unfold decode Read.run
  rw [← hf, wire, Cursor.new_eq, Read.bind_ok (Read.lift_ok (Cursor.expect_after _ _ _)),
    Read.bind_ok (Read.lift_ok (Cursor.getU32Le_after _ _ _)),
    Read.bind_ok (Read.lift_ok (Cursor.getU64Le_after _ _ _)),
    Read.bind_ok (Read.lift_ok (Cursor.getU32Le_after _ _ _))]
  have hticket := Cursor.getBytes_after
    ([] ++ header ++ u32Le m.challenge ++ u64Le m.clientSteamId ++
      u32Le (UInt32.ofNat m.ticket.length)) m.ticket [] hn
  rw [List.append_nil] at hticket
  rw [Read.bind_ok (Read.lift_ok hticket),
    Read.bind_ok (Read.lift_ok (Cursor.expectEmpty_after _))]
  rfl

theorem serverPacket_decode {m : ConnectResponse} {f : Frame} (hf : m.wire = f.payload) :
    ServerPacket.decode f = .ok (.connectResponse m) := by
  have hp : header.isPrefixOf f.payload = true := by
    rw [← hf]
    simp [wire]
  unfold ServerPacket.decode
  rw [if_pos hp, decode_wire hf]
  rfl

end ConnectResponse

/-- An encoded message is decoded to itself, if its address is parsed back from what is printed; a
payload of more than 65535 bytes is refused; and a message of a client goes to its own variant. -/
theorem messages_roundtrip (parseAddr : Bytes → Option SocketAddr) :
    (∀ (m : Connect) (cap : ℕ) (f : Frame),
      parseAddr m.serverAddress.display = some m.serverAddress → m.encode cap = .ok f →
        Frame.decode f.data = .ok f ∧ ClientPacket.decode parseAddr f = .ok (.connect m)) ∧
    (∀ (m : Disconnect) (cap : ℕ) (f : Frame),
      parseAddr m.serverAddress.display = some m.serverAddress → m.encode cap = .ok f →
        Frame.decode f.data = .ok f ∧ ClientPacket.decode parseAddr f = .ok (.disconnect m)) ∧
    (∀ (m : Terminate) (cap : ℕ) (f : Frame), m.encode cap = .ok f →
      Frame.decode f.data = .ok f ∧ ClientPacket.decode parseAddr f = .ok (.terminate m)) ∧
    (∀ (m : ConnectResponse) (cap : ℕ) (f : Frame), m.encode cap = .ok f →
      Frame.decode f.data = .ok f ∧ ServerPacket.decode f = .ok (.connectResponse m)) ∧
    (∀ (m : ClientPacket) (cap : ℕ), 65535 < m.text.length → ∃ e, m.encode cap = .error e) ∧
    (∀ (m : ConnectResponse) (cap : ℕ), 65535 < m.wire.length → ∃ e, m.encode cap = .error e) ∧
    ∀ (m : ClientPacket) (cap : ℕ) (f : Frame), m.encode cap = .ok f →
      ClientPacket.dispatch f.payload = some m.kind := by
  have hdata : ∀ f : Frame, Frame.decode f.data = .ok f := by
    intro f
    have h := f.decode_data []
    rwa [List.append_nil] at h
  refine ⟨?_, ?_, ?_, ?_, ?_, ?_, ?_⟩
  · intro m cap f hp h
    exact ⟨hdata f, ClientPacket.decode_connect hp (Connect.encode_eq_ok.1 h).2⟩
  · intro m cap f hp h
    exact ⟨hdata f, ClientPacket.decode_disconnect hp (Disconnect.encode_eq_ok.1 h).2⟩
  · intro m cap f h
    exact ⟨hdata f, ClientPacket.decode_terminate (Terminate.encode_eq_ok.1 h).2⟩
  · intro m cap f h
    exact ⟨hdata f, ConnectResponse.serverPacket_decode (ConnectResponse.encode_eq_ok.1 h).2⟩
  · intro m cap hlen
    cases h : m.encode cap with
    | error e => exact ⟨e, rfl⟩
    | ok f =>
      have hlt := f.length_payload_lt
      rw [← (ClientPacket.encode_eq_ok.1 h).2] at hlt
      omega
  · intro m cap hlen
    cases h : m.encode cap with
    | error e => exact ⟨e, rfl⟩
    | ok f =>
      have hlt := f.length_payload_lt
      rw [← (ConnectResponse.encode_eq_ok.1 h).2] at hlt
      omega
  · intro m cap f h
    rw [← (ClientPacket.encode_eq_ok.1 h).2]
    exact m.dispatch_text

/-- The request of the test, with its address parsed. -/
theorem messages_roundtrip_localhost :
    let addr : SocketAddr := .v4 ⟨⟨[127, 0, 0, 1], rfl⟩, 27010⟩
    let m : Connect := ⟨addr, 111222333, 123456, true⟩
    ∃ f, m.encode 128 = .ok f ∧ ClientPacket.decode
      (fun s => if s = ascii "127.0.0.1:27010" then some addr else none) f = .ok (.connect m) := by
  intro addr m
  have henc : m.encode 128 = .ok (.ofPayload m.text (by decide +kernel)) :=
    Connect.encode_eq_ok.2 ⟨by decide +kernel, (Frame.payload_ofPayload _).symm⟩
  refine ⟨_, henc, ((messages_roundtrip _).1 m 128 _ ?_ henc).2⟩
  decide +kernel

end Xash3d.Broker
