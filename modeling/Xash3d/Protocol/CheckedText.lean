import Xash3d.Protocol.Checked
import Xash3d.Protocol.MapIter

/-!
# Strings with their checks

The iterator of a map string and the formatter of byte strings with the preconditions of the unsafe
functions that they call. The iterator has no faults on a string without zero bytes
(`MapIter.nextChecked_eq`), the formatter has none at all (`strFormatBytesChecked_eq`).
-/

namespace Xash3d

open Lib

/-! ## Map strings -/

namespace MapIter

/-- Create the iterator of a byte string. -/
def fromSliceChecked (bytes : Bytes) : Except Fault (Except ProtocolError MapIter) :=
  match bytes with
  | [] => .ok (.ok ⟨[]⟩)
  | c :: _ =>
    if c = 92 then do
      let s ← sliceRange bytes 1 bytes.length
      return if (0 : UInt8) ∈ s then .error .invalidMap else .ok ⟨s⟩
    else .ok (.error .invalidMap)

/-- Create the iterator of a C string, which has its terminator. -/
def fromCstrChecked (s : Bytes) : Except Fault (Except ProtocolError MapIter) :=
  match Cursor.toBytes s with
  | [] => .ok (.ok ⟨[]⟩)
  | c :: t =>
    if c = 92 then do
      let bytes ← sliceRange (c :: t) 1 (c :: t).length
      return .ok ⟨bytes⟩
    else .ok (.error .invalidMap)

/-- The end of the value behind the backslash at `p`, and the start of what follows it. -/
def pairEnd (bytes : Bytes) (p : ℕ) : Except Fault (ℕ × ℕ) :=
  match (bytes.drop (p + 1)).findIdx? (· == 92) with
  | some q => do
    let tail ← wordAdd (p + 1 + q) 1
    return (p + 1 + q, tail)
  | none => .ok (bytes.length, bytes.length)

/-- The unsafe block of `next`: `get_unchecked` and `MapStr::new_unchecked`. -/
def pairAt (bytes : Bytes) (p e tail : ℕ) : Except Fault ((Bytes × Bytes) × MapIter) := do
  let k ← getUnchecked bytes 0 p
  let start ← wordAdd p 1
  let v ← getUnchecked bytes start e
  let bytes ← getUnchecked bytes tail bytes.length
  let k ← require (IsMapStr k) k
  let v ← require (IsMapStr v) v
  return ((k, v), ⟨bytes⟩)

def nextChecked (it : MapIter) :
    Except Fault (Option (Except InvalidKeyError (Bytes × Bytes)) × MapIter) :=
  if it.bytes.isEmpty then .ok (none, it)
  else match it.bytes.findIdx? (· == 92) with
    | none => .ok (some (.error .mk), it)
    | some p => do
      let (e, tail) ← pairEnd it.bytes p
      let (kv, it) ← pairAt it.bytes p e tail
      return (some (.ok kv), it)

variable {it it' : MapIter} {kv : Bytes × Bytes}

theorem pairAt_length {bytes : Bytes} {p e tail : ℕ} (h : pairAt bytes p e tail = .ok (kv, it')) :
    it'.bytes.length = bytes.length - tail := by
  obtain ⟨k, -, h⟩ := of_bind_ok h
  obtain ⟨start, -, h⟩ := of_bind_ok h
  obtain ⟨v, -, h⟩ := of_bind_ok h
  obtain ⟨rest, hrest, h⟩ := of_bind_ok h
  obtain ⟨k', -, h⟩ := of_bind_ok h
  obtain ⟨v', -, h⟩ := of_bind_ok h
  cases h
  rw [(of_getUnchecked hrest).2.2, List.take_length, List.length_drop]

/-- A call that returns a pair takes it off the string. -/
theorem nextChecked_lt (h : it.nextChecked = .ok (some (.ok kv), it')) :
    it'.bytes.length < it.bytes.length := by
  unfold nextChecked at h
  by_cases hempty : it.bytes.isEmpty = true
  · rw [if_pos hempty] at h
    cases h
  rw [if_neg hempty] at h
  have hpos : 0 < it.bytes.length := List.length_pos_of_ne_nil (by simpa using hempty)
  cases hp : it.bytes.findIdx? (· == 92) with
  | none =>
    rw [hp] at h
    cases h
  | some p =>
    simp only [hp] at h
    obtain ⟨⟨e, tail⟩, hend, h⟩ := of_bind_ok h
    obtain ⟨⟨kv', rest⟩, hpair, h⟩ := of_bind_ok h
    cases h
    have htail : 0 < tail := by
      unfold pairEnd at hend
      cases hq : (it.bytes.drop (p + 1)).findIdx? (· == 92) with
      | none =>
        rw [hq] at hend
        cases hend
        exact hpos
      | some q =>
        rw [hq] at hend
        obtain ⟨n, hn, hend⟩ := of_bind_ok hend
        cases hend
        rw [of_wordAdd hn]
        exact Nat.succ_pos _
    rw [pairAt_length hpair]
    omega

/-- The loop `for entry in iter`: every pair goes to `f`, the first error ends it. -/
def tryFoldChecked {σ : Type} (f : σ → Bytes → Bytes → Except ProtocolError σ) (it : MapIter)
    (s : σ) : Except Fault (Except ProtocolError σ) :=
  match _h : it.nextChecked with
  | .error fault => .error fault
  | .ok (none, _) => .ok (.ok s)
  | .ok (some (.error _), _) => .ok (.error .invalidMap)
  | .ok (some (.ok (key, value)), it') =>
    match f s key value with
    | .error e => .ok (.error e)
    | .ok s' => tryFoldChecked f it' s'
termination_by it.bytes.length
decreasing_by exact nextChecked_lt _h

/-! ### No faults -/

/-- The iterator has no zero bytes. -/
def Clean (it : MapIter) : Prop := (0 : UInt8) ∉ it.bytes ∧ it.bytes.length < 2 ^ 63

/-- The ranges are in the string, and neither the key nor the value has a backslash. -/
theorem pairAt_eq {bytes : Bytes} {p e tail : ℕ} (hclean : Clean ⟨bytes⟩) (hp : p + 1 ≤ e)
    (he : e ≤ bytes.length) (ht : tail ≤ bytes.length) (hk : (92 : UInt8) ∉ bytes.take p)
    (hv : (92 : UInt8) ∉ (bytes.take e).drop (p + 1)) :
    pairAt bytes p e tail =
      .ok ((bytes.take p, (bytes.take e).drop (p + 1)), ⟨bytes.drop tail⟩) := by
  obtain ⟨h0, hlen⟩ := hclean
  have hlen : bytes.length < 2 ^ 63 := hlen
  have hkey : getUnchecked bytes 0 p = .ok (bytes.take p) :=
    getUnchecked_ok (Nat.zero_le p) (by omega)
  have hadd : wordAdd p 1 = .ok (p + 1) := wordAdd_ok (by omega)
  have hvalue : getUnchecked bytes (p + 1) e = .ok ((bytes.take e).drop (p + 1)) :=
    getUnchecked_ok hp he
  have hrest : getUnchecked bytes tail bytes.length = .ok (bytes.drop tail) := by
    rw [getUnchecked_ok ht le_rfl, List.take_length]
  have hkstr : IsMapStr (bytes.take p) := ⟨hk, fun hmem => h0 (List.mem_of_mem_take hmem)⟩
  have hvstr : IsMapStr ((bytes.take e).drop (p + 1)) :=
    ⟨hv, fun hmem => h0 (List.mem_of_mem_take (List.mem_of_mem_drop hmem))⟩
  unfold pairAt
  simp only [bind, Except.bind, pure, Except.pure, hkey, hadd, hvalue, hrest, require_ok hkstr,
    require_ok hvstr]

/-- The checks of a call hold on a string without zero bytes. -/
theorem nextChecked_eq (h : it.Clean) : it.nextChecked = .ok it.next := by
  have hlen := h.2
  unfold nextChecked next
  by_cases hempty : it.bytes.isEmpty = true
  · rw [if_pos hempty, if_pos hempty]
  rw [if_neg hempty, if_neg hempty]
  cases hp : it.bytes.findIdx? (· == 92) with
  | none => rfl
  | some p =>
    have hlt := lt_length_of_findIdx? hp
    have hk := not_mem_take hp
    cases hq : (it.bytes.drop (p + 1)).findIdx? (· == 92) with
    | none =>
      have hv := not_mem_of_findIdx? hq
      rw [← List.take_length (l := it.bytes)] at hv
      have hpair := pairAt_eq h hlt le_rfl le_rfl hk hv
      have hend : pairEnd it.bytes p = .ok (it.bytes.length, it.bytes.length) := by
        unfold pairEnd
        rw [hq]
      simp only [hq, bind, Except.bind, pure, Except.pure, hend, hpair]
    | some q =>
      have hlt' := lt_length_of_findIdx? hq
      rw [List.length_drop] at hlt'
      have hadd : wordAdd (p + 1 + q) 1 = .ok (p + 1 + q + 1) := wordAdd_ok (by omega)
      have hv : (92 : UInt8) ∉ (it.bytes.take (p + 1 + q)).drop (p + 1) := by
        rw [List.drop_take, Nat.add_sub_cancel_left]
        exact not_mem_take hq
      have htail : p + 1 + q + 1 ≤ it.bytes.length := by omega
      have hpair := pairAt_eq h (Nat.le_add_right _ q) (by omega) htail hk hv
      have hend : pairEnd it.bytes p = .ok (p + 1 + q, p + 1 + q + 1) := by
        unfold pairEnd
        rw [hq]
        dsimp only
        rw [hadd]
        rfl
      simp only [hq, bind, Except.bind, pure, Except.pure, hend, hpair]

/-- A call leaves an end of the string. -/
theorem next_rest (it : MapIter) : ∃ n, it.next.2.bytes = it.bytes.drop n := by
  unfold next
  by_cases hempty : it.bytes.isEmpty = true
  · rw [if_pos hempty]
    exact ⟨0, rfl⟩
  rw [if_neg hempty]
  cases it.bytes.findIdx? (· == 92) with
  | none => exact ⟨0, rfl⟩
  | some p => exact ⟨_, rfl⟩

theorem Clean.next (h : it.Clean) : it.next.2.Clean := by
  obtain ⟨n, hrest⟩ := it.next_rest
  unfold Clean
  rw [hrest, List.length_drop]
  exact ⟨fun h0 => h.1 (List.mem_of_mem_drop h0), (Nat.sub_le _ _).trans_lt h.2⟩

section

variable {σ : Type} {f : σ → Bytes → Bytes → Except ProtocolError σ} {s : σ} {e : InvalidKeyError}
  {key value : Bytes}

theorem tryFold_none (h : it.next = (none, it')) : tryFold f it s = .ok s := by
  rw [tryFold]
  split
  all_goals
    rename_i heq
    cases h.symm.trans heq
  rfl

theorem tryFold_error (h : it.next = (some (.error e), it')) :
    tryFold f it s = .error .invalidMap := by
  rw [tryFold]
  split
  all_goals
    rename_i heq
    cases h.symm.trans heq
  rfl

theorem tryFold_pair (h : it.next = (some (.ok (key, value)), it')) :
    tryFold f it s = (f s key value).bind (tryFold f it') := by
  rw [tryFold]
  split
  all_goals
    rename_i heq
    cases h.symm.trans heq
  cases f s key value with
  | error e => rfl
  | ok s' => rfl

theorem tryFoldChecked_none (h : it.nextChecked = .ok (none, it')) :
    tryFoldChecked f it s = .ok (.ok s) := by
  rw [tryFoldChecked]
  split
  all_goals
    rename_i heq
    cases h.symm.trans heq
  rfl

theorem tryFoldChecked_error (h : it.nextChecked = .ok (some (.error e), it')) :
    tryFoldChecked f it s = .ok (.error .invalidMap) := by
  rw [tryFoldChecked]
  split
  all_goals
    rename_i heq
    cases h.symm.trans heq
  rfl

theorem tryFoldChecked_pair (h : it.nextChecked = .ok (some (.ok (key, value)), it')) :
    tryFoldChecked f it s = match f s key value with
      | .error e => .ok (.error e)
      | .ok s' => tryFoldChecked f it' s' := by
  rw [tryFoldChecked]
  split
  all_goals
    rename_i heq
    cases h.symm.trans heq
  rfl

end

/-- The loop over a string without zero bytes has no faults. -/
theorem tryFoldChecked_eq {σ : Type} (f : σ → Bytes → Bytes → Except ProtocolError σ)
    (h : it.Clean) (s : σ) : tryFoldChecked f it s = .ok (tryFold f it s) := by
  induction hn : it.bytes.length using Nat.strong_induction_on generalizing it s with
  | _ n ih =>
    have hchecked := nextChecked_eq h
    have hclean := h.next
    rcases hnext : it.next with ⟨_ | _ | ⟨key, value⟩, it'⟩
    · rw [hnext] at hchecked
      rw [tryFoldChecked_none hchecked, tryFold_none hnext]
    · rw [hnext] at hchecked
      rw [tryFoldChecked_error hchecked, tryFold_error hnext]
    · rw [hnext] at hchecked hclean
      rw [tryFoldChecked_pair hchecked, tryFold_pair hnext]
      cases f s key value with
      | error e => rfl
      | ok s' => exact ih _ (hn ▸ next_ok_lt hnext) hclean s' rfl

theorem fromSliceChecked_eq (bytes : Bytes) : fromSliceChecked bytes = .ok (fromSlice bytes) := by
  cases bytes with
  | nil => rfl
  | cons c s =>
    have hrest : sliceRange (c :: s) 1 (c :: s).length = .ok s :=
      sliceRange_rest (Nat.succ_le_succ (Nat.zero_le _))
    unfold fromSliceChecked fromSlice
    dsimp only
    rw [hrest]
    by_cases hc : c = 92
    · rw [if_pos hc, if_pos hc]
      rfl
    · rw [if_neg hc, if_neg hc]

theorem fromCstrChecked_eq (s : Bytes) : fromCstrChecked s = .ok (fromCstr s) := by
  unfold fromCstrChecked fromCstr
  cases Cursor.toBytes s with
  | nil => rfl
  | cons c t =>
    have hrest : sliceRange (c :: t) 1 (c :: t).length = .ok t :=
      sliceRange_rest (Nat.succ_le_succ (Nat.zero_le _))
    dsimp only
    rw [hrest]
    by_cases hc : c = 92
    · rw [if_pos hc, if_pos hc]
      rfl
    · rw [if_neg hc, if_neg hc]

/-- An iterator that was created of a byte string has no zero bytes. -/
theorem clean_of_fromSlice {bytes : Bytes} (hlen : bytes.length < 2 ^ 63)
    (h : fromSlice bytes = .ok it) : it.Clean := by
  cases bytes with
  | nil =>
    cases h
    exact ⟨List.not_mem_nil, by decide⟩
  | cons c s =>
    unfold fromSlice at h
    dsimp only at h
    rw [List.length_cons] at hlen
    split_ifs at h with hc h0
    cases h
    exact ⟨h0, (Nat.lt_succ_self _).trans hlen⟩

/-- So has one of a C string. -/
theorem clean_of_fromCstr {s : Bytes} (hs : Checked.IsCstr s) (hlen : s.length < 2 ^ 63)
    (h : fromCstr s = .ok it) : it.Clean := by
  have h0 : (0 : UInt8) ∉ Cursor.toBytes s := by
    intro hmem
    obtain ⟨hcount, hlast⟩ := hs
    have hsplit := List.dropLast_append_getLast? 0 hlast
    rw [← hsplit, List.count_append, List.count_singleton_self] at hcount
    have hpos := List.count_pos_iff.2 hmem
    unfold Cursor.toBytes at hpos
    omega
  have hle : (Cursor.toBytes s).length ≤ s.length := by
    rw [Cursor.toBytes, List.length_dropLast]
    exact Nat.sub_le _ _
  unfold fromCstr at h
  cases hbytes : Cursor.toBytes s with
  | nil =>
    rw [hbytes] at h
    cases h
    exact ⟨List.not_mem_nil, by decide⟩
  | cons c t =>
    rw [hbytes] at h h0 hle
    dsimp only at h
    split_ifs at h with hc
    cases h
    rw [List.length_cons] at hle
    exact ⟨fun hmem => h0 (List.mem_cons_of_mem c hmem), (Nat.le_of_succ_le hle).trans_lt hlen⟩

/-- No call of the iterator has a fault. -/
theorem calls_nextChecked (h : it.Clean) (n : ℕ) :
    calls nextChecked n it = .ok (returned next n it) := by
  have hstep (it : MapIter) (h : it.Clean) : it.nextChecked = .ok it.next ∧ it.next.2.Clean :=
    ⟨nextChecked_eq h, h.next⟩
  exact calls_ok hstep h n

end MapIter

/-! ## Escaped output -/

/-- The slice that `str::from_utf8_unchecked` is called with. -/
def printableSlice (s : Bytes) (start stop : ℕ) : Except Fault Bytes := do
  let valid ← sliceRange s start stop
  require (∀ c ∈ valid, 32 ≤ c ∧ c ≤ 126) valid

/-- The pieces written for a byte that is not printable. -/
def escapeChecked (c : UInt8) : Except Fault (List Bytes) :=
  if c = 92 then .ok [ascii "\\\\"]
  else if c = 10 then .ok [ascii "\\n"]
  else if c = 9 then .ok [ascii "\\t"]
  else do
    let high ← sliceIndex (ascii "0123456789abcdef") (c >>> 4).toNat
    let low ← sliceIndex (ascii "0123456789abcdef") (c &&& 15).toNat
    return [ascii "\\x", [high], [low]]

/-- The loop of `str_format_bytes` at the index `i`, where the iterator has the bytes from `i` on. -/
def strFormatFrom (s : Bytes) (i : ℕ) : Bytes → Except Fault (List Bytes)
  | [] => .ok []
  | c :: it =>
    if isPrintable c then
      match _h : it.dropWhile isPrintable with
      | [] => do
        let valid ← printableSlice s i s.length
        return [valid]
      | n :: it' => do
        let e := i + 1 + (it.takeWhile isPrintable).length
        let valid ← printableSlice s i e
        let escaped ← escapeChecked n
        let pieces ← strFormatFrom s (e + 1) it'
        return valid :: (escaped ++ pieces)
    else do
      let escaped ← escapeChecked c
      let pieces ← strFormatFrom s (i + 1) it
      return escaped ++ pieces
termination_by it => it.length
decreasing_by
  · have := (List.dropWhile_sublist isPrintable (l := it)).length_le
    rw [_h] at this
    simp only [List.length_cons] at this ⊢
    omega
  · simp

def strFormatBytesChecked (s : Bytes) : Except Fault (List Bytes) := strFormatFrom s 0 s

theorem escapeChecked_eq (c : UInt8) : escapeChecked c = .ok (escape c) := by
  revert c
  decide +kernel

theorem isPrintable_range {c : UInt8} (h : isPrintable c = true) : 32 ≤ c ∧ c ≤ 126 := by
  revert c
  decide +kernel

/-- A run of printable bytes is a slice that may be text. -/
theorem printableSlice_eq (pre t : Bytes) {run : Bytes} (h : ∀ c ∈ run, isPrintable c = true) :
    printableSlice (pre ++ (run ++ t)) pre.length (pre.length + run.length) = .ok run := by
  have hslice : sliceRange (pre ++ (run ++ t)) pre.length (pre.length + run.length) = .ok run := by
    rw [sliceRange_ok (Nat.le_add_right _ _) (by simp), ← List.append_assoc, ← List.length_append,
      List.take_left, List.drop_left]
  unfold printableSlice
  rw [hslice]
  exact require_ok (fun c hc => isPrintable_range (h c hc)) run

section

variable {s it it' : Bytes} {c n : UInt8}

/-- The bytes from `c` on are printable. -/
theorem strFormatFrom_last (hc : isPrintable c = true) (hd : it.dropWhile isPrintable = []) (i : ℕ) :
    strFormatFrom s i (c :: it) =
      (printableSlice s i s.length).bind fun valid => .ok [valid] := by
  rw [strFormatFrom, if_pos hc]
  split
  · rfl
  · rename_i heq
    cases hd.symm.trans heq

/-- The bytes from `c` to `n` are printable. -/
theorem strFormatFrom_run (hc : isPrintable c = true) (hd : it.dropWhile isPrintable = n :: it')
    (i : ℕ) :
    strFormatFrom s i (c :: it) =
      (printableSlice s i (i + 1 + (it.takeWhile isPrintable).length)).bind fun valid =>
        (escapeChecked n).bind fun escaped =>
          (strFormatFrom s (i + 1 + (it.takeWhile isPrintable).length + 1) it').bind fun pieces =>
            .ok (valid :: (escaped ++ pieces)) := by
  rw [strFormatFrom, if_pos hc]
  split
  · rename_i heq
    cases hd.symm.trans heq
  · rename_i heq
    cases hd.symm.trans heq
    rfl

theorem strFormatBytes_last (hc : isPrintable c = true) (hd : it.dropWhile isPrintable = []) :
    strFormatBytes (c :: it) = [c :: it.takeWhile isPrintable] := by
  rw [strFormatBytes, if_pos hc]
  split
  · rfl
  · rename_i heq
    cases hd.symm.trans heq

theorem strFormatBytes_run (hc : isPrintable c = true) (hd : it.dropWhile isPrintable = n :: it') :
    strFormatBytes (c :: it) =
      (c :: it.takeWhile isPrintable) :: (escape n ++ strFormatBytes it') := by
  rw [strFormatBytes, if_pos hc]
  split
  · rename_i heq
    cases hd.symm.trans heq
  · rename_i heq
    cases hd.symm.trans heq
    rfl

end

theorem strFormatFrom_eq (pre it : Bytes) :
    strFormatFrom (pre ++ it) pre.length it = .ok (strFormatBytes it) := by
  induction it using strFormatBytes.induct generalizing pre with
  | case1 => rw [strFormatFrom, strFormatBytes]
  | case2 c s hc hd =>
    have hall : ∀ b ∈ c :: s, isPrintable b = true :=
      List.forall_mem_cons.mpr ⟨hc, List.dropWhile_eq_nil_iff.mp hd⟩
    have hwhole : s.takeWhile isPrintable = s :=
      List.takeWhile_eq_self_iff.mpr (List.dropWhile_eq_nil_iff.mp hd)
    have hslice : printableSlice (pre ++ c :: s) pre.length (pre ++ c :: s).length = .ok (c :: s) := by
      have h := printableSlice_eq pre [] hall
      rwa [List.append_nil, ← List.length_append] at h
    rw [strFormatFrom_last hc hd, strFormatBytes_last hc hd, hslice, hwhole]
    rfl
  | case3 c s hc n s' hd ih =>
    have hrun : ∀ b ∈ c :: s.takeWhile isPrintable, isPrintable b = true :=
      List.forall_mem_cons.mpr ⟨hc, fun b hb => List.mem_takeWhile_imp hb⟩
    have hsplit : s = s.takeWhile isPrintable ++ n :: s' := by
      rw [← hd, List.takeWhile_append_dropWhile]
    have hslice : printableSlice (pre ++ c :: s) pre.length
        (pre.length + 1 + (s.takeWhile isPrintable).length) = .ok (c :: s.takeWhile isPrintable) := by
      have h := printableSlice_eq pre (n :: s') hrun
      rw [List.cons_append, ← hsplit, List.length_cons] at h
      rwa [Nat.add_assoc, Nat.add_comm 1]
    have htail : strFormatFrom (pre ++ c :: s)
        (pre.length + 1 + (s.takeWhile isPrintable).length + 1) s' = .ok (strFormatBytes s') := by
      have h := ih (pre ++ (c :: s.takeWhile isPrintable ++ [n]))
      have hbytes : pre ++ (c :: s.takeWhile isPrintable ++ [n]) ++ s' = pre ++ c :: s := by
        conv_rhs => rw [hsplit]
        simp
      have hlen : (pre ++ (c :: s.takeWhile isPrintable ++ [n])).length =
          pre.length + 1 + (s.takeWhile isPrintable).length + 1 := by
        simp
        omega
      rwa [hbytes, hlen] at h
    rw [strFormatFrom_run hc hd, strFormatBytes_run hc hd, hslice, escapeChecked_eq, htail]
    rfl
  | case4 c s hc ih =>
    have htail := ih (pre ++ [c])
    rw [List.append_assoc, List.length_append, List.length_singleton] at htail
    rw [strFormatFrom, strFormatBytes, if_neg hc, if_neg hc, escapeChecked_eq]
    show ((strFormatFrom (pre ++ c :: s) (pre.length + 1) s).bind fun pieces => _) = _
    rw [show pre ++ c :: s = pre ++ ([c] ++ s) from rfl, htail]
    rfl

/-- The formatter has no faults. -/
theorem strFormatBytesChecked_eq (s : Bytes) :
    strFormatBytesChecked s = .ok (strFormatBytes s) := strFormatFrom_eq [] s

end Xash3d
