import Xash3d.Protocol.Cursor

/-!
# Strings of the protocol

Map strings `\key\value…` with their iterator, the parsers of single values, versions, and the
escaping formatter of byte strings.

* `MapIter.tryFold_pairs`: the loop over a map string visits exactly the pairs it was written from.
* `strFormatBytes_flatten`: the formatter writes the escapes of the bytes one after another.
-/

namespace Xash3d

open Lib

/-! ## Values of a map string -/

/-- The contents of a `MapStr`: neither a backslash nor a zero byte. -/
def IsMapStr (s : Bytes) : Prop := (92 : UInt8) ∉ s ∧ (0 : UInt8) ∉ s

instance : DecidablePred IsMapStr := fun _ => inferInstanceAs (Decidable (_ ∧ _))

/-- Convert a map string to text. -/
def toStr (value : Bytes) : Except CursorError Bytes :=
  if isUtf8 value then .ok value else .error .invalidString

/-- Parse an unsigned number of at most `max`. -/
def parseNumber (max radix : ℕ) (value : Bytes) : Except CursorError ℕ := do
  let s ← toStr value
  match parseUnsigned max radix s with
  | some n => .ok n
  | none => .error .invalidNumber

def parseU8 (value : Bytes) : Except CursorError UInt8 :=
  (parseNumber 255 10 value).map UInt8.ofNat

def parseU32 (value : Bytes) : Except CursorError UInt32 :=
  (parseNumber (2 ^ 32 - 1) 10 value).map UInt32.ofNat

/-- A 32-bit number in hexadecimal. -/
def parseHex32 (value : Bytes) : Except CursorError UInt32 :=
  (parseNumber (2 ^ 32 - 1) 16 value).map UInt32.ofNat

def parseBool (value : Bytes) : Except CursorError Bool :=
  if value = ascii "0" then .ok false
  else if value = ascii "1" then .ok true
  else .error .invalidBool

/-- A field set to a parsed value. -/
theorem parsed_ok {ε α β : Type} {r : Except ε α} {put : α → β} {b : β}
    (h : (do let a ← r; return put a) = Except.ok b) : ∃ a, r = .ok a ∧ b = put a := by
  cases r with
  | error e => cases h
  | ok a =>
    cases h
    exact ⟨a, rfl, rfl⟩

theorem parseNumber_numeral {max radix n : ℕ} (hr : radix = 10 ∨ radix = 16) (h : n ≤ max) :
    parseNumber max radix (numeral radix n) = .ok n := by
  have hu : isUtf8 (numeral radix n) = true :=
    isUtf8_of_ascii fun c hc => (isDigit_of_mem_numeral (by omega) (by omega) hc).lt
  simp [parseNumber, toStr, hu, bind, Except.bind, parseUnsigned_numeral hr h]

@[simp] theorem parseU8_numeral (n : UInt8) : parseU8 (numeral 10 n.toNat) = .ok n := by
  have hn : n.toNat ≤ 255 := by have := n.toNat_lt; omega
  rw [parseU8, parseNumber_numeral (Or.inl rfl) hn]
  simp [Except.map]

@[simp] theorem parseU32_numeral (n : UInt32) : parseU32 (numeral 10 n.toNat) = .ok n := by
  have hn : n.toNat ≤ 2 ^ 32 - 1 := by have := n.toNat_lt; omega
  rw [parseU32, parseNumber_numeral (Or.inl rfl) hn]
  simp [Except.map]

@[simp] theorem parseHex32_numeral (n : UInt32) : parseHex32 (numeral 16 n.toNat) = .ok n := by
  have hn : n.toNat ≤ 2 ^ 32 - 1 := by have := n.toNat_lt; omega
  rw [parseHex32, parseNumber_numeral (Or.inr rfl) hn]
  simp [Except.map]

@[simp] theorem parseBool_digit (b : Bool) : parseBool [if b then 49 else 48] = .ok b := by
  cases b <;> decide

/-! ## Versions -/

/-- Client or server version. -/
structure Version where
  major : UInt8
  minor : UInt8
  patch : UInt8
  deriving DecidableEq

namespace Version

/-- A version without a patch number. -/
def new (major minor : UInt8) : Version := ⟨major, minor, 0⟩

instance : Inhabited Version := ⟨⟨0, 0, 0⟩⟩

/-- Versions are ordered by major, minor and patch number, in this order. -/
instance : LT Version :=
  ⟨fun v w => v.major < w.major ∨ v.major = w.major ∧ (v.minor < w.minor ∨
    v.minor = w.minor ∧ v.patch < w.patch)⟩

instance : DecidableRel (α := Version) (· < ·) :=
  fun _ _ => inferInstanceAs (Decidable (_ ∨ _ ∧ (_ ∨ _ ∧ _)))

/-- Split at the first delimiter. -/
def splitOnce (x : UInt8) (s : Bytes) : Option (Bytes × Bytes) :=
  (s.findIdx? (· == x)).map fun i => (s.take i, s.drop (i + 1))

def fromStr (s : Bytes) : Except CursorError Version :=
  let (major, tail) := (splitOnce 46 s).getD (s, ascii "0")
  let (minor, patch) := (splitOnce 46 tail).getD (tail, ascii "0")
  match parseUnsigned 255 10 major, parseUnsigned 255 10 minor, parseUnsigned 255 10 patch with
  | some x, some y, some z => .ok ⟨UInt8.ofNat x, UInt8.ofNat y, UInt8.ofNat z⟩
  | _, _, _ => .error .invalidNumber

/-- The pieces `Display` writes. -/
def display (v : Version) : List Bytes :=
  [numeral 10 v.major.toNat, ascii ".", numeral 10 v.minor.toNat] ++
    if v.patch ≠ 0 then [ascii ".", numeral 10 v.patch.toNat] else []

end Version

/-- Parse a version out of a map string. -/
def parseVersion (value : Bytes) : Except CursorError Version := do
  let s ← toStr value
  Version.fromStr s

theorem splitOnce_append {x : UInt8} {s : Bytes} (t : Bytes) (hs : x ∉ s) :
    Version.splitOnce x (s ++ x :: t) = some (s, t) := by
  simp [Version.splitOnce, findIdx?_delim t hs]

theorem splitOnce_none {x : UInt8} {s : Bytes} (hs : x ∉ s) : Version.splitOnce x s = none := by
  unfold Version.splitOnce
  rw [findIdx?_of_not_mem hs]
  rfl

theorem not_mem_numeral {n : ℕ} {c : UInt8} (hc : ¬ IsDigit c) : c ∉ numeral 10 n :=
  fun h => hc (isDigit_of_mem_numeral (by omega) (by omega) h)

/-- A printed version consists of digits and dots. -/
theorem mem_version_display {v : Version} {c : UInt8} (hc : c ∈ v.display.flatten) :
    IsDigit c ∨ c = 46 := by
  have hd : ∀ n : ℕ, c ∈ numeral 10 n → IsDigit c := fun n h =>
    isDigit_of_mem_numeral (by omega) (by omega) h
  have hdot : ascii "." = [46] := by decide
  unfold Version.display at hc
  rw [hdot] at hc
  by_cases h0 : v.patch = 0
  · rw [if_neg (by simpa using h0)] at hc
    simp only [List.append_nil, List.flatten_cons, List.flatten_nil, List.mem_append,
      List.mem_singleton] at hc
    rcases hc with h | h | h
    · exact Or.inl (hd _ h)
    · exact Or.inr h
    · exact Or.inl (hd _ h)
  · rw [if_pos h0] at hc
    simp only [List.cons_append, List.nil_append, List.append_nil, List.flatten_cons,
      List.flatten_nil, List.mem_append, List.mem_cons] at hc
    rcases hc with h | h | h | h | h
    · exact Or.inl (hd _ h)
    · exact Or.inr h
    · exact Or.inl (hd _ h)
    · exact Or.inr h
    · exact Or.inl (hd _ h)

/-- Parsing a printed version gives it back. -/
theorem parseVersion_display (v : Version) : parseVersion v.display.flatten = .ok v := by
  have hdot : (46 : UInt8) ∉ numeral 10 v.minor.toNat := not_mem_numeral (by decide)
  have hdot' : (46 : UInt8) ∉ numeral 10 v.major.toNat := not_mem_numeral (by decide)
  have hp : ∀ n : UInt8, parseUnsigned 255 10 (numeral 10 n.toNat) = some n.toNat := fun n =>
    parseUnsigned_numeral (Or.inl rfl) (by have := n.toNat_lt; omega)
  have hfrom : Version.fromStr v.display.flatten = .ok v := by
    unfold Version.display
    by_cases h0 : v.patch = 0
    · have hflat : ([numeral 10 v.major.toNat, ascii ".", numeral 10 v.minor.toNat] ++
          if v.patch ≠ 0 then [ascii ".", numeral 10 v.patch.toNat] else []).flatten =
          numeral 10 v.major.toNat ++ 46 :: numeral 10 v.minor.toNat := by simp [h0, ascii]
      have hzero : parseUnsigned 255 10 (ascii "0") = some 0 := by decide
      rw [hflat, Version.fromStr, splitOnce_append _ hdot']
      simp only [Option.getD_some, splitOnce_none hdot, Option.getD_none, hp, hzero]
      simp [← h0]
    · have hflat : ([numeral 10 v.major.toNat, ascii ".", numeral 10 v.minor.toNat] ++
          if v.patch ≠ 0 then [ascii ".", numeral 10 v.patch.toNat] else []).flatten =
          numeral 10 v.major.toNat ++ 46 :: (numeral 10 v.minor.toNat ++
            46 :: numeral 10 v.patch.toNat) := by simp [h0, ascii]
      rw [hflat, Version.fromStr, splitOnce_append _ hdot']
      simp only [Option.getD_some, splitOnce_append _ hdot, hp]
      simp
  have hascii : isUtf8 v.display.flatten = true :=
    isUtf8_of_ascii fun c hc => (mem_version_display hc).elim IsDigit.lt fun h => h ▸ by decide
  simp [parseVersion, toStr, hascii, bind, Except.bind, hfrom]

/-! ## Map strings -/

/-- The error of iterating a map string. -/
inductive InvalidKeyError where
  | mk
  deriving DecidableEq

/-- An iterator over `\key\value` pairs, past the first backslash. -/
structure MapIter where
  bytes : Bytes
  deriving DecidableEq

namespace MapIter

/-- Create the iterator of a byte string. -/
def fromSlice (bytes : Bytes) : Except ProtocolError MapIter :=
  match bytes with
  | [] => .ok ⟨[]⟩
  | c :: s =>
    if c = 92 then
      if (0 : UInt8) ∈ s then .error .invalidMap else .ok ⟨s⟩
    else .error .invalidMap

def next (it : MapIter) : Option (Except InvalidKeyError (Bytes × Bytes)) × MapIter :=
  if it.bytes.isEmpty then (none, it)
  else match it.bytes.findIdx? (· == 92) with
    | none => (some (.error .mk), it)
    | some p =>
      let (e, tail) := match (it.bytes.drop (p + 1)).findIdx? (· == 92) with
        | some q => (p + 1 + q, p + 1 + q + 1)
        | none => (it.bytes.length, it.bytes.length)
      let k := it.bytes.take p
      let v := (it.bytes.take e).drop (p + 1)
      (some (.ok (k, v)), ⟨it.bytes.drop tail⟩)

theorem next_ok_lt {it it' : MapIter} {kv : Bytes × Bytes} (h : it.next = (some (.ok kv), it')) :
    it'.bytes.length < it.bytes.length := by
  unfold next at h
  by_cases he : it.bytes.isEmpty = true
  · rw [if_pos he] at h; cases h
  rw [if_neg he] at h
  have hpos : 0 < it.bytes.length := List.length_pos_of_ne_nil (by simpa using he)
  cases hp : it.bytes.findIdx? (· == 92) with
  | none => rw [hp] at h; cases h
  | some p =>
    cases hq : (it.bytes.drop (p + 1)).findIdx? (· == 92) with
    | none => simp only [hp, hq, Prod.mk.injEq] at h; rw [← h.2]; simp; exact hpos
    | some q => simp only [hp, hq, Prod.mk.injEq] at h; rw [← h.2]; simp; omega

/-- The loop `for entry in iter`: every pair goes to `f`, the first error ends it. -/
def tryFold {σ : Type} (f : σ → Bytes → Bytes → Except ProtocolError σ) (it : MapIter) (s : σ) :
    Except ProtocolError σ :=
  match _h : it.next with
  | (none, _) => .ok s
  | (some (.error _), _) => .error .invalidMap
  | (some (.ok (key, value)), it') =>
    match f s key value with
    | .error e => .error e
    | .ok s' => tryFold f it' s'
termination_by it.bytes.length
decreasing_by exact next_ok_lt _h

/-- A list of pairs as a map string. -/
def pairs (kvs : List (Bytes × Bytes)) : Bytes :=
  kvs.flatMap fun kv => 92 :: (kv.1 ++ 92 :: kv.2)

variable {kvs : List (Bytes × Bytes)}

@[simp] theorem pairs_nil : pairs [] = [] := rfl

@[simp] theorem pairs_cons (kv : Bytes × Bytes) (kvs : List (Bytes × Bytes)) :
    pairs (kv :: kvs) = 92 :: (kv.1 ++ 92 :: kv.2) ++ pairs kvs := List.flatMap_cons

@[simp] theorem pairs_append (kvs kvs' : List (Bytes × Bytes)) :
    pairs (kvs ++ kvs') = pairs kvs ++ pairs kvs' := List.flatMap_append

/-- A byte that is not the delimiter comes from the pairs. -/
theorem not_mem_pairs {c : UInt8} (hc : c ≠ 92) (h : ∀ kv ∈ kvs, c ∉ kv.1 ∧ c ∉ kv.2) :
    c ∉ pairs kvs := by
  rw [pairs, List.mem_flatMap]
  rintro ⟨kv, hkv, hmem⟩
  simp [h kv hkv, hc] at hmem

theorem fromSlice_pairs (h : ∀ kv ∈ kvs, (0 : UInt8) ∉ kv.1 ∧ (0 : UInt8) ∉ kv.2) :
    fromSlice (pairs kvs) = .ok ⟨(pairs kvs).tail⟩ := by
  have h0 : (0 : UInt8) ∉ pairs kvs := not_mem_pairs (by decide) h
  cases kvs with
  | nil => rfl
  | cons kv kvs =>
    simp only [pairs_cons, List.cons_append, List.mem_cons] at h0
    simp only [pairs_cons, List.cons_append, fromSlice, if_true]
    rw [if_neg fun hm => h0 (Or.inr hm)]
    rfl

/-- The last value ends with the string. -/
theorem next_last {k v : Bytes} (hk : (92 : UInt8) ∉ k) (hv : (92 : UInt8) ∉ v) :
    next ⟨k ++ 92 :: v⟩ = (some (.ok (k, v)), ⟨[]⟩) := by
  have hdrop : (k ++ 92 :: v).drop (k.length + 1) = v := by
    rw [show k ++ 92 :: v = (k ++ [92]) ++ v by simp,
      show k.length + 1 = (k ++ [(92 : UInt8)]).length by simp, List.drop_left]
  unfold next
  rw [if_neg (by simp), findIdx?_delim v hk]
  simp only [hdrop, findIdx?_of_not_mem hv, List.take_length, List.drop_length, List.take_left]

theorem next_more {k v : Bytes} (hk : (92 : UInt8) ∉ k) (hv : (92 : UInt8) ∉ v) (t : Bytes) :
    next ⟨k ++ 92 :: (v ++ 92 :: t)⟩ = (some (.ok (k, v)), ⟨t⟩) := by
  have hdrop : (k ++ 92 :: (v ++ 92 :: t)).drop (k.length + 1) = v ++ 92 :: t := by
    rw [show k ++ 92 :: (v ++ 92 :: t) = (k ++ [92]) ++ (v ++ 92 :: t) by simp,
      show k.length + 1 = (k ++ [(92 : UInt8)]).length by simp, List.drop_left]
  have hvalue : ((k ++ 92 :: (v ++ 92 :: t)).take (k.length + 1 + v.length)).drop (k.length + 1) =
      v := by
    rw [List.drop_take, hdrop, Nat.add_sub_cancel_left, List.take_left]
  have htail : (k ++ 92 :: (v ++ 92 :: t)).drop (k.length + 1 + v.length + 1) = t := by
    rw [show k.length + 1 + v.length + 1 = (k.length + 1) + (v ++ [(92 : UInt8)]).length by
      simp; omega, ← List.drop_drop, hdrop,
      show v ++ 92 :: t = (v ++ [92]) ++ t by simp, List.drop_left]
  unfold next
  rw [if_neg (by simp), findIdx?_delim _ hk]
  simp only [hdrop, findIdx?_delim t hv, hvalue, htail, List.take_left]

/-- One step of the iterator on a written map string. -/
theorem next_pairs {k v : Bytes} (hk : (92 : UInt8) ∉ k) (hv : (92 : UInt8) ∉ v)
    (kvs : List (Bytes × Bytes)) :
    next ⟨k ++ 92 :: (v ++ pairs kvs)⟩ = (some (.ok (k, v)), ⟨(pairs kvs).tail⟩) := by
  cases kvs with
  | nil =>
    rw [pairs_nil, List.append_nil]
    exact next_last hk hv
  | cons kv kvs =>
    rw [pairs_cons, List.cons_append]
    exact next_more hk hv _

/-- The loop over a written map string visits exactly its pairs, in order. -/
theorem tryFold_pairs {σ : Type} (f : σ → Bytes → Bytes → Except ProtocolError σ)
    (h : ∀ kv ∈ kvs, (92 : UInt8) ∉ kv.1 ∧ (92 : UInt8) ∉ kv.2) (s : σ) :
    tryFold f ⟨(pairs kvs).tail⟩ s = kvs.foldlM (fun s kv => f s kv.1 kv.2) s := by
  induction kvs generalizing s with
  | nil => rw [tryFold]; rfl
  | cons kv kvs ih =>
    have hnext : next ⟨(pairs (kv :: kvs)).tail⟩ = (some (.ok kv), ⟨(pairs kvs).tail⟩) := by
      have := next_pairs (h kv (by simp)).1 (h kv (by simp)).2 kvs
      rw [pairs_cons, List.cons_append, List.tail_cons, List.append_assoc, List.cons_append]
      exact this
    have hih := ih fun kv' hkv' => h kv' (by simp [hkv'])
    rw [tryFold, List.foldlM_cons]
    split
    · rename_i heq; rw [hnext] at heq; cases heq
    · rename_i heq; rw [hnext] at heq; cases heq
    · rename_i key value it' heq
      rw [hnext] at heq
      cases heq
      show _ = f s key value >>= fun s' => kvs.foldlM (fun s kv => f s kv.1 kv.2) s'
      cases f s key value with
      | error e => rfl
      | ok s' => exact hih s'

/-! ### What is parsed -/

/-- A value comes out of the bytes of the iterator, and has no backslash. -/
theorem next_ok {it it' : MapIter} {key value : Bytes}
    (h : it.next = (some (.ok (key, value)), it')) :
    (∀ c ∈ value, c ∈ it.bytes) ∧ (92 : UInt8) ∉ value ∧ ∀ c ∈ it'.bytes, c ∈ it.bytes := by
  unfold next at h
  by_cases he : it.bytes.isEmpty = true
  · rw [if_pos he] at h
    cases h
  rw [if_neg he] at h
  cases hp : it.bytes.findIdx? (· == 92) with
  | none =>
    rw [hp] at h
    cases h
  | some p =>
    have hmem : ∀ e, ∀ c ∈ (it.bytes.take e).drop (p + 1), c ∈ it.bytes := fun e c hc =>
      List.mem_of_mem_take (List.mem_of_mem_drop hc)
    cases hq : (it.bytes.drop (p + 1)).findIdx? (· == 92) with
    | none =>
      simp only [hp, hq, Prod.mk.injEq, Option.some.injEq, Except.ok.injEq] at h
      obtain ⟨⟨-, rfl⟩, rfl⟩ := h
      refine ⟨hmem _, ?_, fun c hc => List.mem_of_mem_drop hc⟩
      rw [List.take_length]
      exact not_mem_of_findIdx? hq
    | some q =>
      simp only [hp, hq, Prod.mk.injEq, Option.some.injEq, Except.ok.injEq] at h
      obtain ⟨⟨-, rfl⟩, rfl⟩ := h
      refine ⟨hmem _, ?_, fun c hc => List.mem_of_mem_drop hc⟩
      have hlen : p + 1 + q - (p + 1) = q := by omega
      rw [List.drop_take, hlen]
      exact not_mem_take hq

/-- The pairs a loop over the iterator visits. -/
def toList (it : MapIter) : List (Bytes × Bytes) :=
  match _h : it.next with
  | (some (.ok kv), it') => kv :: toList it'
  | _ => []
termination_by it.bytes.length
decreasing_by exact next_ok_lt _h

theorem toList_pairs (h : ∀ kv ∈ kvs, (92 : UInt8) ∉ kv.1 ∧ (92 : UInt8) ∉ kv.2) :
    toList ⟨(pairs kvs).tail⟩ = kvs := by
  induction kvs with
  | nil => rw [toList]; rfl
  | cons kv kvs ih =>
    have hnext : next ⟨(pairs (kv :: kvs)).tail⟩ = (some (.ok kv), ⟨(pairs kvs).tail⟩) := by
      have := next_pairs (h kv (by simp)).1 (h kv (by simp)).2 kvs
      rw [pairs_cons, List.cons_append, List.tail_cons, List.append_assoc, List.cons_append]
      exact this
    rw [toList]
    split
    · rename_i heq
      rw [hnext] at heq
      cases heq
      rw [ih fun kv' hkv' => h kv' (by simp [hkv'])]
    · rename_i hno
      exact absurd hnext (hno _ _)

/-- A loop that ends well has visited all pairs. -/
theorem foldlM_toList {σ : Type} {f : σ → Bytes → Bytes → Except ProtocolError σ} (it : MapIter)
    {s s' : σ} (h : tryFold f it s = .ok s') :
    it.toList.foldlM (fun s kv => f s kv.1 kv.2) s = .ok s' := by
  induction hn : it.bytes.length using Nat.strong_induction_on generalizing it s with
  | _ n ih =>
    rw [tryFold] at h
    rw [toList]
    split at h
    · rename_i hnext
      cases h
      split
      · rename_i heq
        rw [hnext] at heq
        cases heq
      · rfl
    · cases h
    · rename_i key value it' hnext
      split at h
      · cases h
      · rename_i s₁ hs₁
        have hlt := next_ok_lt hnext
        split
        · rename_i heq
          rw [hnext] at heq
          cases heq
          rw [List.foldlM_cons, hs₁]
          exact ih _ (hn ▸ hlt) it' h rfl
        · rename_i hno
          exact absurd hnext (hno _ _)

/-- An invariant of the parsing loop. -/
theorem tryFold_invariant {σ : Type} {f : σ → Bytes → Bytes → Except ProtocolError σ}
    {Q : Bytes → Prop} {P : σ → Prop}
    (hf : ∀ s key value s', Q value → f s key value = .ok s' → P s → P s') (it : MapIter) (s : σ)
    (hQ : ∀ value, (∀ c ∈ value, c ∈ it.bytes) → (92 : UInt8) ∉ value → Q value) {s' : σ}
    (h : tryFold f it s = .ok s') (hP : P s) : P s' := by
  induction hn : it.bytes.length using Nat.strong_induction_on generalizing it s with
  | _ n ih =>
    rw [tryFold] at h
    split at h
    · cases h
      exact hP
    · cases h
    · rename_i key value it' hnext
      obtain ⟨hvalue, h92, hsub⟩ := next_ok hnext
      split at h
      · cases h
      · rename_i s₁ hs₁
        have hlt := next_ok_lt hnext
        exact ih _ (hn ▸ hlt) it' s₁ (fun v hv => hQ v fun c hc => hsub c (hv c hc)) h
          (hf s key value s₁ (hQ value hvalue h92) hs₁ hP) rfl

end MapIter

/-! ## Escaped output -/

/-- A byte the formatter writes as it is. -/
def isPrintable (c : UInt8) : Bool := c != 92 && ((33 ≤ c && c ≤ 126) || c == 32)

/-- A digit of a byte escape. -/
def hexDigit (n : UInt8) : UInt8 := (ascii "0123456789abcdef").getD n.toNat 0

/-- The pieces written for a byte that is not printable. -/
def escape (c : UInt8) : List Bytes :=
  if c = 92 then [ascii "\\\\"]
  else if c = 10 then [ascii "\\n"]
  else if c = 9 then [ascii "\\t"]
  else [ascii "\\x", [hexDigit (c >>> 4)], [hexDigit (c &&& 15)]]

/-- The pieces the formatter writes for a byte string: whole runs of printable bytes, and the
escape of every other byte. -/
def strFormatBytes : Bytes → List Bytes
  | [] => []
  | c :: s =>
    if isPrintable c then
      let valid := c :: s.takeWhile isPrintable
      match _h : s.dropWhile isPrintable with
      | [] => [valid]
      | n :: s' => valid :: (escape n ++ strFormatBytes s')
    else escape c ++ strFormatBytes s
termination_by s => s.length
decreasing_by
  · have := (List.dropWhile_sublist isPrintable (l := s)).length_le
    rw [_h] at this
    simp only [List.length_cons] at this ⊢
    omega
  · simp

/-- What is written for one byte. -/
def escaped (c : UInt8) : Bytes := if isPrintable c then [c] else (escape c).flatten

/-- The output is the concatenation of what is written for each byte. -/
theorem strFormatBytes_flatten (s : Bytes) : (strFormatBytes s).flatten = s.flatMap escaped := by
  have hrun : ∀ l : Bytes, (∀ c ∈ l, isPrintable c = true) → l.flatMap escaped = l := by
    intro l hl
    induction l with
    | nil => rfl
    | cons c l ih =>
      have hc := hl c (by simp)
      rw [List.flatMap_cons, ih fun d hd => hl d (by simp [hd])]
      simp [escaped, hc]
  have hsplit (s : Bytes) : s.flatMap escaped = s.takeWhile isPrintable ++
      (s.dropWhile isPrintable).flatMap escaped := by
    conv_lhs => rw [← List.takeWhile_append_dropWhile (p := isPrintable) (l := s)]
    rw [List.flatMap_append, hrun _ fun c hc => List.mem_takeWhile_imp hc]
  induction s using strFormatBytes.induct with
  | case1 => simp [strFormatBytes]
  | case2 c s hc hd =>
    rw [strFormatBytes, if_pos hc]
    split
    · rw [List.flatMap_cons, hsplit s, hd]; simp [escaped, hc]
    · rename_i n s' hd'; rw [hd] at hd'; cases hd'
  | case3 c s hc n s' hd ih =>
    have hn : isPrintable n = false := by
      have := List.head?_dropWhile_not isPrintable s
      rw [hd] at this
      simpa using this
    rw [strFormatBytes, if_pos hc]
    split
    · rename_i hd'; rw [hd] at hd'; cases hd'
    · rename_i n' s'' hd'
      rw [hd] at hd'
      cases hd'
      rw [List.flatMap_cons, hsplit s, hd]
      simp [escaped, hc, hn, ih]
  | case4 c s hc ih =>
    rw [strFormatBytes, if_neg hc, List.flatMap_cons]
    simp [escaped, hc, ih]

/-- Printable bytes are written as they are. -/
theorem strFormatBytes_printable {s : Bytes} (h : ∀ c ∈ s, isPrintable c = true) :
    (strFormatBytes s).flatten = s := by
  rw [strFormatBytes_flatten]
  induction s with
  | nil => rfl
  | cons c s ih =>
    have hc := h c (by simp)
    rw [List.flatMap_cons, ih fun d hd => h d (by simp [hd])]
    simp [escaped, hc]

/-- The bytes of an escape are printable, or backslashes. -/
theorem mem_escaped {c d : UInt8} (h : d ∈ escaped c) : isPrintable d = true ∨ d = 92 := by
  have hall : ∀ c, (escaped c).all (fun d => isPrintable d || d == 92) = true := by decide +kernel
  simpa using List.all_eq_true.1 (hall c) d h

theorem two_le_length_escaped {c : UInt8} (h : ¬ isPrintable c = true) : 2 ≤ (escaped c).length := by
  revert c
  decide +kernel

theorem length_le_flatMap_escaped (s : Bytes) : s.length ≤ (s.flatMap escaped).length := by
  induction s with
  | nil => exact le_rfl
  | cons c s ih =>
    have hc : 1 ≤ (escaped c).length := by
      by_cases h : isPrintable c = true
      · simp [escaped, h]
      · exact (two_le_length_escaped h).trans' (by decide)
    rw [List.flatMap_cons, List.length_append, List.length_cons]
    omega

/-- A string is written as it is only if it is printable. -/
theorem printable_of_flatMap_escaped {s : Bytes} (h : s.flatMap escaped = s) :
    ∀ c ∈ s, isPrintable c = true := by
  induction s with
  | nil => simp
  | cons c s ih =>
    have hlen := congrArg List.length h
    have hs := length_le_flatMap_escaped s
    rw [List.flatMap_cons, List.length_append, List.length_cons] at hlen
    have hc : isPrintable c = true := by
      by_contra hc
      have := two_le_length_escaped hc
      omega
    rw [List.flatMap_cons] at h
    have hone : escaped c = [c] := by simp [escaped, hc]
    rw [hone] at h
    intro d hd
    rcases List.mem_cons.1 hd with rfl | hd
    · exact hc
    · exact ih (List.cons.inj h).2 d hd

end Xash3d
