import Xash3d.Lib.PrefixCode
import Xash3d.Protocol.Text

/-!
# Bytes in the log

Bytes that came over the network are logged with escapes. The escapes are a prefix code: a backslash
starts one, and the byte after it tells how long it is. So what is logged is printable, and says
exactly which bytes they were (`log_faithful`).
-/

namespace Xash3d

open Lib

/-- The value of a digit of a byte escape. -/
def hexValue (d : UInt8) : UInt8 := if d ≤ 57 then d - 48 else d - 87

/-- Read what was written for one byte. -/
def unescape : Bytes → Option (UInt8 × Bytes)
  | 92 :: 92 :: t => some (92, t)
  | 92 :: 110 :: t => some (10, t)
  | 92 :: 116 :: t => some (9, t)
  | 92 :: 120 :: h :: l :: t => some (hexValue h * 16 + hexValue l, t)
  | c :: t => some (c, t)
  | [] => none

/-- What is written for a byte, by its kind. -/
theorem escaped_eq (c : UInt8) : escaped c =
    if c = 92 then ascii "\\\\"
    else if 32 ≤ c ∧ c ≤ 126 then [c]
    else if c = 10 then ascii "\\n"
    else if c = 9 then ascii "\\t"
    else ascii "\\x" ++ [hexDigit (c / 16), hexDigit (c % 16)] := by
  revert c
  decide +kernel

theorem hexValue_hexDigit (c : UInt8) :
    hexValue (hexDigit (c / 16)) * 16 + hexValue (hexDigit (c % 16)) = c := by
  revert c
  decide +kernel

/-- A byte that is not a backslash is read as it is. -/
theorem unescape_plain {c : UInt8} (h : c ≠ 92) (t : Bytes) : unescape (c :: t) = some (c, t) := by
  unfold unescape
  split <;> simp_all

theorem unescape_escaped (c : UInt8) (t : Bytes) : unescape (escaped c ++ t) = some (c, t) := by
  rw [escaped_eq]
  split_ifs with hslash hprint hline htab
  · rw [hslash]
    rfl
  · exact unescape_plain hslash t
  · rw [hline]
    rfl
  · rw [htab]
    rfl
  · show some (hexValue (hexDigit (c / 16)) * 16 + hexValue (hexDigit (c % 16)), t) = some (c, t)
    rw [hexValue_hexDigit]

theorem escapes : PrefixCode escaped unescape where
  read_word := unescape_escaped
  read_nil := rfl

/-- The output is printable ASCII, the escapes of the bytes one after another, and different byte
strings have different outputs. -/
theorem log_faithful :
    (∀ s : Bytes, ∀ c ∈ (strFormatBytes s).flatten, 32 ≤ c ∧ c ≤ 126) ∧
    (∀ s : Bytes, (strFormatBytes s).flatten = s.flatMap escaped) ∧
    (∀ c : UInt8, escaped c =
      if c = 92 then ascii "\\\\"
      else if 32 ≤ c ∧ c ≤ 126 then [c]
      else if c = 10 then ascii "\\n"
      else if c = 9 then ascii "\\t"
      else ascii "\\x" ++ [hexDigit (c / 16), hexDigit (c % 16)]) ∧
    Function.Injective fun s : Bytes => (strFormatBytes s).flatten := by
  refine ⟨?_, strFormatBytes_flatten, escaped_eq, ?_⟩
  · intro s c hc
    have hrange : ∀ d : UInt8, isPrintable d = true ∨ d = 92 → 32 ≤ d ∧ d ≤ 126 := by
      decide +kernel
    rw [strFormatBytes_flatten, List.mem_flatMap] at hc
    obtain ⟨b, -, hb⟩ := hc
    exact hrange c (mem_escaped hb)
  · simp only [strFormatBytes_flatten]
    exact escapes.flatMap_injective

end Xash3d
