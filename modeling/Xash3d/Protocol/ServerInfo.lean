import Xash3d.Lib.Flags
import Xash3d.Protocol.Text

/-!
# Regions, server types, operating systems and flags
-/

namespace Xash3d

open Lib

/-- The region of the world in which the server is located. -/
inductive Region where
  | usEastCoast
  | usWestCoast
  | southAmerica
  | europe
  | asia
  | australia
  | middleEast
  | africa
  | restOfTheWorld
  deriving DecidableEq

namespace Region

instance : Inhabited Region := ⟨restOfTheWorld⟩

/-- The wire value of a region. -/
def toU8 : Region → UInt8
  | usEastCoast => 0x00
  | usWestCoast => 0x01
  | southAmerica => 0x02
  | europe => 0x03
  | asia => 0x04
  | australia => 0x05
  | middleEast => 0x06
  | africa => 0x07
  | restOfTheWorld => 0xff

def tryFrom (value : UInt8) : Except CursorError Region :=
  if value = 0x00 then .ok usEastCoast
  else if value = 0x01 then .ok usWestCoast
  else if value = 0x02 then .ok southAmerica
  else if value = 0x03 then .ok europe
  else if value = 0x04 then .ok asia
  else if value = 0x05 then .ok australia
  else if value = 0x06 then .ok middleEast
  else if value = 0x07 then .ok africa
  else if value = 0xff then .ok restOfTheWorld
  else .error .invalidNumber

@[simp] theorem tryFrom_toU8 (r : Region) : tryFrom r.toU8 = .ok r := by cases r <;> rfl

end Region

/-- Game server type. -/
inductive ServerType where
  | dedicated
  | local
  | proxy
  | unknown
  deriving DecidableEq

namespace ServerType

instance : Inhabited ServerType := ⟨unknown⟩

/-- The type of a letter. -/
def ofU8 (value : UInt8) : ServerType :=
  if value = 100 then dedicated
  else if value = 108 then .local
  else if value = 112 then proxy
  else unknown

/-- The letter of a type in a binary packet. -/
def toU8 : ServerType → UInt8
  | dedicated => 100
  | .local => 108
  | proxy => 112
  | unknown => 0

@[simp] theorem ofU8_toU8 (t : ServerType) : ofU8 t.toU8 = t := by cases t <;> rfl

/-- The type of a map string. -/
def ofMapStr : Bytes → ServerType
  | [c] => ofU8 c
  | _ => unknown

end ServerType

/-- The operating system on which the game server runs. -/
inductive Os where
  | unknown
  | linux
  | windows
  | mac
  deriving DecidableEq

namespace Os

instance : Inhabited Os := ⟨unknown⟩

/-- The system of a letter. -/
def ofU8 (value : UInt8) : Os :=
  if value = 108 then linux
  else if value = 119 then windows
  else if value = 109 then mac
  else unknown

/-- The letter of a system in a binary packet. -/
def toU8 : Os → UInt8
  | unknown => 0
  | linux => 108
  | windows => 119
  | mac => 109

@[simp] theorem ofU8_toU8 (os : Os) : ofU8 os.toU8 = os := by cases os <;> rfl

/-- The system of a map string. -/
def ofMapStr : Bytes → Os
  | [c] => ofU8 c
  | _ => unknown

end Os

/-- Additional server flags. -/
abbrev ServerFlags := Flags 8

namespace ServerFlags

/-- Server has bots. -/
def bots : ServerFlags := .single 0
/-- Server is behind a password. -/
def password : ServerFlags := .single 1
/-- Server using anti-cheat. -/
def secure : ServerFlags := .single 2
/-- Server is LAN. -/
def lan : ServerFlags := .single 3
/-- Server behind NAT. -/
def nat : ServerFlags := .single 4

end ServerFlags

/-- Additional filter flags. -/
abbrev FilterFlags := Flags 16

namespace FilterFlags

/-- Servers running dedicated. -/
def dedicated : FilterFlags := .single 0
/-- Servers using anti-cheat technology. -/
def secure : FilterFlags := .single 1
/-- Servers that are not password protected. -/
def password : FilterFlags := .single 2
/-- Servers that are empty. -/
def empty : FilterFlags := .single 3
/-- Servers that are not full. -/
def full : FilterFlags := .single 4
/-- Servers that are empty. -/
def noplayers : FilterFlags := .single 5
/-- Servers that are behind NAT. -/
def nat : FilterFlags := .single 6
/-- Servers that are LAN. -/
def lan : FilterFlags := .single 7
/-- Servers that has bots. -/
def bots : FilterFlags := .single 8

/-- All named flags. -/
def all : FilterFlags := ⟨0x1ff⟩

theorem has_all (i : ℕ) : all.has i = decide (i < 9) := by
  by_cases hi : i < 16
  · revert i; decide
  · rw [Flags.has_of_le (by omega)]
    simp; omega

end FilterFlags

end Xash3d
