import Abacus.Radix.Base
import Abacus.Text.Basic

/-!
# Numerals

A numeral is a signed integer together with the way it was written and the base it is asked to be
shown in.
-/

namespace Abacus

/-- The ways of writing a numeral. -/
inductive Spelling where
  /-- The base, a hash and the digits: `16#FF`. -/
  | radixHash
  /-- The word `base`, the base and the digits: `base 2 1010`. -/
  | baseWord
  /-- Figures that start with a zero, read as hexadecimal. -/
  | leadingZero
  /-- A mark `0x`, `0b` or `0o` in front. -/
  | marked
  /-- A letter `h`, `b` or `o` behind. -/
  | suffixed
  /-- Figures alone. -/
  | decimal
  /-- Hexadecimal digits alone, at least one of them a letter. -/
  | bareHex
deriving DecidableEq, Repr

namespace Spelling

def all : List Spelling :=
  [.radixHash, .baseWord, .leadingZero, .marked, .suffixed, .decimal, .bareHex]

/-- The name under which a way of writing is reported. -/
def name : Spelling → Text
  | .radixHash => "radix_hash".toList
  | .baseWord => "base_word".toList
  | .leadingZero => "leading_zero".toList
  | .marked => "prefixed".toList
  | .suffixed => "suffixed".toList
  | .decimal => "decimal".toList
  | .bareHex => "bare_hex".toList

def ofName? (s : Text) : Option Spelling := all.find? (·.name == s)

@[simp] theorem ofName?_name (w : Spelling) : ofName? w.name = some w := by
  cases w <;> rfl

end Spelling

structure Numeral where
  value : Int
  base : Base
  spelling : Spelling
  target : Option Base
deriving DecidableEq, Repr

namespace Numeral

def isNegative (n : Numeral) : Bool := n.value < 0

end Numeral

end Abacus
