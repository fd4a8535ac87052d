import Abacus.Decimal.Shortest
import Abacus.Numeral.Conversion

/-!
# Reports

What is shown for a result: a list of labels, each with a description. Whole numbers that doubles
represent safely are shown in the four common bases, other numbers in one line.
-/

namespace Abacus

/-- One line of a report: the text of a value and what it is. -/
structure Item where
  label : Text
  description : Text
deriving DecidableEq, Repr

namespace Report

/-- Up to this magnitude an integer and both its neighbours are doubles. -/
def safeLimit : Nat := Nat.pow 2 53 - 1

def isSafeInt (n : Int) : Bool := n.natAbs ≤ safeLimit

/-- Whether a double is a whole number within the safe range. -/
def isSafe (x : Float) : Bool := Binary64.isIntegral x && isSafeInt (Binary64.truncate x)

/-- Whole doubles from this magnitude on are shown with an exponent. -/
def wholeLimit : Nat := Nat.pow 10 21

/-- The text of a double: a whole one below the limit as an integer. -/
def number (x : Float) : Text :=
  if Binary64.isIntegral x && (Binary64.truncate x).natAbs < wholeLimit then
    Radix.toDec (Binary64.truncate x)
  else Decimal.shown x

def wholeItems (n : Int) : List Item :=
  [⟨Radix.toDec n, "Dec".toList⟩, ⟨Radix.toHex n, "Hex".toList⟩, ⟨Radix.toBin n, "Bin".toList⟩,
    ⟨Radix.toOct n, "Oct".toList⟩]

def otherItem (label : Text) : Item := ⟨label, "Dec (float or large)".toList⟩

/-- The report of a double. -/
def ofFloat (x : Float) : List Item :=
  if isSafe x then wholeItems (Binary64.truncate x) else [otherItem (number x)]

/-- The report of an integer. -/
def ofInt (n : Int) : List Item :=
  if isSafeInt n then wholeItems n else [otherItem (Radix.toDec n)]

/-- The report of a conversion; the target base comes first. -/
def ofConversion (c : Conversion) : List Item :=
  (match c.first with
    | some t => [⟨t, "Target".toList⟩]
    | none => []) ++
  [⟨c.hex, "Hex".toList⟩, ⟨c.dec, "Dec".toList⟩, ⟨c.bin, "Bin".toList⟩, ⟨c.oct, "Oct".toList⟩]

end Report

end Abacus
