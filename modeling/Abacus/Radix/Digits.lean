import Abacus.Numeral.Fault
import Abacus.Radix.Base
import Abacus.Text.Case

/-!
# Digits and naturals

The digits of a natural number in a base, and the natural number that digits denote. Digits are the
ten figures and the small letters; reading ignores case. Decimal figures are made in blocks.
-/

namespace Abacus.Radix

open Numeral (Fault)

/-- The digits in the order of their values. -/
def alphabet : List Char :=
  ['0', '1', '2', '3', '4', '5', '6', '7', '8', '9', 'a', 'b', 'c', 'd', 'e', 'f', 'g', 'h', 'i',
    'j', 'k', 'l', 'm', 'n', 'o', 'p', 'q', 'r', 's', 't', 'u', 'v', 'w', 'x', 'y', 'z']

/-- The digit of a value. -/
def digitChar (d : Nat) : Char := alphabet.getD d '?'

/-- The value of a digit. -/
def digitValue? (c : Char) : Option Nat :=
  if 48 ≤ c.toNat ∧ c.toNat < 58 then some (c.toNat - 48)
  else if 97 ≤ c.toNat ∧ c.toNat < 123 then some (c.toNat - 87)
  else none

theorem digitValue?_digitChar {d : Nat} (h : d < 36) : digitValue? (digitChar d) = some d := by
  have all : ∀ e ∈ List.range 36, digitValue? (digitChar e) = some e := by decide
  exact all d (List.mem_range.2 h)

/-- Whether the character is a digit below a bound, in either case. -/
def isDigitBelow (bound : Nat) (c : Char) : Bool := (digitValue? c.toLower).any (· < bound)

/-- The digits of a number, most significant first, in front of further digits. -/
def digitsOnto (b : Base) (m : Nat) (rest : Text) : Text :=
  if m < b.val then digitChar m :: rest
  else digitsOnto b (m / b.val) (digitChar (m % b.val) :: rest)
termination_by m
decreasing_by
  have := b.two_le
  exact Nat.div_lt_self (by omega) (by omega)

/-- The digits of a number: one zero for zero, otherwise no leading zero. -/
def digits (b : Base) (m : Nat) : Text := digitsOnto b m []

/-- Decimal figures are made in blocks of this length, with one long division for a block. -/
def blockLength : Nat := 18

/-- The figures of a number below `10 ^ blockLength`, with zeros in front up to a whole block. -/
def block (m : Nat) : Text :=
  List.replicate (blockLength - (digits .ten m).length) '0' ++ digits .ten m

/-- The decimal figures of a number in front of further figures, block by block. -/
def figuresOnto (m : Nat) (rest : Text) : Text :=
  if m < Nat.pow 10 blockLength then digits .ten m ++ rest
  else figuresOnto (m / Nat.pow 10 blockLength) (block (m % Nat.pow 10 blockLength) ++ rest)
termination_by m
decreasing_by
  have : 1 < Nat.pow 10 blockLength := by decide
  exact Nat.div_lt_self (by omega) this

/-- The decimal figures of a number of any size. -/
def figures (m : Nat) : Text := figuresOnto m []

/-- Takes one digit into the number read so far. -/
def readDigit (base : Int) (m : Nat) (c : Char) : Except Fault Nat :=
  match digitValue? c with
  | some d => if (d : Int) < base then .ok (m * base.toNat + d) else .error (.invalidDigit c base)
  | none => .error (.invalidDigit c base)

/-- The number that digits denote. The first character that is no digit of the base is at fault. -/
def readDigits (base : Int) (s : Text) : Except Fault Nat :=
  if s.isEmpty then .error (.unrecognized s)
  else (Text.lower s).foldlM (readDigit base) 0

/-- Splits one sign off a text; the flag tells a minus. -/
def splitSign : Text → Bool × Text
  | '-' :: s => (true, s)
  | '+' :: s => (false, s)
  | s => (false, s)

/-- The integer with a given sign. -/
def signed (negative : Bool) (m : Nat) : Int := if negative then -(m : Int) else m

/-- The integer that a sign and digits denote; low lines are passed over. -/
def readSigned (base : Int) (s : Text) : Except Fault Int :=
  let parts := splitSign (Text.trim (s.filter (· != '_')))
  (readDigits base parts.2).map (signed parts.1)

end Abacus.Radix
