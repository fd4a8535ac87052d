import Abacus.Radix.Digits

/-!
# Renderings of integers

An integer is shown in a base with its sign first, then the mark of the base, then the digits. Bases
two, eight and sixteen have a mark; hexadecimal digits are capitals.
-/

namespace Abacus.Radix

/-- The mark in front of the digits of a base. -/
def mark (b : Base) : Text :=
  if b.val = 16 then ['0', 'x'] else if b.val = 2 then ['0', 'b'] else if b.val = 8 then ['0', 'o']
  else []

/-- The digits of a number as they are shown. -/
def shownDigits (b : Base) (m : Nat) : Text :=
  if b.val = 10 then figures m
  else if b.val = 16 then (digits b m).map Char.toUpper
  else digits b m

/-- The rendering of an integer in a base. -/
def render (b : Base) (n : Int) : Text :=
  (if n < 0 then ['-'] else []) ++ mark b ++ shownDigits b n.natAbs

def toHex (n : Int) : Text := render .sixteen n
def toDec (n : Int) : Text := render .ten n
def toBin (n : Int) : Text := render .two n
def toOct (n : Int) : Text := render .eight n

end Abacus.Radix
