/-!
# Double precision numbers

A finite double is a sign, a significand below `2 ^ 53` and an exponent: its magnitude is
`significand * 2 ^ exponent`. A ratio of naturals is rounded to the nearest double, and a tie goes
to the even significand.
-/

namespace Abacus.Binary64

-- powers are written without `^`, which an algebraic structure in scope would take for its own

/-- The sign bit of a double. -/
def isNegative (x : Float) : Bool := Nat.pow 2 63 ≤ x.toBits.toNat

/-- The exponent field: zero for subnormal numbers, 2047 for infinities and NaN. -/
def field (x : Float) : Nat := x.toBits.toNat / Nat.pow 2 52 % Nat.pow 2 11

def fraction (x : Float) : Nat := x.toBits.toNat % Nat.pow 2 52

def isFinite (x : Float) : Bool := field x != 2047

def isNaN (x : Float) : Bool := field x == 2047 && fraction x != 0

def isInfinite (x : Float) : Bool := field x == 2047 && fraction x == 0

def significand (x : Float) : Nat :=
  if field x = 0 then fraction x else Nat.pow 2 52 + fraction x

/-- The exponent of the unit in the last place. -/
def exponent (x : Float) : Int := (max (field x) 1 : Nat) - 1075

/-- The double with a sign and the bits of its magnitude. -/
def ofMagnitude (negative : Bool) (bits : Nat) : Float :=
  Float.ofBits (UInt64.ofNat (if negative then Nat.pow 2 63 + bits else bits))

def infinity (negative : Bool) : Float := ofMagnitude negative (2047 * Nat.pow 2 52)

def nan : Float := Float.ofBits 0x7FF8000000000000

/-- The quotient to the nearest natural, ties to the even one. -/
def roundDiv (num den : Nat) : Nat :=
  let q := num / den
  let r := num % den
  if 2 * r < den then q
  else if den < 2 * r then q + 1
  else q + q % 2

/-- The quotient of `num / den` by a power of two. -/
def scaledRatio (num den : Nat) (e : Int) : Nat × Nat :=
  if e < 0 then (num * Nat.pow 2 (-e).toNat, den) else (num, den * Nat.pow 2 e.toNat)

/-- The exponent for which the ratio has a significand of 53 bits, or the least exponent. -/
def ratioExponent (num den : Nat) : Int :=
  let e : Int := (Nat.log2 num : Int) - Nat.log2 den - 52
  let s := scaledRatio num den e
  max (-1074) (if s.1 < Nat.pow 2 52 * s.2 then e - 1 else e)

/-- The double nearest to a ratio with a positive denominator. A significand that rounds up to
`2 ^ 53` carries into the exponent field, and what exceeds the finite doubles is infinite. -/
def ofRatio (negative : Bool) (num den : Nat) : Float :=
  if num = 0 then ofMagnitude negative 0
  else
    let e := ratioExponent num den
    let s := scaledRatio num den e
    ofMagnitude negative
      (min ((e + 1074).toNat * Nat.pow 2 52 + roundDiv s.1 s.2) (2047 * Nat.pow 2 52))

/-- The double nearest to an integer. -/
def ofInt (n : Int) : Float := ofRatio (n < 0) n.natAbs 1

/-- The double nearest to an integer, unless the integer exceeds all of them. -/
def ofInt? (n : Int) : Option Float :=
  if isFinite (ofInt n) then some (ofInt n) else none

/-! ## Integral parts -/

/-- The integral part of the magnitude, and whether something is cut off. -/
def magnitudeParts (x : Float) : Nat × Bool :=
  if exponent x < 0 then
    (significand x / Nat.pow 2 (-exponent x).toNat,
      significand x % Nat.pow 2 (-exponent x).toNat != 0)
  else (significand x * Nat.pow 2 (exponent x).toNat, false)

/-- Whether a double is a whole number. -/
def isIntegral (x : Float) : Bool := isFinite x && !(magnitudeParts x).2

/-- The integer next to a finite double towards zero. -/
def truncate (x : Float) : Int :=
  if isNegative x then -((magnitudeParts x).1 : Int) else (magnitudeParts x).1

/-- The greatest integer not above a finite double. -/
def floor (x : Float) : Int :=
  if isNegative x && (magnitudeParts x).2 then truncate x - 1 else truncate x

/-- The least integer not below a finite double. -/
def ceil (x : Float) : Int :=
  if !isNegative x && (magnitudeParts x).2 then truncate x + 1 else truncate x

/-- Whether a double is an odd integer. -/
def isOdd (x : Float) : Bool := isIntegral x && truncate x % 2 != 0

end Abacus.Binary64
