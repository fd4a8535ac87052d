import Abacus.Expr.Builtin
import Abacus.Expr.Fault

/-!
# Arithmetic on doubles

The operations of the calculator. Each has a value or says why it has none: an infinity that arises
from finite operands and a NaN that arises from numbers are faults.
-/

namespace Abacus.Expr

open Binary64

/-- The value of a named constant. -/
def constantValue : NamedConstant → Float
  | .pi => Float.ofBits 0x400921FB54442D18
  | .e => Float.ofBits 0x4005BF0A8B145769

/-- The double nearest to an integer literal. -/
def integerValue (n : Int) : Except ArithmeticFault Float :=
  match ofInt? n with
  | some x => .ok x
  | none => .error .integerTooLarge

def divide (x y : Float) : Except ArithmeticFault Float :=
  if y == 0 then .error .divisionByZero else .ok (x / y)

/-- The power with an infinite exponent. -/
def powerInfiniteExponent (x y : Float) : Float :=
  if x.abs == 1 then 1
  else if decide (0 < y) == decide (1 < x.abs) then y.abs
  else 0

/-- The power of an infinity; odd exponents keep the sign. -/
def powerOfInfinity (x y : Float) : Float :=
  if 0 < y then if isOdd y then x else x.abs
  else if isOdd y && isNegative x then -0.0 else 0

/-- The result of a power of finite numbers, which may overflow. -/
def checkedPower (r : Float) : Except ArithmeticFault Float :=
  if isInfinite r then .error .powerOverflow else .ok r

/-- The power operator. There is no value among the reals for a negative base and an exponent that
is not whole. -/
def power (x y : Float) : Except Invalid Float :=
  if y == 0 then .ok 1
  else if isNaN x then .ok x
  else if isNaN y then .ok (if x == 1 then 1 else y)
  else if isInfinite y then .ok (powerInfiniteExponent x y)
  else if isInfinite x then .ok (powerOfInfinity x y)
  else if x == 0 then
    if y < 0 then .error (.failed .zeroToNegative) else .ok (if isOdd y then x else 0)
  else if x < 0 && !isIntegral y then
    if isInfinite (x.abs.pow y) then .error (.failed .complexOverflow) else .error .notReal
  else
    let r := if x.abs == 1 then .ok 1 else checkedPower (x.abs.pow y)
    match r with
    | .ok r => .ok (if x < 0 && isOdd y then -r else r)
    | .error f => .error (.failed f)

/-- Checks the result of a function of one argument. -/
def checked (overflow : ArithmeticFault) (x r : Float) : Except ArithmeticFault Float :=
  if isNaN r && !isNaN x then .error .outsideDomain
  else if isInfinite r && isFinite x then .error overflow
  else .ok r

def logarithm (x : Float) : Except ArithmeticFault Float :=
  if isNaN x then .ok x
  else if x ≤ 0 then .error .outsideDomain
  else if isInfinite x then .ok x
  else .ok x.log

/-- The logarithm to a base is the quotient of two natural logarithms. -/
def logarithmTo (x b : Float) : Except ArithmeticFault Float := do
  let num ← logarithm x
  let den ← logarithm b
  divide num den

/-- The power function, in which `0` to the power `-∞` is infinite. -/
def powerFunction (x y : Float) : Except ArithmeticFault Float :=
  if isNaN x then .ok (if y == 0 then 1 else x)
  else if isNaN y then .ok (if x == 1 then 1 else y)
  else if isInfinite x then .ok (if y == 0 then 1 else powerOfInfinity x y)
  else if isInfinite y then .ok (powerInfiniteExponent x y)
  else
    let r := x.pow y
    if isNaN r then .error .outsideDomain
    else if isInfinite r then .error (if x == 0 then .outsideDomain else .outsideRange)
    else .ok r

/-- A double rounded to a whole one; infinities and NaN cannot be. -/
def rounded (round : Float → Int) (x : Float) : Except ArithmeticFault Float :=
  if isNaN x then .error .nanToInteger
  else if isInfinite x then .error .infiniteToInteger
  else .ok (ofInt (round x))

/-- The first of the arguments that no other one beats. -/
def select (beats : Float → Float → Bool) (x : Float) (xs : List Float) : Float :=
  xs.foldl (fun best y => if beats y best then y else best) x

/-- The value of a function. -/
def apply : Function → List Float → Except ArithmeticFault Float
  | .sin, [x] => checked .outsideDomain x x.sin
  | .cos, [x] => checked .outsideDomain x x.cos
  | .tan, [x] => checked .outsideDomain x x.tan
  | .asin, [x] => checked .outsideDomain x x.asin
  | .acos, [x] => checked .outsideDomain x x.acos
  | .atan, [x] => checked .outsideDomain x x.atan
  | .atan2, [y, x] => .ok (y.atan2 x)
  | .pow, [x, y] => powerFunction x y
  | .sqrt, [x] => checked .outsideDomain x x.sqrt
  | .abs, [x] => .ok x.abs
  | .log, [x] => logarithm x
  | .log, [x, b] => logarithmTo x b
  | .exp, [x] => checked .outsideRange x x.exp
  | .min, x :: y :: ys => .ok (select (fun a b => a < b) x (y :: ys))
  | .max, x :: y :: ys => .ok (select (fun a b => b < a) x (y :: ys))
  | .floor, [x] => rounded floor x
  | .ceil, [x] => rounded ceil x
  | .round, [x] => rounded floor (x + 0.5)
  | .trunc, [x] => rounded truncate x
  | _, _ => .error .wrongArity

end Abacus.Expr
