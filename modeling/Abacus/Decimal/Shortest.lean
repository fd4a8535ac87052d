import Abacus.Binary64.Basic
import Abacus.Text.Basic

/-!
# Shortest decimal text of a double

Of all decimals that round to a double the one with the fewest digits is shown, and of those the one
nearest to the double; of two equally near ones the one with an even last digit. Small and large
magnitudes are shown with an exponent.
-/

namespace Abacus.Decimal

open Binary64

/-- The reals that round to a finite double other than zero, as fractions of one denominator: the
double lies at `mid`, the interval reaches from `low` to `high`. -/
structure Interval where
  low : Nat
  mid : Nat
  high : Nat
  den : Nat
  closed : Bool

/-- Below a power of two the doubles lie twice as dense. -/
def Interval.ofFloat (x : Float) : Interval :=
  let m := significand x
  let e := exponent x - 2
  let up := Nat.pow 2 e.toNat
  let low := if m = Nat.pow 2 52 ∧ 1 < field x then 4 * m - 1 else 4 * m - 2
  ⟨low * up, 4 * m * up, (4 * m + 2) * up, Nat.pow 2 (-e).toNat, m % 2 == 0⟩

/-- Whether `n` units of `num / den` lie in the interval. -/
def Interval.contains (i : Interval) (n num den : Nat) : Bool :=
  let v := n * num * i.den
  if i.closed then i.low * den ≤ v && v ≤ i.high * den
  else i.low * den < v && v < i.high * den

/-- The number of decimal digits of a natural number, at least one. -/
def digitCount (n : Nat) : Nat := (Nat.toDigits 10 n).length

/-- The least number of places by which a fraction has to be moved to reach one. -/
def leadingPlaces (num den : Nat) : Nat → Nat → Nat
  | 0, k => k
  | fuel + 1, k => if den ≤ num * Nat.pow 10 k then k else leadingPlaces num den fuel (k + 1)

/-- The exponent `k` with `10 ^ (k - 1) ≤ num / den < 10 ^ k`. -/
def decimalExponent (num den : Nat) : Int :=
  if den ≤ num then digitCount (num / den) else 1 - leadingPlaces num den 400 0

/-- The numerator and denominator of `10 ^ e`. -/
def powerOfTen (e : Int) : Nat × Nat :=
  if e < 0 then (1, Nat.pow 10 (-e).toNat) else (Nat.pow 10 e.toNat, 1)

/-- The multiple of `10 ^ e` that lies in the interval and is nearest to the double, if any. Only
the two neighbours of the double on this grid can be. -/
def onGrid? (i : Interval) (e : Int) : Option Nat :=
  let u := powerOfTen e
  let below := i.mid * u.2 / (i.den * u.1)
  let inBelow := i.contains below u.1 u.2
  let inAbove := i.contains (below + 1) u.1 u.2
  if inBelow && inAbove then
    let twice := 2 * i.mid * u.2
    let middle := (2 * below + 1) * (i.den * u.1)
    if twice < middle || (twice == middle && below % 2 == 0) then some below
    else some (below + 1)
  else if inBelow then some below
  else if inAbove then some (below + 1)
  else none

/-- The decimal on the coarsest grid that has one, as digits and the exponent of the grid. -/
def search (i : Interval) (k : Int) : Nat → Nat → Nat × Int
  | 0, n => (i.mid / i.den, k - n)
  | fuel + 1, n =>
      match onGrid? i (k - n) with
      | some d => (d, k - n)
      | none => search i k fuel (n + 1)

/-- The digits of the shortest decimal of a finite double other than zero, with the exponent `k`
that makes `0.digits * 10 ^ k` of them. -/
def shortest (x : Float) : List Char × Int :=
  let i := Interval.ofFloat x
  let k := decimalExponent i.mid i.den
  let r := search i k 20 1
  let ds := Nat.toDigits 10 r.1
  (((ds.reverse.dropWhile (· == '0')).reverse), r.2 + ds.length)

/-- Magnitudes from `10 ^ (pointLeast - 1)` up to `10 ^ pointMost` are shown without an exponent. -/
def pointLeast : Int := -3
def pointMost : Int := 16

/-- Digits with a decimal point in its place; a whole number keeps one zero behind the point. -/
def positional (ds : List Char) (k : Int) : Text :=
  if k ≤ 0 then ['0', '.'] ++ List.replicate (-k).toNat '0' ++ ds
  else if ds.length ≤ k.toNat then ds ++ List.replicate (k.toNat - ds.length) '0' ++ ['.', '0']
  else ds.take k.toNat ++ ['.'] ++ ds.drop k.toNat

/-- An exponent has a sign and at least two digits. -/
def exponentText (e : Int) : Text :=
  let ds := Nat.toDigits 10 e.natAbs
  'e' :: (if e < 0 then '-' else '+') :: (if ds.length < 2 then '0' :: ds else ds)

def scientific (ds : List Char) (k : Int) : Text :=
  (match ds with
    | [] => []
    | [d] => [d]
    | d :: r => d :: '.' :: r) ++ exponentText (k - 1)

def shownMagnitude (x : Float) : Text :=
  if significand x = 0 then ['0', '.', '0']
  else
    let r := shortest x
    if pointLeast ≤ r.2 ∧ r.2 ≤ pointMost then positional r.1 r.2 else scientific r.1 r.2

/-- The text of a double. -/
def shown (x : Float) : Text :=
  if isNaN x then "nan".toList
  else
    (if isNegative x then ['-'] else []) ++
      (if isFinite x then shownMagnitude x else "inf".toList)

end Abacus.Decimal
