import Abacus.Binary64.Basic
import Abacus.Text.Basic
import Abacus.Text.Digit
import Abacus.Text.Letter

/-!
# Reading decimals

A decimal is digits with an optional point and an optional exponent; its value is the nearest
double. A decimal given on its own may have a sign, blanks around it and low lines between digits,
and may name an infinity or NaN.
-/

namespace Abacus.Decimal

open Binary64

/-- The number that figures denote. -/
def ofFigures (ds : List Char) : Nat := ds.foldl (fun n c => n * 10 + (c.toNat - 48)) 0

/-- The double nearest to `m * 10 ^ e`. Exponents far outside the range of doubles are decided
without computing the power. -/
def ofScientific (negative : Bool) (m : Nat) (e : Int) : Float :=
  let size : Int := (Nat.log2 m : Int) / 4 + e
  if m = 0 then ofMagnitude negative 0
  else if 400 < size then infinity negative
  else if (Nat.log2 m : Int) + e < -400 then ofMagnitude negative 0
  else if e < 0 then ofRatio negative m (Nat.pow 10 (-e).toNat)
  else ofRatio negative (m * Nat.pow 10 e.toNat) 1

/-- A decimal without sign: figures before and behind the point, and the exponent. -/
structure Unsigned where
  whole : List Char
  part : List Char
  exponent : Int

def Unsigned.toFloat (d : Unsigned) (negative : Bool) : Float :=
  ofScientific negative (ofFigures (d.whole ++ d.part)) (d.exponent - d.part.length)

/-- Takes a run of figures in which single low lines stand between figures only. -/
def takeFigures? (s : Text) : Option (List Char × Text) :=
  let run := s.takeWhile fun c => c.isDigit || c == '_'
  let rest := s.dropWhile fun c => c.isDigit || c == '_'
  let spaced (a b : Char) := a != '_' || b != '_'
  if run.head? == some '_' || run.getLast? == some '_' then none
  else if (run.zip run.tail).all fun p => spaced p.1 p.2 then
    some (run.filter (· != '_'), rest)
  else none

/-- The exponent at the end of a decimal, zero if it is missing. -/
def readExponent? : Text → Option Int
  | [] => some 0
  | c :: r =>
      if c == 'e' || c == 'E' then
        let negative := r.head? == some '-'
        let digits := if negative || r.head? == some '+' then r.tail else r
        match takeFigures? digits with
        | some (d :: ds, []) =>
            let n : Int := ofFigures (d :: ds)
            some (if negative then -n else n)
        | _ => none
      else none

/-- A decimal without sign; it has a figure before or behind the point. -/
def readUnsigned? (s : Text) : Option Unsigned :=
  match takeFigures? s with
  | none => none
  | some (whole, '.' :: rest) =>
      match takeFigures? rest with
      | none => none
      | some (part, rest) =>
          if whole.isEmpty && part.isEmpty then none
          else (readExponent? rest).map fun e => ⟨whole, part, e⟩
  | some (whole, rest) =>
      if whole.isEmpty then none else (readExponent? rest).map fun e => ⟨whole, [], e⟩

/-- Decimal digits of any script as figures. -/
def asFigure (c : Char) : Char :=
  match Text.decimalValue? c with
  | some d => Char.ofNat (48 + d)
  | none => c

/-- The sign of a text on its own and its characters behind the sign; the flag tells a minus. -/
def signAndBody (s : Text) : Bool × Text :=
  match (Text.trimWhile Text.isSpacing s).map asFigure with
  | '-' :: t => (true, t)
  | '+' :: t => (false, t)
  | t => (false, t)

/-- The whole number that a text on its own denotes. -/
def readInt? (s : Text) : Option Int :=
  let (negative, body) := signAndBody s
  match takeFigures? body with
  | some (d :: ds, []) =>
      let n : Int := ofFigures (d :: ds)
      if Text.digitLimit < (d :: ds).length then none else some (if negative then -n else n)
  | _ => none

/-- The double that a text on its own denotes. -/
def read? (s : Text) : Option Float :=
  let (negative, body) := signAndBody s
  let named := body.map Char.toLower
  if named = "inf".toList ∨ named = "infinity".toList then some (infinity negative)
  else if named = "nan".toList then some nan
  else (readUnsigned? body).map (·.toFloat negative)

end Abacus.Decimal
