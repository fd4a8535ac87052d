import Abacus.Decimal.Reader
import Abacus.Expr.Basic
import Abacus.Radix.Digits

/-!
# Number literals

An integer is written with figures, or with a mark and digits of base two, eight or sixteen; single
low lines may stand between digits and behind a mark. Figures with a leading zero are an integer
only if all of them are zero. A point or an exponent makes a literal a double, a final `j` an
imaginary number. A literal may be followed at once by a keyword that continues an expression, but
not by any other name.
-/

namespace Abacus.Expr

open Radix (isDigitBelow)

/-- Whether a character can belong to a name. -/
def isNamePart (c : Char) : Bool := c.isAlphanum || c == '_' || 128 ≤ c.toNat

/-- The keyword beginnings that may follow a literal without a blank. -/
def continuations : List Text :=
  ["and".toList, "else".toList, "for".toList, "if".toList, "in".toList, "is".toList,
    "or".toList, "not".toList]

/-- Whether a literal may end before the text. -/
def mayFollowNumber (s : Text) : Bool :=
  continuations.any (Text.startsWith s) || !(s.head?.any isNamePart)

/-- The digits of a marked literal and the text behind them. -/
def markedDigits? (base : Nat) (s : Text) : Option (List Char × Text) :=
  let run := s.takeWhile fun c => isDigitBelow base c || c == '_'
  let rest := s.dropWhile fun c => isDigitBelow base c || c == '_'
  let spaced (a b : Char) := a != '_' || b != '_'
  if run.isEmpty || run.getLast? == some '_' || !((run.zip run.tail).all fun p => spaced p.1 p.2) ||
      rest.head?.any Char.isDigit || !mayFollowNumber rest then none
  else some (run.filter (· != '_'), rest)

/-- The number that digits of a base denote, in either case. -/
def digitsValue (base : Nat) (ds : List Char) : Nat :=
  ds.foldl (fun n c => n * base + (Radix.digitValue? c.toLower).getD 0) 0

/-- The base of the mark that a literal starts with. -/
def literalBase? : Text → Option Nat
  | '0' :: c :: _ =>
      if c == 'x' || c == 'X' then some 16
      else if c == 'o' || c == 'O' then some 8
      else if c == 'b' || c == 'B' then some 2
      else none
  | _ => none

/-- An integer literal of figures; its value has at most 4300 digits. -/
def figuresValue? (ds : List Char) : Option Constant :=
  if ds.all (· == '0') then some (.integer 0)
  else if ds.head? == some '0' || Text.digitLimit < ds.length then none
  else some (.integer (Decimal.ofFigures ds))

/-- The exponent of a literal and the text behind it. A letter `e` without figures is no exponent,
which is right only where a keyword follows. -/
def literalExponent? (s : Text) : Option (Option Int × Text) :=
  match s with
  | c :: r =>
      if c == 'e' || c == 'E' then
        let signed := r.head? == some '-' || r.head? == some '+'
        let digits := if signed then r.tail else r
        if digits.head?.any Char.isDigit then
          (Decimal.takeFigures? digits).map fun p =>
            let n : Int := Decimal.ofFigures p.1
            (some (if r.head? == some '-' then -n else n), p.2)
        else if !signed && mayFollowNumber s then some (none, s)
        else none
      else some (none, s)
  | [] => some (none, [])

/-- The constant that the parts of a decimal literal make: a double if there is a point or an
exponent, an imaginary number before a `j`, an integer otherwise. -/
def decimalConstant? (whole : List Char) (part? : Option (List Char)) (s : Text) :
    Option (Constant × Text) :=
  match literalExponent? s with
  | none => none
  | some (e?, rest) =>
      let x := (Decimal.Unsigned.mk whole (part?.getD []) (e?.getD 0)).toFloat false
      match rest with
      | 'j' :: r => if mayFollowNumber r then some (.imaginary x, r) else none
      | 'J' :: r => if mayFollowNumber r then some (.imaginary x, r) else none
      | r =>
          if !mayFollowNumber r then none
          else if part?.isSome || e?.isSome then some (.real x, r)
          else (figuresValue? whole).map fun c => (c, r)

/-- The literal at the start of a text that begins with a figure, or with a point and a figure. -/
def numberAt? (s : Text) : Option (Constant × Text) :=
  match literalBase? s with
  | some base =>
      (markedDigits? base (s.drop 2)).map fun p => (.integer (digitsValue base p.1), p.2)
  | none =>
      match Decimal.takeFigures? s with
      | none => none
      | some (whole, '.' :: r) =>
          match Decimal.takeFigures? r with
          | none => none
          | some (part, rest) => decimalConstant? whole (some part) rest
      | some (whole, rest) => decimalConstant? whole none rest

end Abacus.Expr
