import Abacus.Numeral.Basic
import Abacus.Numeral.Target
import Abacus.Radix.Digits

/-!
# Reading numerals

The ways of writing are tried in a fixed order and the first that fits decides: a base and a hash,
the word `base`, then for texts without an explicit base a leading zero, a mark in front, a letter
behind, figures alone, hexadecimal digits alone.
-/

namespace Abacus.Numeral

open Radix (isDigitBelow readDigits readSigned signed)

/-- A figure or letter that may stand in digits, or a low line. -/
def isDigitChar (c : Char) : Bool := isDigitBelow 36 c || c == '_'

/-- As `isDigitChar`, with the characters that stand for an ASCII letter when case is ignored. -/
def isCaselessDigitChar (c : Char) : Bool := isDigitChar c || (Text.folded? c).isSome

def isSign (c : Char) : Bool := c == '+' || c == '-'

/-- `16#FF`: one or two decimal digits, a hash, an optional sign and the digits. -/
def radixHash : Text.Pattern :=
  [.many Text.isBlank, .run 1 (some 2) Text.isDecimal, .many Text.isBlank, .exactly '#',
    .many Text.isBlank, .optional isSign, .some isDigitChar, .many Text.isBlank]

/-- `base 2 1010`: the word in any case, one or two decimal digits, an optional sign and the
digits. -/
def baseWord : Text.Pattern :=
  [.many Text.isBlank, .one (Text.isLetter 'b'), .one (Text.isLetter 'a'),
    .one (Text.isLetter 's'), .one (Text.isLetter 'e'), .many Text.isBlank,
    .run 1 (some 2) Text.isDecimal, .some Text.isBlank, .optional isSign,
    .some isCaselessDigitChar, .many Text.isBlank]

/-- The base and the signed digits of a text that names its base. -/
def explicitBase? (s : Text) : Option (Spelling × Text × Text) :=
  match radixHash.whole? s with
  | some [_, b, _, _, _, sign, ds, _] => some (.radixHash, b, sign ++ ds)
  | _ => match baseWord.whole? s with
    | some [_, _, _, _, _, _, b, _, sign, ds, _] => some (.baseWord, b, sign ++ ds)
    | _ => none

/-- Figures of which the first is a zero and not the only one. -/
def hasLeadingZero : Text → Bool
  | '0' :: c :: r => (c :: r).all Char.isDigit
  | _ => false

/-- The base of the mark that a text starts with. -/
def markedBase? (s : Text) : Option Base :=
  let m := Text.lower (s.take 2)
  if m = ['0', 'x'] then some .sixteen
  else if m = ['0', 'b'] then some .two
  else if m = ['0', 'o'] then some .eight
  else none

/-- The letters that may stand behind digits, with their bases. -/
def suffixes : List (Char × Base) := [('h', .sixteen), ('b', .two), ('o', .eight)]

/-- The digits in front of a letter that stands for their base. -/
def splitSuffix? (s : Text) : Option (Base × Text) :=
  suffixes.findSome? fun (l, b) =>
    match s.getLast? with
    | some c =>
        if Text.isLetter l c && !s.dropLast.isEmpty && s.dropLast.all (isDigitBelow b.val) then
          some (b, s.dropLast)
        else none
    | none => none

def isFigures (s : Text) : Bool := !s.isEmpty && s.all Char.isDigit

/-- Hexadecimal digits with a letter among them. -/
def isBareHex (s : Text) : Bool :=
  s.all (isDigitBelow 16) && s.any fun c => isDigitBelow 16 c && !c.isDigit

/-- Splits an optional plus and then an optional minus off a text. -/
def splitSigns (s : Text) : Bool × Text :=
  let s := match s with
    | '+' :: r => r
    | s => s
  match s with
  | '-' :: r => (true, r)
  | s => (false, s)

/-- Which digits are to be read, in which base, for a text without sign and low lines. A line break
at its very end does not change the way of writing. -/
def spelledDigits? (s : Text) : Option (Spelling × Base × Text) :=
  let t := Text.withoutLastBreak s
  if hasLeadingZero t then some (.leadingZero, .sixteen, s)
  else match markedBase? s with
    | some b => some (.marked, b, s.drop 2)
    | none => match splitSuffix? t with
      | some (b, ds) => some (.suffixed, b, ds)
      | none =>
          if isFigures t then some (.decimal, .ten, s)
          else if isBareHex t then some (.bareHex, .sixteen, s)
          else none

/-- Reads a numeral whose base is not named. -/
def readBare (text : Text) : Except Fault Numeral :=
  let parts := splitSigns (Text.trim text)
  match spelledDigits? (parts.2.filter (· != '_')) with
  | some (w, b, ds) => (readDigits b.val ds).map fun m => ⟨signed parts.1 m, b, w, none⟩
  | none => .error (.unrecognized text)

/-- Reads a numeral without regard to a target. -/
def read (text : Text) : Except Fault Numeral :=
  match explicitBase? text with
  | some (w, b, ds) =>
      let base := Base.clamp (decimalValue b)
      (readSigned base.val ds).map fun n => ⟨n, base, w, none⟩
  | none => readBare text

end Abacus.Numeral
