import Abacus.Numeral.Reader
import Abacus.Text.Pattern

/-!
# Numerals inside an expression's text

Two operations on the text of an expression. Stripping puts a zero in the place of every numeral, in
any way of writing, so that letters in numerals are not taken for names. Promotion marks numerals
with a leading zero as hexadecimal. The kinds of numerals are replaced one after the other, each
from left to right through the whole text.
-/

namespace Abacus.Expr

open Numeral (isSign isCaselessDigitChar)
open Radix (isDigitBelow)
open Text (Pattern Piece)

/-- A digit below a bound or a low line. -/
def isRunOf (bound : Nat) (c : Char) : Bool := isDigitBelow bound c || c == '_'

def isFigureOrLine (c : Char) : Bool := c.isDigit || c == '_'

/-- A pattern behind an optional sign and blanks. -/
def withSign (p : Pattern) : Pattern := .optional isSign :: .many Text.isBlank :: p

def markedToken (letter : Char) (bound : Nat) : Pattern :=
  withSign [.exactly '0', .one (Text.isLetter letter), .some (isRunOf bound)]

def suffixedToken (letter : Char) (bound : Nat) : Pattern :=
  withSign [.some (isRunOf bound), .one (Text.isLetter letter), .boundary]

def leadingZeroToken : Pattern :=
  [.boundary, .exactly '0', .some (isRunOf 16), .boundary]

def radixHashToken : Pattern :=
  withSign [.run 1 (some 2) Text.isDecimal, .many Text.isBlank, .exactly '#',
    .many Text.isBlank, .some isCaselessDigitChar]

def baseWordToken : Pattern :=
  withSign [.one (Text.isLetter 'b'), .one (Text.isLetter 'a'), .one (Text.isLetter 's'),
    .one (Text.isLetter 'e'), .many Text.isBlank, .run 1 (some 2) Text.isDecimal,
    .some Text.isBlank, .some isCaselessDigitChar]

def wholeToken : Pattern :=
  withSign [.one Text.isDecimal, .many isFigureOrLine]

def fractionToken : Pattern :=
  wholeToken ++ [.exactly '.', .one Text.isDecimal, .many isFigureOrLine]

/-- The kinds of numerals in the order in which they are stripped; of the alternatives of one kind
the first that fits counts. -/
def numeralTokens : List (List Pattern) :=
  [[markedToken 'x' 16], [markedToken 'b' 2], [markedToken 'o' 8], [suffixedToken 'h' 16],
    [leadingZeroToken], [suffixedToken 'b' 2], [suffixedToken 'o' 8], [radixHashToken],
    [baseWordToken], [fractionToken, wholeToken]]

/-- The length of a token of one kind. -/
def tokenLength? (kind : List Pattern) (before : Option Char) (s : Text) : Option Nat :=
  kind.findSome? (·.length? before s)

/-- The text with a zero for every token of one kind. -/
def stripKind (s : Text) (kind : List Pattern) : Text :=
  Text.replaceTokens (tokenLength? kind) (fun _ => ['0']) s

/-- The text with a zero for every numeral. -/
def stripNumerals (s : Text) : Text := numeralTokens.foldl stripKind s

/-- A word of at least three hexadecimal digits and low lines, the first of them a zero. -/
def promotableToken : Pattern :=
  [.boundary, .exactly '0', .run 2 none (isRunOf 16), .boundary]

/-- Marks a numeral as hexadecimal, unless it consists of zeros. -/
def promoteToken (s : Text) : Text :=
  if s.all (· == '0') then s else '0' :: 'x' :: s.filter (· != '_')

/-- The text with its leading-zero numerals marked as hexadecimal. -/
def promote (s : Text) : Text := Text.replaceTokens promotableToken.length? promoteToken s

end Abacus.Expr
