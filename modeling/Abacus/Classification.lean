import Abacus.Expr.Calculator
import Abacus.Numeral.Reader

/-!
# Classification

A text is taken for a numeral if it names a target base, is written in one of the explicit ways, or
consists of digits of a common base. Otherwise it is an expression if the calculator admits it, and
is ignored if not. The first rule that applies is the reason.
-/

namespace Abacus

inductive Kind where
  | numeral
  | expression
  | ignored
deriving DecidableEq, Repr

def Kind.name : Kind → Text
  | .numeral => "numeral".toList
  | .expression => "expression".toList
  | .ignored => "ignored".toList

def Kind.ofName? (s : Text) : Option Kind :=
  [Kind.numeral, .expression, .ignored].find? (·.name == s)

@[simp] theorem Kind.ofName?_name (k : Kind) : ofName? k.name = some k := by
  cases k <;> rfl

/-- The rule by which a text is classified. -/
inductive Reason where
  | empty
  | tooLong
  | targetTag
  | explicitForm
  | bareHex
  | binaryRun
  | octalRun
  | refused (fault : Expr.Fault)
  | validExpression

namespace Reason

def kind : Reason → Kind
  | .empty | .tooLong | .refused _ => .ignored
  | .targetTag | .explicitForm | .bareHex | .binaryRun | .octalRun => .numeral
  | .validExpression => .expression

def name : Reason → Text
  | .empty => "empty".toList
  | .tooLong => "too_long".toList
  | .targetTag => "target_tag".toList
  | .explicitForm => "explicit_notation".toList
  | .bareHex => "bare_hex".toList
  | .binaryRun => "binary_run".toList
  | .octalRun => "octal_run".toList
  | .refused fault => fault.message
  | .validExpression => "valid_expression".toList

end Reason

namespace Classification

open Abacus.Expr (isRunOf isFigureOrLine)
open Abacus.Numeral (isSign isCaselessDigitChar)
open Abacus.Text (Pattern Piece)

/-- The explicit ways of writing a numeral, without sign and blanks around it. -/
def explicitForms : List Pattern :=
  [[.exactly '0', .one (Text.isLetter 'x'), .some (isRunOf 16)],
    [.exactly '0', .one (Text.isLetter 'b'), .some (isRunOf 2)],
    [.exactly '0', .one (Text.isLetter 'o'), .some (isRunOf 8)],
    [.one Char.isDigit, .many isFigureOrLine],
    [.some (isRunOf 16), .one (Text.isLetter 'h')],
    [.some (isRunOf 2), .one (Text.isLetter 'b')],
    [.some (isRunOf 8), .one (Text.isLetter 'o')],
    [.run 1 (some 2) Text.isDecimal, .exactly '#', .some isCaselessDigitChar],
    [.one (Text.isLetter 'b'), .one (Text.isLetter 'a'), .one (Text.isLetter 's'),
      .one (Text.isLetter 'e'), .many Text.isBlank, .run 1 (some 2) Text.isDecimal,
      .some Text.isBlank, .some isCaselessDigitChar]]

/-- A form between blanks, with an optional sign in front. -/
def framed (p : Pattern) : Pattern :=
  [.many Text.isBlank, .optional isSign] ++ p ++ [.many Text.isBlank]

def isExplicitForm (s : Text) : Bool := explicitForms.any fun p => (framed p).fits s

/-- An optional sign and a run of digits and low lines. -/
def isSignedRun (bound : Nat) (s : Text) : Bool :=
  Pattern.fits [.optional isSign, .some (isRunOf bound)] s

/-- Whether a letter among the hexadecimal digits occurs. -/
def hasHexLetter (s : Text) : Bool := s.any fun c => Radix.isDigitBelow 16 c && !c.isDigit

end Classification

/-- What a text may be at most long to be classified, and how the calculator admits it. -/
structure Limits where
  maxSelection : Int := 200
  settings : Expr.Settings := {}

open Classification in
/-- The first rule that applies to a trimmed text. -/
def classify (cfg : Limits) (s : Text) : Except Numeral.TagFault Reason :=
  if s.isEmpty then .ok .empty
  else if cfg.maxSelection < s.length then .ok .tooLong
  else
    let r := Numeral.Request.ofText s
    match if r.hasTarget then Numeral.baseOfTag r.tag else .ok none with
    | .error f => .error f
    | .ok (some _) => .ok .targetTag
    | .ok none =>
        if isExplicitForm s then .ok .explicitForm
        else if isSignedRun 16 s && hasHexLetter s then .ok .bareHex
        else if isSignedRun 2 s then .ok .binaryRun
        else if isSignedRun 8 s then .ok .octalRun
        else match Expr.screen cfg.settings s with
          | .error f => .ok (.refused f)
          | .ok () => .ok .validExpression

end Abacus
