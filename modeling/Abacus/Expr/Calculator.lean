import Abacus.Expr.Evaluation
import Abacus.Expr.Grammar
import Abacus.Expr.Lexer
import Abacus.Expr.NumeralTokens
import Abacus.Expr.OwnNames
import Abacus.Text.Compatibility

/-!
# The calculator

A text is admitted if it is not blank, free of quotes and separators, not too long, and names only
built-ins. An admitted text is put into own names, read as a tree and evaluated. If that fails,
numerals with a leading zero may be taken as hexadecimal for one second attempt.
-/

namespace Abacus.Expr

structure Settings where
  maxLength : Int := 2000
  retries : Bool := true

/-- The characters that no expression may hold. -/
def isUnsafeChar (c : Char) : Bool :=
  c == '"' || c == '\x27' || c == '\x60' || c == '\\' || c == ';'

/-- The first name that is no built-in, outside the numerals of the text's compatibility form. -/
def unknownName? (s : Text) : Option Text :=
  (Text.runs Text.isNameChar (stripNumerals (Text.normalized s))).find? fun w => !isAllowedName w

/-- Checks a text before it is evaluated. -/
def screen (cfg : Settings) (s : Text) : Except Fault Unit :=
  if s.all Text.isBlank then .error .empty
  else match s.find? isUnsafeChar with
    | some c => .error (.unsafeChar c)
    | none =>
        if cfg.maxLength < s.length then .error (.invalid (.tooLong cfg.maxLength))
        else match unknownName? s with
          | some w => .error (.unknownIdentifier w)
          | none => .ok ()

/-- The tree of a text. -/
def ofText? (s : Text) : Option Expr :=
  match lexemes? (Text.trim (withOwnNames s)) with
  | some ls => ofLexemes? ls
  | none => none

/-- Reads and evaluates a text without a second attempt. -/
def attempt (s : Text) : Except Invalid Float :=
  match ofText? s with
  | some e => result e
  | none => .error .unreadable

/-- The text of the second attempt, for an admitted text whose first attempt fails. -/
def retry? (cfg : Settings) (s : Text) : Option Text :=
  match attempt s with
  | .ok _ => none
  | .error _ => if cfg.retries && promote s != s then some (promote s) else none

/-- The value of an admitted text. If both attempts fail, the first failure is reported. -/
def evaluateAdmitted (cfg : Settings) (s : Text) : Except Invalid Float :=
  match attempt s with
  | .ok x => .ok x
  | .error f =>
      if cfg.retries && promote s != s then
        match attempt (promote s) with
        | .ok x => .ok x
        | .error _ => .error f
      else .error f

/-- The value of a text. -/
def calculate (cfg : Settings) (s : Text) : Except Fault Float :=
  match screen cfg s with
  | .error f => .error f
  | .ok () => (evaluateAdmitted cfg s).mapError .invalid

end Abacus.Expr
