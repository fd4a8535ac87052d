import Abacus.Expr.Builtin
import Abacus.Text.Pattern

/-!
# Own names for aliases

Before a text is read, every name of a built-in is replaced by the built-in's own name and every
caret by the power operator. A name is replaced where a word starts, or behind a character that is
neither an ASCII letter or digit, a low line nor a point.
-/

namespace Abacus.Expr

/-- The characters a name must not follow. -/
def bindsName (c : Char) : Bool := c.isAlphanum || c == '_' || c == '.'

/-- The length of a name of a built-in at the start of a text. -/
def nameLength? (before : Option Char) (s : Text) : Option Nat :=
  if before.any bindsName then none
  else if isAllowedName (s.takeWhile Text.isWord) then some (s.takeWhile Text.isWord).length
  else none

/-- The own name of the built-in that a name stands for. -/
def ownName (s : Text) : Text :=
  match Builtin.ofName? s with
  | some b => b.ownName
  | none => s

/-- The power operator is written with a caret or two stars. -/
def expandCaret (c : Char) : Text := if c == '^' then ['*', '*'] else [c]

/-- The text with every built-in under its own name and every caret as the power operator. -/
def withOwnNames (s : Text) : Text :=
  (Text.replaceTokens nameLength? ownName s).flatMap expandCaret

end Abacus.Expr
