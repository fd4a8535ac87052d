import Abacus.Text.Basic

/-!
# Tokens of patterns

A pattern is read in tokens: characters, and characters with a backslash in front of them. A
backslash with nothing behind it is a token that no pattern may hold.
-/

namespace Abacus.Regex

inductive Token where
  | plain (c : Char)
  | escaped (c : Char)
  | dangling
deriving DecidableEq, Repr

namespace Token

/-- The text of a token. -/
def text : Token → Text
  | plain c => [c]
  | escaped c => ['\\', c]
  | dangling => ['\\']

/-- The character of a token without a backslash. -/
def plain? : Token → Option Char
  | plain c => some c
  | _ => none

/-- Whether the token is a plain character of a class. -/
def isPlain (p : Char → Bool) (t : Token) : Bool := t.plain?.any p

/-- The tokens of a text. -/
def ofText : Text → List Token
  | [] => []
  | ['\\'] => [dangling]
  | '\\' :: c :: s => escaped c :: ofText s
  | c :: s => plain c :: ofText s

end Token

/-- Takes the plain characters of a class at the start. -/
def takeRun (p : Char → Bool) (ts : List Token) : Text × List Token :=
  let run := ts.takeWhile (Token.isPlain p)
  (run.filterMap Token.plain?, ts.drop run.length)

/-- Takes plain characters of a class at the start, at most so many. -/
def takeUpTo (limit : Nat) (p : Char → Bool) (ts : List Token) : Text × List Token :=
  let run := takeRun p (ts.take limit)
  (run.1, run.2 ++ ts.drop limit)

/-- Takes the text in front of the first plain character that is the given one, and drops that
character. -/
def takeUntil? (stop : Char) : List Token → Option (Text × List Token)
  | [] => none
  | .dangling :: _ => none
  | t :: ts =>
      if t = .plain stop then some ([], ts)
      else (takeUntil? stop ts).map fun r => (t.text ++ r.1, r.2)

/-- Takes a name, which is not empty, and the character that ends it. -/
def takeName? (stop : Char) (ts : List Token) : Option (Text × List Token) :=
  (takeUntil? stop ts).filter fun r => !r.1.isEmpty

end Abacus.Regex
