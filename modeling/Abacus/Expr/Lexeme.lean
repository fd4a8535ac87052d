import Abacus.Expr.Basic

/-!
# Lexemes

The units of an expression's text: names, keywords, numbers, marks and line breaks outside brackets.
Keywords and marks that no expression uses are not told apart.
-/

namespace Abacus.Expr

inductive Keyword where
  | true
  | false
  | none
  | and
  | or
  | not
  | in
  | is
  | if
  | else
  | for
  | async
  | await
  | lambda
  | yield
  | from
  | other
deriving DecidableEq, Repr

inductive Mark where
  | plus
  | minus
  | star
  | doubleStar
  | slash
  | doubleSlash
  | percent
  | at
  | shiftLeft
  | shiftRight
  | ampersand
  | bar
  | caret
  | tilde
  | less
  | lessEqual
  | greater
  | greaterEqual
  | equal
  | notEqual
  | leftParen
  | rightParen
  | leftBracket
  | rightBracket
  | leftBrace
  | rightBrace
  | comma
  | colon
  | walrus
  | assign
  | dot
  | ellipsis
  | other
deriving DecidableEq, Repr

inductive Lexeme where
  | name (id : Text)
  | keyword (k : Keyword)
  | number (c : Constant)
  | mark (m : Mark)
  | newline

/-- The keywords by their spelling. -/
def keywords : List (Text × Keyword) :=
  [("True".toList, .true), ("False".toList, .false), ("None".toList, .none),
    ("and".toList, .and), ("or".toList, .or), ("not".toList, .not), ("in".toList, .in),
    ("is".toList, .is), ("if".toList, .if), ("else".toList, .else), ("for".toList, .for),
    ("async".toList, .async), ("await".toList, .await), ("lambda".toList, .lambda),
    ("yield".toList, .yield), ("from".toList, .from), ("as".toList, .other),
    ("assert".toList, .other), ("break".toList, .other), ("class".toList, .other),
    ("continue".toList, .other), ("def".toList, .other), ("del".toList, .other),
    ("elif".toList, .other), ("except".toList, .other), ("finally".toList, .other),
    ("global".toList, .other), ("import".toList, .other), ("nonlocal".toList, .other),
    ("pass".toList, .other), ("raise".toList, .other), ("return".toList, .other),
    ("try".toList, .other), ("while".toList, .other), ("with".toList, .other)]

/-- The marks by their spelling, longer ones first. -/
def marks : List (Text × Mark) :=
  [("**=".toList, .other), ("//=".toList, .other), (">>=".toList, .other), ("<<=".toList, .other),
    ("...".toList, .ellipsis), ("!=".toList, .notEqual), ("%=".toList, .other),
    ("&=".toList, .other), ("**".toList, .doubleStar), ("*=".toList, .other),
    ("+=".toList, .other), ("-=".toList, .other), ("->".toList, .other),
    ("//".toList, .doubleSlash), ("/=".toList, .other), (":=".toList, .walrus),
    ("<<".toList, .shiftLeft), ("<=".toList, .lessEqual), ("<>".toList, .other),
    ("==".toList, .equal), (">=".toList, .greaterEqual), (">>".toList, .shiftRight),
    ("@=".toList, .other), ("^=".toList, .other), ("|=".toList, .other),
    ("(".toList, .leftParen), (")".toList, .rightParen), ("[".toList, .leftBracket),
    ("]".toList, .rightBracket), ("\x7b".toList, .leftBrace), ("\x7d".toList, .rightBrace),
    (",".toList, .comma), (":".toList, .colon), (".".toList, .dot), (";".toList, .other),
    ("+".toList, .plus), ("-".toList, .minus), ("*".toList, .star), ("/".toList, .slash),
    ("%".toList, .percent), ("&".toList, .ampersand), ("|".toList, .bar), ("^".toList, .caret),
    ("~".toList, .tilde), ("<".toList, .less), (">".toList, .greater), ("=".toList, .assign),
    ("@".toList, .at)]

/-- The longest mark at the start of a text, with its length. -/
def markAt? (s : Text) : Option (Mark × Nat) :=
  (marks.find? fun m => Text.startsWith s m.1).map fun m => (m.2, m.1.length)

def Mark.opens : Mark → Bool
  | .leftParen | .leftBracket | .leftBrace => true
  | _ => false

def Mark.closes : Mark → Bool
  | .rightParen | .rightBracket | .rightBrace => true
  | _ => false

/-- The bracket depth behind a lexeme. -/
def Lexeme.depthAfter (depth : Nat) : Lexeme → Nat
  | .mark m => if m.opens then depth + 1 else if m.closes then depth - 1 else depth
  | _ => depth

end Abacus.Expr
