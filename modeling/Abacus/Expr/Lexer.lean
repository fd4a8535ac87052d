import Abacus.Expr.Lexeme
import Abacus.Expr.NumberLiteral
import Abacus.Text.Compatibility
import Abacus.Text.Identifier

/-!
# From text to lexemes

Blanks and comments separate lexemes; a line break counts outside brackets only. Lines without
lexemes are passed over, and the first line with one must not be indented. Names are kept in their
compatibility form, keywords are recognised as they are spelt.
-/

namespace Abacus.Expr

/-- Line breaks of all kinds as one character. -/
def unifiedBreaks : Text → Text
  | [] => []
  | '\r' :: '\n' :: s => '\n' :: unifiedBreaks s
  | '\r' :: s => '\n' :: unifiedBreaks s
  | c :: s => c :: unifiedBreaks s

/-- The blanks between lexemes. -/
def isGap (c : Char) : Bool := c == ' ' || c == '\t' || c == '\x0c'

/-- The column reached by the blanks at the start of a line; a tab goes to the next multiple of
eight, a form feed starts over. -/
def indentation (s : Text) : Nat :=
  (s.takeWhile isGap).foldl (fun col c =>
    if c == ' ' then col + 1 else if c == '\t' then (col / 8 + 1) * 8 else 0) 0

/-- Passes over the lines before the first one with a lexeme, which must start at the margin. -/
def skipEmptyLines : Nat → Text → Option Text
  | 0, s => some s
  | fuel + 1, s =>
      match s.dropWhile isGap with
      | [] => some []
      | '\n' :: r => skipEmptyLines fuel r
      | '#' :: r =>
          match r.dropWhile (· != '\n') with
          | [] => some []
          | _ :: r => skipEmptyLines fuel r
      | r => if indentation s = 0 then some r else none

example : skipEmptyLines 3 (unifiedBreaks ['#', '\r', '\n', '\r', '1']) = some ['1'] := by cbv

/-- The lexeme of a name. -/
def nameLexeme? (s : Text) : Option Lexeme :=
  match keywords.lookup s with
  | some k => some (.keyword k)
  | none =>
      if s.all fun c => c.toNat < 128 then some (.name s)
      else if Text.isIdentifier s then some (.name (Text.normalized s))
      else none

/-- Whether a literal starts at a text. -/
def startsNumber : Text → Bool
  | '.' :: c :: _ => c.isDigit
  | c :: _ => c.isDigit
  | [] => false

/-- Reads one step of a text that is not empty: a lexeme or a stretch without one, and the number of
characters it takes. -/
def step? (depth : Nat) (s : Text) : Option (Option Lexeme × Nat) :=
  match s with
  | [] => none
  | c :: _ =>
      if isGap c then some (none, 1)
      else if c == '#' then some (none, (s.takeWhile (· != '\n')).length)
      else if c == '\n' then some (if depth = 0 then some .newline else none, 1)
      else if startsNumber s then
        (numberAt? s).map fun p => (some (.number p.1), s.length - p.2.length)
      else if isNamePart c then
        let run := s.takeWhile isNamePart
        (nameLexeme? run).map fun l => (some l, run.length)
      else (markAt? s).map fun m => (some (.mark m.1), m.2)

/-- The lexemes of a text; `skip` characters belong to the step before. -/
def lexemesFrom : Nat → Nat → Text → Option (List Lexeme)
  | _, _, [] => some []
  | skip + 1, depth, _ :: s => lexemesFrom skip depth s
  | 0, depth, c :: s =>
      match step? depth (c :: s) with
      | none => none
      | some (none, n) => lexemesFrom (n - 1) depth s
      | some (some l, n) => (lexemesFrom (n - 1) (l.depthAfter depth) s).map (l :: ·)

/-- The lexemes of an expression's text. -/
def lexemes? (s : Text) : Option (List Lexeme) :=
  if s.contains '\x00' then none
  else
    let t := unifiedBreaks s
    match skipEmptyLines (t.length + 1) t with
    | none => none
    | some r => lexemesFrom 0 0 r

end Abacus.Expr
