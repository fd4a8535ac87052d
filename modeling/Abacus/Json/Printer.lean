import Abacus.Decimal.Shortest
import Abacus.Json.Basic
import Abacus.Text.Quoted

/-!
# Writing JSON

A value is written in one line, or spread over lines with two columns for each level. Characters
beyond ASCII are written as they are.
-/

namespace Abacus.Json

/-- One character of a quoted text. -/
def escaped (c : Char) : Text :=
  if c == '"' then ['\\', '"']
  else if c == '\\' then ['\\', '\\']
  else if c == '\n' then ['\\', 'n']
  else if c == '\r' then ['\\', 'r']
  else if c == '\t' then ['\\', 't']
  else if c == '\x08' then ['\\', 'b']
  else if c == '\x0c' then ['\\', 'f']
  else if c.toNat < 32 then '\\' :: 'u' :: Text.hexPadded 4 c.toNat
  else [c]

def quotedText (s : Text) : Text := '"' :: (s.flatMap escaped ++ ['"'])

/-- The text of a double, with names for the values that are no numbers. -/
def realText (x : Float) : Text :=
  if Binary64.isNaN x then "NaN".toList
  else if Binary64.isFinite x then Decimal.shown x
  else if Binary64.isNegative x then "-Infinity".toList
  else "Infinity".toList

/-- Where the parts of a value are put: what separates members, names from values, and how a bracket
is followed at each level. -/
structure Layout where
  comma : Text
  colon : Text
  lineBreak : Nat → Text

def oneLine : Layout := ⟨[',', ' '], [':', ' '], fun _ => []⟩

/-- Every member has a line of its own. -/
def indented : Layout := ⟨[','], [':', ' '], fun n => '\n' :: List.replicate (2 * n) ' '⟩

/-- Parts between brackets; brackets around nothing stay together. -/
def bracketed (l : Layout) (level : Nat) (opening closing : Char) (parts : List Text) : Text :=
  if parts.isEmpty then [opening, closing]
  else opening :: (l.lineBreak (level + 1)
    ++ Text.joined (l.comma ++ l.lineBreak (level + 1)) parts ++ l.lineBreak level ++ [closing])

mutual

def write (l : Layout) (level : Nat) : Json → Text
  | .null => "null".toList
  | .bool b => if b then "true".toList else "false".toList
  | .int n => (toString n).toList
  | .real x => realText x
  | .text s => quotedText s
  | .list values => bracketed l level '[' ']' (writeValues l (level + 1) values)
  | .object members => bracketed l level '\x7b' '\x7d' (writeMembers l (level + 1) members)

def writeValues (l : Layout) (level : Nat) : List Json → List Text
  | [] => []
  | v :: vs => write l level v :: writeValues l level vs

def writeMembers (l : Layout) (level : Nat) : List (Text × Json) → List Text
  | [] => []
  | (name, v) :: ms => (quotedText name ++ l.colon ++ write l level v) :: writeMembers l level ms

end

/-- The value in one line. -/
def compact (j : Json) : Text := write oneLine 0 j

/-- The value spread over lines. -/
def pretty (j : Json) : Text := write indented 0 j

end Abacus.Json
