/-!
# Texts

A text is its sequence of characters. Blanks are the characters that separate words and that are
trimmed from the ends of an input.
-/

namespace Abacus

/-- A text is its sequence of characters; lengths count characters. -/
abbrev Text := List Char

namespace Text

/-- The code points of the blanks: spaces, line and paragraph ends, tabs and separators. -/
def blanks : List Nat :=
  [0x09, 0x0A, 0x0B, 0x0C, 0x0D, 0x1C, 0x1D, 0x1E, 0x1F, 0x20, 0x85, 0xA0, 0x1680,
    0x2000, 0x2001, 0x2002, 0x2003, 0x2004, 0x2005, 0x2006, 0x2007, 0x2008, 0x2009, 0x200A,
    0x2028, 0x2029, 0x202F, 0x205F, 0x3000]

def isBlank (c : Char) : Bool := blanks.contains c.toNat

/-- Whether a blank is none of the four information separators. Only such blanks may stand around a
number. -/
def isSpacing (c : Char) : Bool := isBlank c && !(0x1C ≤ c.toNat && c.toNat ≤ 0x1F)

/-- The text without the characters of a class at either end. -/
def trimWhile (p : Char → Bool) (s : Text) : Text :=
  ((s.dropWhile p).reverse.dropWhile p).reverse

/-- The text without the blanks at either end. -/
def trim (s : Text) : Text := trimWhile isBlank s

/-- The text without one line break at its end. -/
def withoutLastBreak (s : Text) : Text := if s.getLast? = some '\n' then s.dropLast else s

/-- Texts joined with a separator between neighbours. -/
def joined (sep : Text) : List Text → Text
  | [] => []
  | [s] => s
  | s :: t :: ss => s ++ sep ++ joined sep (t :: ss)

/-- Whether the text starts with another one. -/
def startsWith (s t : Text) : Bool := t.isPrefixOf s

/-- The pieces between the characters of a class, empty pieces included. -/
def pieces (cut : Char → Bool) (s : List Char) : List (List Char) :=
  s.foldr (fun c ps =>
    if cut c then [] :: ps
    else match ps with
      | [] => [[c]]
      | p :: ps => (c :: p) :: ps) [[]]

/-- The longest runs of the characters of a class. -/
def runs (p : Char → Bool) (s : Text) : List Text :=
  (pieces (fun c => !p c) s).filter (!·.isEmpty)

end Text

end Abacus
