import Abacus.Text.CharacterName.Aliases
import Abacus.Text.CharacterName.Ancient
import Abacus.Text.CharacterName.EastAsian
import Abacus.Text.CharacterName.MoreScripts
import Abacus.Text.CharacterName.Pictographs
import Abacus.Text.CharacterName.Scripts
import Abacus.Text.CharacterName.Symbols
import Abacus.Text.CodePoints

/-!
# Names of characters

A character is found by its name. Syllables of Hangul are named by their sounds and ideographs by
their code points; the names of all other characters are kept in tables and found in either case.

An entry of a table ends with a semicolon. It starts with a figure, which tells how many words it
shares with the entry before, and goes on with its other words. Its code point is the next one,
unless another is written in front of the figure.
-/

namespace Abacus.Text.CharacterName

/-! ## Tables -/

structure Entry where
  codePoint : Nat
  words : List Text
deriving DecidableEq, Repr

/-- The words that an entry shares with the one before, and its own. -/
def sharing (before : List Text) : Text → List Text → List Text
  | [], own => own
  | d :: w, own => before.take (d.toNat - 48) ++ if w.isEmpty then own else w :: own

/-- Reads an entry behind another one. -/
def Entry.next (e : Entry) (s : Text) : Entry :=
  match runs (fun c => c != ' ' && c != '\n') s with
  | [] => e
  | w :: own => match pieces (· == ':') w with
    | [code, w] => ⟨CodePoints.ofHex code, sharing e.words w own⟩
    | _ => ⟨e.codePoint + 1, sharing e.words w own⟩

/-- Looks for a name behind an entry. The characters of the entry that is being read come first, in
reverse. -/
def search (name : List Text) (e : Entry) (part : Text) : Text → Option Nat
  | [] => none
  | ';' :: s =>
      let e := e.next part.reverse
      if e.words = name then some e.codePoint else search name e [] s
  | c :: s => search name e (c :: part) s

def tables : List String :=
  [scripts, moreScripts, symbols, eastAsian, ancient, pictographs, aliases]

/-- The code point of a name in the tables. -/
def ofTables? (name : Text) : Option Nat :=
  tables.findSome? fun t => search (pieces (· == ' ') name) ⟨0, []⟩ [] t.toList

/-! ## Code points as names -/

def isHex (c : Char) : Bool := c.isDigit || ('A' ≤ c && c ≤ 'F')

/-- What follows a beginning of a text. -/
def behind? (start s : Text) : Option Text :=
  if startsWith s start then some (s.drop start.length) else none

def unified : CodePoints.Runs := .ofString "
3400-4DBF 4E00-9FFF 20000-2A6DF 2A700-2B738 2B740-2B81D 2B820-2CEA1 2CEB0-2EBE0 30000-3134A"

/-- The code point of a unified ideograph, in four or five digits. -/
def ofUnified? (name : Text) : Option Nat := do
  let ds ← behind? "CJK UNIFIED IDEOGRAPH-".toList name
  let n := CodePoints.ofHex ds
  if (ds.length = 4 || ds.length = 5) && ds.all isHex && unified.contains n then some n else none

/-- The other characters that are named by their code points. -/
def numbered : List (Text × CodePoints.Runs) :=
  [("CJK COMPATIBILITY IDEOGRAPH-".toList, .ofString "F900-FA6D FA70-FAD9 2F800-2FA1D"),
    ("KHITAN SMALL SCRIPT CHARACTER-".toList, .ofString "18B00-18CD5"),
    ("NUSHU CHARACTER-".toList, .ofString "1B170-1B2FB")]

def ofNumbered? (name : Text) : Option Nat :=
  numbered.findSome? fun (start, runs) => do
    let ds ← behind? start name
    let n := CodePoints.ofHex ds
    if ds.all isHex && ds.head? != some '0' && runs.contains n then some n else none

/-! ## Syllables -/

def leads : List Text := (pieces (· == ' ')
  "G GG N D DD R M B BB S SS  J JJ C K T P H".toList)

def vowels : List Text := (pieces (· == ' ')
  "A AE YA YAE EO E YEO YE O WA WAE OE YO U WEO WE WI YU EU YI I".toList)

def tails : List Text := (pieces (· == ' ')
  " G GG GS N NJ NH D L LG LM LB LS LT LP LH M B BS S SS NG J C K T P H".toList)

/-- Takes the longest sound at the start of a text: its position among the sounds, and the rest. -/
def takeSound? (sounds : List Text) (s : Text) : Option (Nat × Text) :=
  let fits := sounds.zipIdx.filter fun p => startsWith s p.1
  let longest := fits.foldl (fun m p => max m p.1.length) 0
  (fits.find? fun p => p.1.length = longest).map fun p => (p.2, s.drop longest)

/-- The code point of a syllable: a lead, a vowel and a tail, of which the first and the last may be
silent. -/
def ofSyllable? (name : Text) : Option Nat := do
  let s ← behind? "HANGUL SYLLABLE ".toList name
  let (l, s) ← takeSound? leads s
  let (v, s) ← takeSound? vowels s
  let (t, s) ← takeSound? tails s
  if s.isEmpty then some (0xAC00 + (l * vowels.length + v) * tails.length + t) else none

/-- The code point of the character with a name. -/
def codePoint? (name : Text) : Option Nat :=
  if startsWith name "HANGUL SYLLABLE ".toList then ofSyllable? name
  else if startsWith name "CJK UNIFIED IDEOGRAPH-".toList then ofUnified? name
  else
    let name := name.map Char.toUpper
    (ofNumbered? name).or (ofTables? name)

end Abacus.Text.CharacterName
