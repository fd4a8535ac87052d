import Abacus.Radix.Base
import Abacus.Text.Case
import Abacus.Text.Digit
import Abacus.Text.Letter
import Abacus.Text.Pattern
import Abacus.Text.Quoted

/-!
# Target bases

An input may ask for a base: the value, an arrow or the word `to` between blanks, and a tag for the
base. The separator that starts first counts, within the first line of the input; the tag ends with
its line.
-/

namespace Abacus.Numeral

/-- An input split at its separator; the tag is empty where there is none. -/
structure Request where
  value : Text
  tag : Text
deriving DecidableEq, Repr

def Request.hasTarget (r : Request) : Bool := !r.tag.isEmpty

/-- The word `to` between blanks. -/
def toWord : Text.Pattern :=
  [.some Text.isBlank, .one (Text.isLetter 't'), .one (Text.isLetter 'o'), .some Text.isBlank]

/-- The length of a separator at the start of a text. -/
def separatorLength? (s : Text) : Option Nat :=
  if Text.startsWith s ['-', '>'] then some 2 else toWord.length? none s

/-- The text before the first separator and the text after it. No separator is looked for beyond the
first line break. -/
def splitSeparator? : Text → Option (Text × Text)
  | [] => none
  | c :: r =>
      match separatorLength? (c :: r) with
      | some n => some ([], (c :: r).drop n)
      | none =>
          if c == '\n' then none
          else (splitSeparator? r).map fun p => (c :: p.1, p.2)

def Request.ofText (s : Text) : Request :=
  match splitSeparator? (Text.trim s) with
  | some (l, r) => ⟨Text.trim l, Text.trim (r.takeWhile (· != '\n'))⟩
  | none => ⟨Text.trim s, []⟩

/-- What can be wrong with a tag that shows a number. -/
inductive TagFault where
  /-- It holds signs that show digits without being decimal digits. -/
  | notDecimal (tag : Text)
  /-- It has more digits than are converted. -/
  | tooLong
deriving DecidableEq, Repr

namespace TagFault

/-- The message shows at most two hundred characters of the quoted tag. -/
def message : TagFault → Text
  | .notDecimal tag => "invalid literal for int() with base 10: ".toList ++ tag.quoted.take 200
  | .tooLong => "Exceeds the limit (4300 digits) for integer string conversion".toList

end TagFault

/-- The tags with a name. -/
def namedTags : List (Text × Base) :=
  [("hex".toList, .sixteen), ("16".toList, .sixteen), ("0x".toList, .sixteen),
    ("dec".toList, .ten), ("10".toList, .ten),
    ("bin".toList, .two), ("2".toList, .two), ("0b".toList, .two),
    ("oct".toList, .eight), ("8".toList, .eight), ("0o".toList, .eight), ("0".toList, .eight)]

/-- The number that decimal digits of any script denote. -/
def decimalValue (s : Text) : Nat :=
  s.foldl (fun m c => m * 10 + (Text.decimalValue? c).getD 0) 0

/-- The number that a tag of digit signs shows. -/
def tagNumber (t : Text) : Except TagFault Nat :=
  if Text.digitLimit < (t.takeWhile Text.isDecimal).length then .error .tooLong
  else if t.all Text.isDecimal then .ok (decimalValue t)
  else .error (.notDecimal t)

/-- The base that a tag asks for, or none if the tag is not known. -/
def baseOfTag (tag : Text) : Except TagFault (Option Base) :=
  let t := Text.lower (Text.trim tag)
  match namedTags.lookup t with
  | some b => .ok (some b)
  | none =>
      if !t.isEmpty && t.all Text.showsDigit then (tagNumber t).map fun n => Base.ofInt? n
      else .ok none

end Abacus.Numeral
