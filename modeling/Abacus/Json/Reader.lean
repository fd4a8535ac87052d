import Abacus.Decimal.Reader
import Abacus.Json.Basic
import Abacus.Radix.Digits

/-!
# Reading JSON

A document is one value between blanks. Of members with one name the last counts. The names of
infinities and NaN are numbers; whole numbers have at most 4300 digits.
-/

namespace Abacus.Json

inductive ReadFault where
  | malformed
  | tooManyDigits
deriving DecidableEq, Repr

abbrev Reader (α : Type) := Text → Except ReadFault (α × Text)

def isGap (c : Char) : Bool := c == ' ' || c == '\t' || c == '\n' || c == '\r'

def skipGaps (s : Text) : Text := s.dropWhile isGap

/-- Four hexadecimal digits. -/
def readUnit? : Text → Option (Nat × Text)
  | a :: b :: c :: d :: s => do
      let hex (c : Char) := if Radix.isDigitBelow 16 c then Radix.digitValue? c.toLower else none
      let a ← hex a
      let b ← hex b
      let c ← hex c
      let d ← hex d
      some (((a * 16 + b) * 16 + c) * 16 + d, s)
  | _ => none

/-- The character of a unit, or of a pair of units that stand for one character. -/
def readEscapedUnit? (s : Text) : Option (Char × Text) :=
  match readUnit? s with
  | none => none
  | some (u, s) =>
      if 0xD800 ≤ u ∧ u < 0xDC00 then
        match s with
        | '\\' :: 'u' :: t => match readUnit? t with
          | some (v, t) =>
              if 0xDC00 ≤ v ∧ v < 0xE000 then
                some (Char.ofNat (0x10000 + (u - 0xD800) * 0x400 + (v - 0xDC00)), t)
              else some (Char.ofNat u, s)
          | none => some (Char.ofNat u, s)
        | _ => some (Char.ofNat u, s)
      else some (Char.ofNat u, s)

/-- The character of a short escape. -/
def shortEscape? : Char → Option Char
  | '"' => some '"'
  | '\\' => some '\\'
  | '/' => some '/'
  | 'b' => some '\x08'
  | 'f' => some '\x0c'
  | 'n' => some '\n'
  | 'r' => some '\r'
  | 't' => some '\t'
  | _ => none

/-- What stands before the closing quote, as it is written, and what follows it. -/
def untilQuote? : Text → Option (Text × Text)
  | [] => none
  | '"' :: s => some ([], s)
  | '\\' :: c :: s => (untilQuote? s).map fun p => ('\\' :: c :: p.1, p.2)
  | c :: s => (untilQuote? s).map fun p => (c :: p.1, p.2)

/-- The text that is written between quotes. Every character of it takes at least one, so that the
length is enough to count down. -/
def unescaped? : Nat → Text → Option Text
  | _, [] => some []
  | 0, _ => none
  | n + 1, '\\' :: 'u' :: s => do
      let (c, s) ← readEscapedUnit? s
      let t ← unescaped? n s
      some (c :: t)
  | n + 1, '\\' :: c :: s => do
      let c ← shortEscape? c
      let t ← unescaped? n s
      some (c :: t)
  | n + 1, c :: s =>
      if c.toNat < 32 || c == '\\' then none else (unescaped? n s).map (c :: ·)

/-- What follows an opening quote, up to the closing one. -/
def readQuoted (s : Text) : Except ReadFault (Text × Text) :=
  match untilQuote? s with
  | none => .error .malformed
  | some (body, rest) =>
      match unescaped? body.length body with
      | some t => .ok (t, rest)
      | none => .error .malformed

/-- The figures of the whole part: a zero alone, or figures that do not start with one. -/
def readWhole? (s : Text) : Option (List Char × Text) :=
  match s with
  | '0' :: r => some (['0'], r)
  | _ =>
      let ds := s.takeWhile Char.isDigit
      if ds.isEmpty then none else some (ds, s.dropWhile Char.isDigit)

/-- A point and figures, if both are there. -/
def readPart (s : Text) : Option (List Char) × Text :=
  match s with
  | '.' :: r =>
      let ds := r.takeWhile Char.isDigit
      if ds.isEmpty then (none, s) else (some ds, r.dropWhile Char.isDigit)
  | _ => (none, s)

/-- A letter, an optional sign and figures, if letter and figures are there. -/
def readPower (s : Text) : Option Int × Text :=
  match s with
  | c :: r =>
      if c == 'e' || c == 'E' then
        let negative := r.head? == some '-'
        let t := if negative || r.head? == some '+' then r.tail else r
        let ds := t.takeWhile Char.isDigit
        if ds.isEmpty then (none, s)
        else
          let n : Int := Decimal.ofFigures ds
          (some (if negative then -n else n), t.dropWhile Char.isDigit)
      else (none, s)
  | [] => (none, s)

def readNumber (s : Text) : Except ReadFault (Json × Text) :=
  let negative := s.head? == some '-'
  match readWhole? (if negative then s.tail else s) with
  | none => .error .malformed
  | some (whole, r) =>
      let part := readPart r
      let power := readPower part.2
      if part.1.isNone && power.1.isNone then
        if Text.digitLimit < whole.length then .error .tooManyDigits
        else .ok (.int (Radix.signed negative (Decimal.ofFigures whole)), r)
      else
        .ok (.real ((Decimal.Unsigned.mk whole (part.1.getD []) (power.1.getD 0)).toFloat negative),
          power.2)

/-- The words that are values. -/
def words : List (Text × Json) :=
  [("null".toList, .null), ("true".toList, .bool true), ("false".toList, .bool false),
    ("NaN".toList, .real Binary64.nan), ("Infinity".toList, .real (Binary64.infinity false)),
    ("-Infinity".toList, .real (Binary64.infinity true))]

def readWord? (s : Text) : Option (Json × Text) :=
  (words.find? fun w => Text.startsWith s w.1).map fun w => (w.2, s.drop w.1.length)

mutual

/-- A value at the start of a text. -/
def readValue : Nat → Reader Json
  | 0, _ => .error .malformed
  | _ + 1, '"' :: s => (readQuoted s).map fun r => (.text r.1, r.2)
  | n + 1, '[' :: s =>
      match skipGaps s with
      | ']' :: s => .ok (.list [], s)
      | s => (readElements n s).map fun r => (.list r.1, r.2)
  | n + 1, '\x7b' :: s =>
      match skipGaps s with
      | '\x7d' :: s => .ok (.object [], s)
      | s => (readMembers n [] s).map fun r => (.object r.1, r.2)
  | _ + 1, s =>
      match readWord? s with
      | some r => .ok r
      | none => readNumber s

/-- The elements of a list up to its closing bracket. -/
def readElements : Nat → Reader (List Json)
  | 0, _ => .error .malformed
  | n + 1, s => do
      let (v, s) ← readValue n s
      match skipGaps s with
      | ',' :: s =>
          let (vs, s) ← readElements n (skipGaps s)
          .ok (v :: vs, s)
      | ']' :: s => .ok ([v], s)
      | _ => .error .malformed

/-- The members of an object up to its closing brace, put after those already read. -/
def readMembers : Nat → List (Text × Json) → Reader (List (Text × Json))
  | 0, _, _ => .error .malformed
  | n + 1, acc, '"' :: s => do
      let (name, s) ← readQuoted s
      match skipGaps s with
      | ':' :: s =>
          let (v, s) ← readValue n (skipGaps s)
          match skipGaps s with
          | ',' :: s => readMembers n (setMember acc name v) (skipGaps s)
          | '\x7d' :: s => .ok (setMember acc name v, s)
          | _ => .error .malformed
      | _ => .error .malformed
  | _ + 1, _, _ => .error .malformed

end

/-- The value of a document. -/
def read (s : Text) : Except ReadFault Json := do
  let (v, rest) ← readValue (s.length + 1) (skipGaps s)
  if (skipGaps rest).isEmpty then .ok v else .error .malformed

end Abacus.Json
