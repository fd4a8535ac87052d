import Abacus.Radix.Digits
import Abacus.Regex.Token
import Abacus.Text.CharacterName

/-!
# Escapes in patterns

A backslash gives letters and digits a meaning: a place in the text, a class of characters, a
character by its code point or its name, or what a group has matched. Letters without such a meaning
are refused, and any other character stands for itself.
-/

namespace Abacus.Regex

inductive Escape where
  | place
  | kind
  | character (codePoint : Nat)
  | group (number : Nat)
deriving DecidableEq, Repr

/-- The number that digits denote in a base. -/
def digitsValue (base : Nat) (ds : Text) : Nat :=
  ds.foldl (fun m c => m * base + (Radix.digitValue? c.toLower).getD 0) 0

namespace Escape

def isOctal (c : Char) : Bool := Radix.isDigitBelow 8 c

/-- The code points of the letters that stand for one control character. -/
def controls : List (Char × Nat) :=
  [('a', 7), ('f', 12), ('n', 10), ('r', 13), ('t', 9), ('v', 11)]

def places : List Char := ['A', 'b', 'B', 'Z']

def kinds : List Char := ['d', 'D', 's', 'S', 'w', 'W']

/-- How many hexadecimal digits follow a letter. -/
def hexLength? : Char → Option Nat
  | 'x' => some 2
  | 'u' => some 4
  | 'U' => some 8
  | _ => none

/-- A code point that one character has. -/
def codePoint? (n : Nat) : Option Escape := if n < 0x110000 then some (character n) else none

/-- A code point below 256 in octal digits. -/
def octal? (ds : Text) : Option Escape :=
  if digitsValue 8 ds < 256 then some (character (digitsValue 8 ds)) else none

/-- Takes the name of a character between braces. -/
def takeNamed? : List Token → Option (Escape × List Token)
  | .plain '\x7b' :: ts =>
      (takeName? '\x7d' ts).bind fun r =>
        (Text.CharacterName.codePoint? r.1).map fun n => (character n, r.2)
  | _ => none

/-- Takes what has the same meaning in sets and outside of them. -/
def takeCommon? (c : Char) (ts : List Token) : Option (Escape × List Token) :=
  match controls.lookup c, hexLength? c with
  | some n, _ => some (character n, ts)
  | none, some n =>
      let ds := takeUpTo n (Radix.isDigitBelow 16) ts
      if ds.1.length = n then (codePoint? (digitsValue 16 ds.1)).map fun e => (e, ds.2) else none
  | none, none =>
      if c == 'N' then takeNamed? ts
      else if kinds.contains c then some (kind, ts)
      else if c.isAlphanum then none
      else some (character c.toNat, ts)

/-- Takes what digits mean outside of sets: a character in octal after a zero or in three digits,
otherwise a group by one or two digits. -/
def takeNumbered? (c : Char) (ts : List Token) : Option (Escape × List Token) :=
  let octal := takeUpTo 2 isOctal ts
  if c == '0' || (isOctal c && octal.1.length = 2) then
    (octal? (c :: octal.1)).map fun e => (e, octal.2)
  else
    let ds := takeUpTo 1 Char.isDigit ts
    some (group (digitsValue 10 (c :: ds.1)), ds.2)

/-- Takes what follows a backslash outside of sets. -/
def take? (c : Char) (ts : List Token) : Option (Escape × List Token) :=
  if places.contains c then some (place, ts)
  else if c.isDigit then takeNumbered? c ts
  else takeCommon? c ts

/-- Takes what follows a backslash in a set, where a `b` is the backspace. -/
def takeInSet? (c : Char) (ts : List Token) : Option (Escape × List Token) :=
  if c == 'b' then some (character 8, ts)
  else if isOctal c then
    let ds := takeUpTo 2 isOctal ts
    (octal? (c :: ds.1)).map fun e => (e, ds.2)
  else takeCommon? c ts

end Escape

/-! ## Sets -/

/-- Takes a member of a set: its code point, or none for a class of characters. -/
def takeMember? : Token → List Token → Option (Option Nat × List Token)
  | .plain c, ts => some (some c.toNat, ts)
  | .escaped c, ts =>
      (Escape.takeInSet? c ts).map fun r =>
        (match r.1 with
          | .character n => some n
          | _ => none, r.2)
  | .dangling, _ => none

/-- Whether two members can be the ends of a range. -/
def isRange : Option Nat → Option Nat → Bool
  | some lo, some hi => lo ≤ hi
  | _, _ => false

/-- Takes the members of a set and the bracket that closes it; a bracket at the start is a member.
Every member takes up at least one token, so that their number is enough to count down. -/
def takeMembers? : Nat → Bool → List Token → Option (List Token)
  | 0, _, _ => none
  | _ + 1, _, [] => none
  | n + 1, atStart, t :: ts =>
      if t = .plain ']' && !atStart then some ts
      else match takeMember? t ts with
        | none => none
        | some (_, .plain '-' :: .plain ']' :: ts) => some ts
        | some (_, [.plain '-']) => none
        | some (lo, .plain '-' :: t :: ts) =>
            match takeMember? t ts with
            | none => none
            | some (hi, ts) => if isRange lo hi then takeMembers? n false ts else none
        | some (_, ts) => takeMembers? n false ts

/-- Takes what follows the bracket that opens a set. -/
def takeSet? : List Token → Option (List Token)
  | .plain '^' :: ts => takeMembers? ts.length true ts
  | ts => takeMembers? ts.length true ts

end Abacus.Regex
