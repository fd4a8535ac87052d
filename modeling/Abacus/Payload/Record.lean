import Abacus.Decimal.Reader
import Abacus.Payload.Contract

/-!
# Records from members

The values of the library are built from the members of an object. Every member is checked, and all
that is wrong is reported; members that a record does not have are passed over. An integer may be
given as a truth value, a whole double or a text of digits.
-/

namespace Abacus.Payload

inductive MemberFault where
  | missing
  | stringType
  | stringTooShort
  | intType
  | intParsing
  | intParsingSize
  | intFromFloat
  | finiteNumber
  | greaterThanEqual
  | lessThanEqual
  | enum
  | valueError
  | frozenInstance
deriving DecidableEq, Repr

def MemberFault.name : MemberFault → Text
  | .missing => "missing".toList
  | .stringType => "string_type".toList
  | .stringTooShort => "string_too_short".toList
  | .intType => "int_type".toList
  | .intParsing => "int_parsing".toList
  | .intParsingSize => "int_parsing_size".toList
  | .intFromFloat => "int_from_float".toList
  | .finiteNumber => "finite_number".toList
  | .greaterThanEqual => "greater_than_equal".toList
  | .lessThanEqual => "less_than_equal".toList
  | .enum => "enum".toList
  | .valueError => "value_error".toList
  | .frozenInstance => "frozen_instance".toList

/-- A value, or the members that are wrong. -/
abbrev Checked (α : Type) := Except (List (Text × MemberFault)) α

namespace Checked

variable {α β γ : Type}

/-- Two members, with the faults of both. -/
def both (f : α → β → γ) : Checked α → Checked β → Checked γ
  | .ok a, .ok b => .ok (f a b)
  | .ok _, .error fs => .error fs
  | .error fs, .ok _ => .error fs
  | .error fs, .error gs => .error (fs ++ gs)

end Checked

def readText : Json → Except MemberFault Text
  | .text s => .ok s
  | _ => .error .stringType

/-- A text that is not empty. -/
def readLabel (j : Json) : Except MemberFault Text :=
  match readText j with
  | .ok [] => .error .stringTooShort
  | r => r

/-- A text in the form of a hexadecimal rendering. -/
def readHex (j : Json) : Except MemberFault Text :=
  match readText j with
  | .ok s => if hexShape.admits s then .ok s else .error .valueError
  | .error f => .error f

/-- The integer that a text of digits denotes; zeros behind a point are passed over. -/
def integerOfText? (s : Text) : Option Int :=
  let parts := Radix.splitSign (Text.trimWhile Text.isSpacing s)
  let whole := parts.2.takeWhile (· != '.')
  let rest := parts.2.drop whole.length
  if rest.tail.any (· != '0') then none
  else match Decimal.takeFigures? whole with
    | some (d :: ds, []) => some (Radix.signed parts.1 (Decimal.ofFigures (d :: ds)))
    | _ => none

def readInt : Json → Except MemberFault Int
  | .int n => .ok n
  | .bool b => .ok (if b then 1 else 0)
  | .real x =>
      if !Binary64.isFinite x then .error .finiteNumber
      else if !Binary64.isIntegral x then .error .intFromFloat
      else
        let n := Binary64.truncate x
        if Int64.minValue.toInt ≤ n ∧ n ≤ Int64.maxValue.toInt then .ok n
        else .error .intParsingSize
  | .text s =>
      if Text.digitLimit < s.length then .error .intParsingSize
      else match integerOfText? s with
        | some n => .ok n
        | none => .error .intParsing
  | _ => .error .intType

def readBase (j : Json) : Except MemberFault Base :=
  match readInt j with
  | .error f => .error f
  | .ok n => match Base.ofInt? n with
    | some b => .ok b
    | none => .error (if n < 2 then .greaterThanEqual else .lessThanEqual)

def readSpelling : Json → Except MemberFault Spelling
  | .text s => match Spelling.ofName? s with
    | some w => .ok w
    | none => .error .enum
  | _ => .error .enum

/-- A member that may be left out or be nothing. -/
def readOptional {α : Type} (read : Json → Except MemberFault α) :
    Json → Except MemberFault (Option α)
  | .null => .ok none
  | j => (read j).map some

/-- A member of an object, or the value in its place where it is missing. -/
def memberOr {α : Type} (j : Json) (name : Text) (absent : Except MemberFault α)
    (read : Json → Except MemberFault α) : Checked α :=
  (match j.member? name with
    | some v => read v
    | none => absent).mapError fun f => [(name, f)]

/-- A member that has to be there. -/
def member {α : Type} (j : Json) (name : Text) (read : Json → Except MemberFault α) : Checked α :=
  memberOr j name (.error .missing) read

def readItem (j : Json) : Checked Item :=
  Checked.both Item.mk (member j "label".toList readLabel)
    (member j "description".toList readText)

def readRequest (j : Json) : Checked Numeral.Request :=
  Checked.both Numeral.Request.mk (member j "left".toList readText)
    (memberOr j "right".toList (.ok []) readText)

def readConversion (j : Json) : Checked Conversion :=
  Checked.both (fun f t => f t)
    (Checked.both (fun f o => f o)
      (Checked.both (fun f b => f b)
        (Checked.both Conversion.mk (member j "hex".toList readHex)
          (member j "dec".toList readText))
        (member j "bin".toList readText))
      (member j "oct".toList readText))
    (memberOr j "first".toList (.ok none) (readOptional readText))

def readNumeral (j : Json) : Checked Numeral :=
  Checked.both (fun f t => f t)
    (Checked.both (fun f w => f w)
      (Checked.both Numeral.mk (member j "value".toList readInt)
        (member j "from_base".toList readBase))
      (member j "notation".toList readSpelling))
    (memberOr j "target_base".toList (.ok none) (readOptional readBase))

/-- Records do not change: an attempt to set a member is a fault. -/
def refuseChange (name : Text) : List (Text × MemberFault) := [(name, .frozenInstance)]

/-- The faults as sorted rows. -/
def faultRows (fs : List (Text × MemberFault)) : List (Text × Text) :=
  (fs.map fun f => (f.1, f.2.name)).mergeSort rowLe

end Abacus.Payload
