import Abacus.Json.Basic
import Abacus.Report
import Abacus.Text.Pattern

/-!
# Contracts of payloads

A payload is checked against a schema before it is handed out. A check lists every violation with
the place in the payload and the rule that is broken; a value of the wrong type breaks that rule
only.
-/

namespace Abacus.Payload

open Text (Pattern Piece)

/-- The form of a text: the source of its pattern, and the pattern. -/
structure Shape where
  source : Text
  pattern : Pattern

/-- Whether a text, without one line break at its end, has the form. -/
def Shape.admits (sh : Shape) (s : Text) : Bool := sh.pattern.fits (Text.withoutLastBreak s)

inductive Schema where
  | text (shape : Option Shape) (minLength : Nat)
  | record (members : List (Text × Bool × Schema))
  | sequence (minItems : Nat) (item : Schema)

inductive Rule where
  | type
  | required
  | pattern
  | minLength
  | minItems
  | additionalProperties
deriving DecidableEq, Repr

def Rule.name : Rule → Text
  | .type => "type".toList
  | .required => "required".toList
  | .pattern => "pattern".toList
  | .minLength => "minLength".toList
  | .minItems => "minItems".toList
  | .additionalProperties => "additionalProperties".toList

/-- A broken rule and the way to the value that breaks it. -/
structure Violation where
  path : List Text
  rule : Rule
deriving DecidableEq, Repr

def Violation.inside (step : Text) (v : Violation) : Violation := { v with path := step :: v.path }

/-- One violation of a rule at the value itself, if it is broken. -/
def broken (rule : Rule) (b : Bool) : List Violation := if b then [⟨[], rule⟩] else []

mutual

/-- All violations of a schema by a value. -/
def check : Schema → Json → List Violation
  | .text shape minLength, .text s =>
      broken .minLength (s.length < minLength)
        ++ broken .pattern (shape.any fun sh => !sh.admits s)
  | .record defs, .object members =>
      broken .additionalProperties
          (members.any fun m => !(defs.any fun d => d.1 == m.1))
        ++ checkMembers defs (.object members)
  | .sequence minItems item, .list values =>
      broken .minItems (values.length < minItems)
        ++ (values.zipIdx.flatMap fun v =>
          (check item v.1).map (·.inside (toString v.2).toList))
  | .text _ _, _ => [⟨[], .type⟩]
  | .record _, _ => [⟨[], .type⟩]
  | .sequence _ _, _ => [⟨[], .type⟩]

/-- The violations of the members a record describes. -/
def checkMembers : List (Text × Bool × Schema) → Json → List Violation
  | [], _ => []
  | (name, required, schema) :: defs, j =>
      (match j.member? name with
        | some v => (check schema v).map (·.inside name)
        | none => broken .required required) ++ checkMembers defs j

end

/-! ## The two contracts -/

/-- A payload's schema with its identity. -/
structure Contract where
  id : Text
  title : Text
  description : Text
  schema : Schema

def isUpperHex (c : Char) : Bool := c.isDigit || (65 ≤ c.toNat && c.toNat < 71)

def minus : Piece := .optional (· == '-')

def hexShape : Shape :=
  ⟨"^-?0x[0-9A-F]+$".toList, [minus, .exactly '0', .exactly 'x', .some isUpperHex]⟩

def decShape : Shape := ⟨"^-?[0-9]+$".toList, [minus, .some Char.isDigit]⟩

def binShape : Shape :=
  ⟨"^-?0b[01]+$".toList, [minus, .exactly '0', .exactly 'b', .some fun c => c == '0' || c == '1']⟩

def octShape : Shape :=
  ⟨"^-?0o[0-7]+$".toList,
    [minus, .exactly '0', .exactly 'o', .some fun c => 48 ≤ c.toNat && c.toNat < 56]⟩

/-- A mark is made of characters that may be digits, so it needs no piece of its own. -/
def targetShape : Shape :=
  ⟨"^-?(0x|0b|0o)?[0-9A-Za-z]+$".toList, [minus, .some Char.isAlphanum]⟩

def shaped (sh : Shape) : Schema := .text (some sh) 0

/-- The contract of a conversion. -/
def conversionResult : Contract where
  id := "conversion_result.json".toList
  title := "ConversionResult".toList
  description := "Canonical renderings of one signed integer".toList
  schema := .record
    [("hex".toList, true, shaped hexShape), ("dec".toList, true, shaped decShape),
      ("bin".toList, true, shaped binShape), ("oct".toList, true, shaped octShape),
      ("first".toList, false, shaped targetShape)]

/-- The contract of a report. -/
def resultItems : Contract where
  id := "result_items.json".toList
  title := "ResultItems".toList
  description := "Ordered (label, description) pairs shown to the user".toList
  schema := .sequence 1 (.record
    [("label".toList, true, .text none 1), ("description".toList, true, .text none 0)])

/-! ## Schemas as documents -/

mutual

/-- The members of a schema's document. -/
def describe : Schema → List (Text × Json)
  | .text shape minLength =>
      [("type".toList, .text "string".toList)]
        ++ (match shape with
          | some sh => [("pattern".toList, .text sh.source)]
          | none => [])
        ++ (if minLength = 0 then [] else [("minLength".toList, .int minLength)])
  | .record defs =>
      [("type".toList, .text "object".toList),
        ("required".toList, .list ((defs.filter (·.2.1)).map fun d => .text d.1)),
        ("additionalProperties".toList, .bool false),
        ("properties".toList, .object (describeMembers defs))]
  | .sequence minItems item =>
      [("type".toList, .text "array".toList), ("minItems".toList, .int minItems),
        ("items".toList, .object (describe item))]

def describeMembers : List (Text × Bool × Schema) → List (Text × Json)
  | [] => []
  | (name, _, schema) :: defs => (name, .object (describe schema)) :: describeMembers defs

end

def Contract.document (c : Contract) : Json :=
  .object ([("$schema".toList, .text "https://json-schema.org/draft/2020-12/schema".toList),
    ("$id".toList, .text c.id), ("title".toList, .text c.title),
    ("description".toList, .text c.description)] ++ describe c.schema)

/-! ## Payloads -/

/-- A report as a payload. -/
def ofItems (items : List Item) : Json :=
  .list (items.map fun i =>
    .object [("label".toList, .text i.label), ("description".toList, .text i.description)])

/-- A conversion as a payload; the target rendering is there only if a target was asked for. -/
def ofConversion (c : Conversion) : Json :=
  .object ([("hex".toList, .text c.hex), ("dec".toList, .text c.dec), ("bin".toList, .text c.bin),
    ("oct".toList, .text c.oct)] ++
      match c.first with
      | some t => [("first".toList, .text t)]
      | none => [])

/-! ## Order of violations -/

/-- The order of texts by code points. -/
def textLe : Text → Text → Bool
  | [], _ => true
  | _ :: _, [] => false
  | a :: s, b :: t => a.toNat < b.toNat || (a == b && textLe s t)

/-- A violation as two texts: the way, its steps joined, and the rule. -/
def Violation.row (v : Violation) : Text × Text := (Text.joined ['/'] v.path, v.rule.name)

def rowLe (a b : Text × Text) : Bool := if a.1 == b.1 then textLe a.2 b.2 else textLe a.1 b.1

/-- The violations as sorted rows. -/
def rows (vs : List Violation) : List (Text × Text) := (vs.map (·.row)).mergeSort rowLe

end Abacus.Payload
