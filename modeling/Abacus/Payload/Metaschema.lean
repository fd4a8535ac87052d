import Abacus.Binary64.Basic
import Abacus.Json.Basic
import Abacus.Regex.Reading

/-!
# Which documents are schemas

A schema is a truth value or an object in which every known keyword has a value of the right form.
Keywords that are not known are passed over. What is wrong with a document is found in the order of
the keywords, not in that of the members, and the first finding counts.
-/

namespace Abacus.Payload.Metaschema

/-! ## Forms of plain values -/

def isText : Json → Bool
  | .text _ => true
  | _ => false

def isBool : Json → Bool
  | .bool _ => true
  | _ => false

def isList : Json → Bool
  | .list _ => true
  | _ => false

def isNumber : Json → Bool
  | .int _ => true
  | .real _ => true
  | _ => false

/-- A number that is not at most zero. -/
def isPositive : Json → Bool
  | .int n => 0 < n
  | .real x => !(x ≤ 0)
  | _ => false

/-- A whole number that is not negative, in either spelling. -/
def isCount : Json → Bool
  | .int n => 0 ≤ n
  | .real x => Binary64.isIntegral x && 0 ≤ x
  | _ => false

/-- The texts of a list of texts. -/
def texts? : Json → Option (List Text)
  | .list vs => vs.mapM fun v => match v with
    | .text s => some s
    | _ => none
  | _ => none

/-- A list of texts without repetitions. -/
def isTextSet (j : Json) : Bool :=
  match texts? j with
  | some ss => ss.eraseDups.length == ss.length
  | none => false

def typeNames : List Text :=
  ["array".toList, "boolean".toList, "integer".toList, "null".toList, "number".toList,
    "object".toList, "string".toList]

/-- A type's name, or a list of some without repetitions. -/
def isType (j : Json) : Bool :=
  match j with
  | .text s => typeNames.contains s
  | _ => match texts? j with
    | some ss => !ss.isEmpty && isTextSet j && ss.all typeNames.contains
    | none => false

/-- A reference whose only hash may be at its end. -/
def isIdentity : Json → Bool
  | .text s => !((Text.withoutLastBreak s).dropLast.contains '#')
  | _ => false

/-- A name for a place in a document. -/
def isAnchor : Json → Bool
  | .text (c :: s) => (c.isAlpha || c == '_') &&
      (Text.withoutLastBreak s).all fun c =>
        c.isAlphanum || c == '_' || c == '-' || c == '.'
  | _ => false

/-- An object whose values are truth values. -/
def isVocabulary : Json → Bool
  | .object ms => ms.all fun m => isBool m.2
  | _ => false

/-- An object whose values are lists of texts without repetitions. -/
def isRequirements : Json → Bool
  | .object ms => ms.all fun m => isTextSet m.2
  | _ => false

/-! ## Findings -/

/-- What is wrong with a document. -/
inductive Finding where
  | violation
  /-- A pattern that cannot be used has too much of something. -/
  | excess (e : Regex.Excess)
deriving DecidableEq, Repr

def violationUnless (holds : Bool) : List Finding := if holds then [] else [.violation]

/-- What is wrong with a pattern. -/
def patternFindings (s : Text) : List Finding :=
  match Regex.check s with
  | .ok () => []
  | .error .malformed => [.violation]
  | .error (.excess e) => [.excess e]

/-- The names of the members are patterns. -/
def nameFindings : Json → List Finding
  | .object ms => ms.flatMap fun m => patternFindings m.1
  | _ => []

/-- What is wrong with a value that has to be a schema or a list of texts. Its findings as a schema
are gone through for a pattern that cannot be used. -/
def dependencyFindings (v : Json) (asSchema : List Finding) : List Finding :=
  match asSchema.find? (· != .violation) with
  | some f => [f]
  | none => violationUnless (asSchema.isEmpty || isTextSet v)

/-! ## Keywords -/

/-- What the value of a keyword has to be. -/
inductive Form where
  | schema
  | schemas
  | schemaMap
  | patternMap
  | dependencies
  | pattern
  | plain (holds : Json → Bool)

/-- The keywords in the order in which their values are looked at. -/
def keywords : List (Text × Form) :=
  [("$id".toList, .plain isIdentity), ("$schema".toList, .plain isText),
    ("$ref".toList, .plain isText), ("$anchor".toList, .plain isAnchor),
    ("$dynamicRef".toList, .plain isText), ("$dynamicAnchor".toList, .plain isAnchor),
    ("$vocabulary".toList, .plain isVocabulary), ("$comment".toList, .plain isText),
    ("$defs".toList, .schemaMap),
    ("prefixItems".toList, .schemas), ("items".toList, .schema), ("contains".toList, .schema),
    ("additionalProperties".toList, .schema), ("properties".toList, .schemaMap),
    ("patternProperties".toList, .patternMap), ("dependentSchemas".toList, .schemaMap),
    ("propertyNames".toList, .schema), ("if".toList, .schema), ("then".toList, .schema),
    ("else".toList, .schema), ("allOf".toList, .schemas), ("anyOf".toList, .schemas),
    ("oneOf".toList, .schemas), ("not".toList, .schema), ("unevaluatedItems".toList, .schema),
    ("unevaluatedProperties".toList, .schema), ("type".toList, .plain isType),
    ("enum".toList, .plain isList), ("multipleOf".toList, .plain isPositive),
    ("maximum".toList, .plain isNumber), ("exclusiveMaximum".toList, .plain isNumber),
    ("minimum".toList, .plain isNumber), ("exclusiveMinimum".toList, .plain isNumber),
    ("maxLength".toList, .plain isCount), ("minLength".toList, .plain isCount),
    ("pattern".toList, .pattern), ("maxItems".toList, .plain isCount),
    ("minItems".toList, .plain isCount), ("uniqueItems".toList, .plain isBool),
    ("maxContains".toList, .plain isCount), ("minContains".toList, .plain isCount),
    ("maxProperties".toList, .plain isCount), ("minProperties".toList, .plain isCount),
    ("required".toList, .plain isTextSet), ("dependentRequired".toList, .plain isRequirements),
    ("title".toList, .plain isText), ("description".toList, .plain isText),
    ("deprecated".toList, .plain isBool), ("readOnly".toList, .plain isBool),
    ("writeOnly".toList, .plain isBool), ("examples".toList, .plain isList),
    ("format".toList, .plain isText), ("contentEncoding".toList, .plain isText),
    ("contentMediaType".toList, .plain isText), ("contentSchema".toList, .schema),
    ("definitions".toList, .schemaMap), ("dependencies".toList, .dependencies),
    ("$recursiveAnchor".toList, .plain isAnchor), ("$recursiveRef".toList, .plain isText)]

/-- The findings of all members in the order of the keywords. -/
def inOrder (found : List (Text × List Finding)) : List Finding :=
  keywords.flatMap fun k => (found.lookup k.1).getD []

mutual

/-- What is wrong with a document as a schema. -/
def findings : Json → List Finding
  | .bool _ => []
  | .object ms => inOrder (memberFindings ms)
  | _ => [.violation]

/-- What is wrong with the value of each member. -/
def memberFindings : List (Text × Json) → List (Text × List Finding)
  | [] => []
  | (name, v) :: ms =>
      (name, match keywords.lookup name with
        | none => []
        | some .schema => findings v
        | some .schemas => listFindings v
        | some .schemaMap => mapFindings v
        | some .patternMap => mapFindings v ++ nameFindings v
        | some .dependencies => dependenciesFindings v
        | some .pattern => match v with
          | .text s => patternFindings s
          | _ => [.violation]
        | some (.plain holds) => violationUnless (holds v)) :: memberFindings ms

/-- The value is a list of schemas that is not empty. -/
def listFindings : Json → List Finding
  | .list vs => violationUnless (!vs.isEmpty) ++ elementFindings vs
  | _ => [.violation]

def elementFindings : List Json → List Finding
  | [] => []
  | v :: vs => findings v ++ elementFindings vs

/-- The values of the members are schemas. -/
def mapFindings : Json → List Finding
  | .object ms => valueFindings ms
  | _ => [.violation]

def valueFindings : List (Text × Json) → List Finding
  | [] => []
  | (_, v) :: ms => findings v ++ valueFindings ms

/-- The values of the members are schemas or lists of texts. -/
def dependenciesFindings : Json → List Finding
  | .object ms => eitherFindings ms
  | _ => [.violation]

def eitherFindings : List (Text × Json) → List Finding
  | [] => []
  | (_, v) :: ms => dependencyFindings v (findings v) ++ eitherFindings ms

end

/-- What decides that a document is no schema, if anything does. -/
def objection? (j : Json) : Option Finding := (findings j).head?

end Abacus.Payload.Metaschema
