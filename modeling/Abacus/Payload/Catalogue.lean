import Abacus.Json.Reader
import Abacus.Payload.Contract
import Abacus.Payload.Metaschema

/-!
# Catalogues of schemas

A catalogue is a folder of schema documents. A schema is named by the path to its document without
the ending, and a document is checked when it is loaded.
-/

namespace Abacus.Payload

inductive LoadFault where
  | notFound
  | nameTooLong
  | malformed (fault : Json.ReadFault)
  | notSchema
  | excess (e : Regex.Excess)
deriving DecidableEq, Repr

/-- A document is kept as text or is there already. -/
inductive Source where
  | text (s : Text)
  | document (j : Json)

/-- The documents of a folder by the names of their files. The folder itself is found from the ones
around it by the given names, the innermost first. -/
structure Catalogue where
  folders : List Text
  documents : List (Text × Source)

/-- The documents of the two contracts. -/
def bundled : Catalogue where
  folders := ["schema".toList, "contracts".toList, "core".toList, "fuzzycal".toList]
  documents := [("conversion_result.json".toList, .document conversionResult.document),
    ("result_items.json".toList, .document resultItems.document)]

def Source.read : Source → Except LoadFault Json
  | .text s => (Json.read s).mapError .malformed
  | .document j => .ok j

/-! ## Paths -/

/-- The longest name of a file or folder and the longest path, in bytes. -/
def nameLimit : Nat := 255
def pathLimit : Nat := 4095

def byteLength (s : Text) : Nat := s.foldl (fun n c => n + c.utf8Size) 0

/-- The names along the path to the document of a schema. Empty names and single points lead
nowhere. -/
def pathNames (name : Text) : List Text :=
  (Text.pieces (· == '/') (name ++ ".json".toList)).filter fun p => !p.isEmpty && p != ['.']

namespace Catalogue

/-- Follows a path from a folder that is so many levels above the catalogue. -/
def follow (c : Catalogue) : Nat → List Text → Except LoadFault Source
  | _, [] => .error .notFound
  | level, p :: ps =>
      if nameLimit < byteLength p then .error .nameTooLong
      else if p = ['.', '.'] then follow c (level + 1) ps
      else match level, ps with
        | 0, [] => (c.documents.lookup p).elim (.error .notFound) .ok
        | 0, _ => .error .notFound
        | n + 1, _ => if c.folders[n]? = some p then follow c n ps else .error .notFound

/-- The document of a schema. A path from the root stays outside of the known folders. -/
def find (c : Catalogue) (name : Text) : Except LoadFault Source :=
  let ps := pathNames name
  if name.contains '\x00' then .error .notFound
  else if pathLimit < byteLength (Text.joined ['/'] ps) then .error .nameTooLong
  else follow c (if name.head? = some '/' then c.folders.length + 1 else 0) ps

/-- The schema with a name. -/
def load (c : Catalogue) (name : Text) : Except LoadFault Json := do
  let j ← (← c.find name).read
  match Metaschema.objection? j with
  | none => return j
  | some .violation => throw .notSchema
  | some (.excess e) => throw (.excess e)

end Catalogue

end Abacus.Payload
