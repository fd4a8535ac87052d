import Abacus.Text.Basic

/-!
# JSON values

Whole numbers and doubles are told apart by their spelling. The members of an object keep the order
in which their names first occur.
-/

namespace Abacus

inductive Json where
  | null
  | bool (b : Bool)
  | int (n : Int)
  | real (x : Float)
  | text (s : Text)
  | list (values : List Json)
  | object (members : List (Text × Json))

namespace Json

/-- Sets a member; a name that is there already keeps its place. -/
def setMember (members : List (Text × Json)) (name : Text) (value : Json) : List (Text × Json) :=
  if (members.lookup name).isSome then
    members.map fun m => if m.1 == name then (name, value) else m
  else members ++ [(name, value)]

/-- The member of an object with a name. -/
def member? (j : Json) (name : Text) : Option Json :=
  match j with
  | .object members => members.lookup name
  | _ => none

end Json

end Abacus
