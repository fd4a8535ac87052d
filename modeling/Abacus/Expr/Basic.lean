import Abacus.Text.Basic

/-!
# Expression trees

Trees for a general expression language, of which the calculator evaluates a small part. The forms
it evaluates have constructors of their own; every other form keeps its name and its
subexpressions.
-/

namespace Abacus

inductive Constant where
  | integer (n : Int)
  | real (x : Float)
  | imaginary (x : Float)
  | truth (b : Bool)
  | nothing
  | ellipsis
  | text (s : Text)
  | bytes (s : Text)

inductive UnaryOp where
  | negate
  | keep
  | invert
  | not
deriving DecidableEq, Repr

inductive BinaryOp where
  | add
  | sub
  | mul
  | div
  | pow
  | floorDiv
  | mod
  | matMul
  | shiftLeft
  | shiftRight
  | bitOr
  | bitXor
  | bitAnd
deriving DecidableEq, Repr

/-- The forms that are read but never evaluated. -/
inductive Form where
  | boolean
  | named
  | lambda
  | conditional
  | dict
  | set
  | listComp
  | setComp
  | dictComp
  | generator
  | await
  | yield
  | yieldFrom
  | compare
  | member
  | subscript
  | starred
  | list
  | tuple
  | slice
  | joinedText
  | formattedValue
deriving DecidableEq, Repr

inductive Expr where
  | constant (c : Constant)
  | unary (op : UnaryOp) (operand : Expr)
  | binary (op : BinaryOp) (left right : Expr)
  | name (id : Text)
  | call (func : Expr) (args : List Expr) (keywords : List (Option Text × Expr))
  | other (form : Form) (parts : List Expr)

/-- The name under which a unary operator is reported. -/
def UnaryOp.label : UnaryOp → Text
  | .negate => "USub".toList
  | .keep => "UAdd".toList
  | .invert => "Invert".toList
  | .not => "Not".toList

/-- The name under which a binary operator is reported. -/
def BinaryOp.label : BinaryOp → Text
  | .add => "Add".toList
  | .sub => "Sub".toList
  | .mul => "Mult".toList
  | .div => "Div".toList
  | .pow => "Pow".toList
  | .floorDiv => "FloorDiv".toList
  | .mod => "Mod".toList
  | .matMul => "MatMult".toList
  | .shiftLeft => "LShift".toList
  | .shiftRight => "RShift".toList
  | .bitOr => "BitOr".toList
  | .bitXor => "BitXor".toList
  | .bitAnd => "BitAnd".toList

/-- The name under which a form is reported. -/
def Form.label : Form → Text
  | .boolean => "BoolOp".toList
  | .named => "NamedExpr".toList
  | .lambda => "Lambda".toList
  | .conditional => "IfExp".toList
  | .dict => "Dict".toList
  | .set => "Set".toList
  | .listComp => "ListComp".toList
  | .setComp => "SetComp".toList
  | .dictComp => "DictComp".toList
  | .generator => "GeneratorExp".toList
  | .await => "Await".toList
  | .yield => "Yield".toList
  | .yieldFrom => "YieldFrom".toList
  | .compare => "Compare".toList
  | .member => "Attribute".toList
  | .subscript => "Subscript".toList
  | .starred => "Starred".toList
  | .list => "List".toList
  | .tuple => "Tuple".toList
  | .slice => "Slice".toList
  | .joinedText => "JoinedStr".toList
  | .formattedValue => "FormattedValue".toList

namespace Expr

def isStarred : Expr → Bool
  | .other .starred _ => true
  | _ => false

mutual

/-- Whether the tree can be the target of an iteration. -/
def isTarget : Expr → Bool
  | .name _ => true
  | .other .member _ => true
  | .other .subscript _ => true
  | .other .tuple es => areTargets es
  | .other .list es => areTargets es
  | .other .starred es => areTargets es
  | _ => false

def areTargets : List Expr → Bool
  | [] => true
  | e :: es => isTarget e && areTargets es

end

end Expr

end Abacus
