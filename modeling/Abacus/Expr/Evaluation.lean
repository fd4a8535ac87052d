import Abacus.Expr.Primitive

/-!
# Evaluation

A tree is evaluated from the inside out and from left to right. Only numbers, signs, the five
arithmetic operators, named constants and calls of functions by name have a value; any other form is
refused where it is met.
-/

namespace Abacus.Expr

/-- The value of a literal. -/
def literalValue : Constant → Except Invalid Float
  | .integer n => (integerValue n).mapError .failed
  | .real x => .ok x
  | _ => .error .notNumeric

/-- The operation of a unary operator. -/
def unaryOperation? : UnaryOp → Option (Float → Float)
  | .negate => some fun x => -x
  | .keep => some fun x => x
  | _ => none

/-- The operation of a binary operator. -/
def binaryOperation? : BinaryOp → Option (Float → Float → Except Invalid Float)
  | .add => some fun x y => .ok (x + y)
  | .sub => some fun x y => .ok (x - y)
  | .mul => some fun x y => .ok (x * y)
  | .div => some fun x y => (divide x y).mapError .failed
  | .pow => some power
  | _ => none

def nameValue (id : Text) : Except Invalid Float :=
  match Builtin.ofName? id with
  | some (.constant c) => .ok (constantValue c)
  | _ => .error (.unknownName id)

/-- The function that a tree in the place of a function stands for. -/
def calledFunction? : Expr → Option Function
  | .name id =>
      match Builtin.ofName? id with
      | some (.function f) => some f
      | _ => none
  | _ => none

mutual

def evaluate : Expr → Except Invalid Float
  | .constant c => literalValue c
  | .unary op e =>
      match evaluate e with
      | .error f => .error f
      | .ok x => match unaryOperation? op with
        | some g => .ok (g x)
        | none => .error (.unsupportedUnary op)
  | .binary op l r =>
      match binaryOperation? op with
      | none => .error (.unsupportedBinary op)
      | some g => match evaluate l with
        | .error f => .error f
        | .ok x => match evaluate r with
          | .error f => .error f
          | .ok y => g x y
  | .name id => nameValue id
  | .call func args keywords =>
      match calledFunction? func with
      | none => .error .notCallable
      | some g =>
          if !keywords.isEmpty || args.any isStarred then .error .notPositional
          else match evaluateAll args with
            | .error f => .error f
            | .ok xs => (apply g xs).mapError .failed
  | .other form _ => .error (.unsupportedForm form)

/-- The values of arguments; the first one without a value decides. -/
def evaluateAll : List Expr → Except Invalid (List Float)
  | [] => .ok []
  | e :: es =>
      match evaluate e with
      | .error f => .error f
      | .ok x => match evaluateAll es with
        | .error f => .error f
        | .ok xs => .ok (x :: xs)

end

example : evaluateAll [.binary .mod (.constant (.integer 5)) (.constant (.integer 2))] =
    .error (.unsupportedBinary .mod) := by
  cbv

/-- The value of a tree as a result, which has to be finite. -/
def result (e : Expr) : Except Invalid Float :=
  match evaluate e with
  | .error f => .error f
  | .ok x => if Binary64.isFinite x then .ok x else .error (.notFinite x)

end Abacus.Expr
