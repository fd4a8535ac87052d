import Abacus.Decimal.Shortest
import Abacus.Expr.Basic
import Abacus.Text.Quoted

/-!
# What can be wrong with an expression
-/

namespace Abacus.Expr

/-- Why an operation on doubles has no value. -/
inductive ArithmeticFault where
  | divisionByZero
  | outsideDomain
  | outsideRange
  | powerOverflow
  | zeroToNegative
  | integerTooLarge
  | infiniteToInteger
  | nanToInteger
  | complexOverflow
  | wrongArity
deriving DecidableEq, Repr

/-- The wording of a fault, for those that have one. -/
def ArithmeticFault.detail? : ArithmeticFault → Option Text
  | .divisionByZero => some "float division by zero".toList
  | .outsideDomain => some "math domain error".toList
  | .outsideRange => some "math range error".toList
  | .powerOverflow => some "(34, 'Numerical result out of range')".toList
  | .zeroToNegative => some "0.0 cannot be raised to a negative power".toList
  | .integerTooLarge => some "int too large to convert to float".toList
  | .infiniteToInteger => some "cannot convert float infinity to integer".toList
  | .nanToInteger => some "cannot convert float NaN to integer".toList
  | .complexOverflow => none
  | .wrongArity => none

/-- Why an admitted expression has no value. -/
inductive Invalid where
  | tooLong (limit : Int)
  | unreadable
  | notNumeric
  | unsupportedUnary (op : UnaryOp)
  | unsupportedBinary (op : BinaryOp)
  | notReal
  | unknownName (id : Text)
  | notCallable
  | notPositional
  | unsupportedForm (form : Form)
  | failed (cause : ArithmeticFault)
  | notFinite (x : Float)

def Invalid.message : Invalid → Text
  | .tooLong limit =>
      "Expression too long (limit: ".toList ++ (toString limit).toList ++ " chars)".toList
  | .unreadable => "Syntax error".toList
  | .notNumeric => "Only numeric literals are allowed".toList
  | .unsupportedUnary op => "Unsupported operator: ".toList ++ op.label
  | .unsupportedBinary op => "Unsupported operator: ".toList ++ op.label
  | .notReal => "Result is not a real number".toList
  | .unknownName id => "Unknown name: ".toList ++ id
  | .notCallable => "Only built-in math functions can be called".toList
  | .notPositional => "Only positional arguments are allowed".toList
  | .unsupportedForm form => "Unsupported syntax: ".toList ++ form.label
  | .failed cause =>
      "Cannot evaluate expression".toList ++
        match cause.detail? with
        | some d => ": ".toList ++ d
        | none => []
  | .notFinite x => "Result is not a finite real number: ".toList ++ Decimal.shown x

/-- Why an input has no value as an expression. -/
inductive Fault where
  | empty
  | unsafeChar (c : Char)
  | unknownIdentifier (id : Text)
  | invalid (cause : Invalid)

def Fault.message : Fault → Text
  | .empty => "Expression is empty".toList
  | .unsafeChar c => "Unsafe character in input: ".toList ++ Text.quoted [c]
  | .unknownIdentifier id => "Unsupported identifier: ".toList ++ id
  | .invalid cause => cause.message

end Abacus.Expr
