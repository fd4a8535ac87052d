import Abacus.Text.Basic

/-!
# Built-in names

The constants and functions of the calculator, and the closed set of names for them. A name may be
an alias; every built-in has one name of its own.
-/

namespace Abacus

inductive NamedConstant where
  | pi
  | e
deriving DecidableEq, Repr

inductive Function where
  | sin
  | cos
  | tan
  | asin
  | acos
  | atan
  | atan2
  | pow
  | sqrt
  | abs
  | log
  | exp
  | min
  | max
  | floor
  | ceil
  | round
  | trunc
deriving DecidableEq, Repr

inductive Builtin where
  | constant (c : NamedConstant)
  | function (f : Function)
deriving DecidableEq, Repr

def NamedConstant.ownName : NamedConstant → Text
  | .pi => ['p', 'i']
  | .e => ['e']

def Function.ownName : Function → Text
  | .sin => ['s', 'i', 'n']
  | .cos => ['c', 'o', 's']
  | .tan => ['t', 'a', 'n']
  | .asin => ['a', 's', 'i', 'n']
  | .acos => ['a', 'c', 'o', 's']
  | .atan => ['a', 't', 'a', 'n']
  | .atan2 => ['a', 't', 'a', 'n', '2']
  | .pow => ['p', 'o', 'w']
  | .sqrt => ['s', 'q', 'r', 't']
  | .abs => ['a', 'b', 's']
  | .log => ['l', 'o', 'g']
  | .exp => ['e', 'x', 'p']
  | .min => ['m', 'i', 'n']
  | .max => ['m', 'a', 'x']
  | .floor => ['f', 'l', 'o', 'o', 'r']
  | .ceil => ['c', 'e', 'i', 'l']
  | .round => ['r', 'o', 'u', 'n', 'd']
  | .trunc => ['t', 'r', 'u', 'n', 'c']

namespace Builtin

/-- The name a built-in is known by in trees. -/
def ownName : Builtin → Text
  | .constant c => c.ownName
  | .function f => f.ownName

def functions : List Function :=
  [.sin, .cos, .tan, .asin, .acos, .atan, .atan2, .pow, .sqrt, .abs, .log, .exp, .min, .max,
    .floor, .ceil, .round, .trunc]

/-- All built-ins. -/
def all : List Builtin :=
  [.constant .pi, .constant .e] ++ functions.map .function

/-- All names, those of aliases included. -/
def names : List (Text × Builtin) :=
  all.map (fun b => (b.ownName, b)) ++
    [(['P', 'I'], .constant .pi), (['E'], .constant .e), (['l', 'n'], .function .log)]

/-- The built-in that a name stands for. -/
def ofName? (s : Text) : Option Builtin := names.lookup s

@[simp] theorem ofName?_ownName (b : Builtin) : ofName? b.ownName = some b := by
  cases b with
  | constant c => cases c <;> rfl
  | function f => cases f <;> rfl

end Builtin

/-- Whether a name may be used; case matters. -/
def isAllowedName (s : Text) : Bool := (Builtin.ofName? s).isSome

end Abacus
