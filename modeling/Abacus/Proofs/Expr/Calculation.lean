import Abacus.Expr.Evaluation

/-!
# Calculations

A calculation is a tree of what the calculator can do and nothing else: numbers, named constants,
signs, the five operators and calls of functions.  Its value is given twice, by recursion on the
tree and as a sequence of steps on a stack, operands first and from left to right.  The two agree,
on the value as well as on the first failure.
-/

namespace Abacus.Expr

/-- The operators between two operands that have a value. -/
inductive Operator where
  | add
  | sub
  | mul
  | div
  | pow
deriving DecidableEq, Repr

namespace Operator

def toBinaryOp : Operator → BinaryOp
  | .add => .add
  | .sub => .sub
  | .mul => .mul
  | .div => .div
  | .pow => .pow

def ofBinaryOp? : BinaryOp → Option Operator
  | .add => some .add
  | .sub => some .sub
  | .mul => some .mul
  | .div => some .div
  | .pow => some .pow
  | _ => none

@[simp] theorem ofBinaryOp?_toBinaryOp (op : Operator) : ofBinaryOp? op.toBinaryOp = some op := by
  cases op <;> rfl

/-- The value of an operator between two numbers.  Only quotients and powers can fail. -/
def value : Operator → Float → Float → Except Invalid Float
  | .add, x, y => .ok (x + y)
  | .sub, x, y => .ok (x - y)
  | .mul, x, y => .ok (x * y)
  | .div, x, y => (divide x y).mapError .failed
  | .pow, x, y => power x y

end Operator

inductive Calculation where
  | integer (n : Int)
  | real (x : Float)
  | constant (c : NamedConstant)
  | signed (negative : Bool) (operand : Calculation)
  | binary (op : Operator) (left right : Calculation)
  | call (f : Function) (args : List Calculation)

/-- The value of a function as the value of a calculation. -/
def callValue (f : Function) (xs : List Float) : Except Invalid Float :=
  (apply f xs).mapError .failed

/-- A number with its sign changed, or as it is. -/
def signedValue (negative : Bool) (x : Float) : Float := if negative then -x else x

namespace Calculation

/-- A property of all calculations, with a hypothesis for each argument of a call. -/
theorem induction {P : Calculation → Prop} (integer : ∀ n, P (.integer n)) (real : ∀ x, P (.real x))
    (constant : ∀ c, P (.constant c)) (signed : ∀ b c, P c → P (.signed b c))
    (binary : ∀ op l r, P l → P r → P (.binary op l r))
    (call : ∀ f args, (∀ c ∈ args, P c) → P (.call f args)) : ∀ c, P c
  | .integer n => integer n
  | .real x => real x
  | .constant c => constant c
  | .signed b c => signed b c (induction integer real constant signed binary call c)
  | .binary op l r =>
      binary op l r (induction integer real constant signed binary call l)
        (induction integer real constant signed binary call r)
  | .call f args =>
      call f args fun c _ => induction integer real constant signed binary call c

/-! ## The value of a calculation -/

mutual

/-- The value of a calculation: operands are valued from left to right, and the first failure is
the failure of the whole. -/
def denote : Calculation → Except Invalid Float
  | .integer n => (integerValue n).mapError .failed
  | .real x => pure x
  | .constant c => pure (constantValue c)
  | .signed negative c => do
      let x ← denote c
      pure (signedValue negative x)
  | .binary op l r => do
      let x ← denote l
      let y ← denote r
      op.value x y
  | .call f args => do
      let xs ← denoteAll args
      callValue f xs

def denoteAll : List Calculation → Except Invalid (List Float)
  | [] => pure []
  | c :: cs => do
      let x ← denote c
      let xs ← denoteAll cs
      pure (x :: xs)

end

theorem length_of_denoteAll {cs : List Calculation} {xs : List Float}
    (h : denoteAll cs = .ok xs) : xs.length = cs.length := by
  induction cs generalizing xs with
  | nil =>
    cases h
    rfl
  | cons c cs ih =>
    rw [denoteAll] at h
    cases hx : denote c with
    | error f =>
      rw [hx] at h
      cases h
    | ok x =>
      cases hxs : denoteAll cs with
      | error f =>
        rw [hx, hxs] at h
        cases h
      | ok ys =>
        rw [hx, hxs] at h
        cases h
        simp [ih hxs]

/-! ## The steps of a calculation -/

/-- One step on a stack of numbers. -/
inductive Step where
  | integer (n : Int)
  | real (x : Float)
  | constant (c : NamedConstant)
  | sign (negative : Bool)
  | operator (op : Operator)
  | call (f : Function) (arity : Nat)

/-- The stack after a step.  The last operand is on top; a step whose operands are missing leaves
the stack as it is. -/
def Step.perform : List Float → Step → Except Invalid (List Float)
  | st, .integer n => ((integerValue n).mapError .failed).map (· :: st)
  | st, .real x => pure (x :: st)
  | st, .constant c => pure (constantValue c :: st)
  | x :: st, .sign negative => pure (signedValue negative x :: st)
  | y :: x :: st, .operator op => (op.value x y).map (· :: st)
  | st, .call f arity => (callValue f (st.take arity).reverse).map (· :: st.drop arity)
  | st, _ => pure st

/-- The stack after steps, each on what the one before has left. -/
def execute (steps : List Step) (st : List Float) : Except Invalid (List Float) :=
  steps.foldlM Step.perform st

mutual

/-- The steps of a calculation, those of operands first and from left to right. -/
def steps : Calculation → List Step
  | .integer n => [.integer n]
  | .real x => [.real x]
  | .constant c => [.constant c]
  | .signed negative c => steps c ++ [.sign negative]
  | .binary op l r => steps l ++ (steps r ++ [.operator op])
  | .call f args => stepsAll args ++ [.call f args.length]

def stepsAll : List Calculation → List Step
  | [] => []
  | c :: cs => steps c ++ stepsAll cs

end

theorem execute_append (ss ts : List Step) (st : List Float) :
    execute (ss ++ ts) st = execute ss st >>= execute ts :=
  List.foldlM_append

theorem execute_singleton (s : Step) (st : List Float) : execute [s] st = s.perform st := by
  simp [execute]

/-- The steps of all arguments put the values of the arguments on the stack, if each does so. -/
theorem execute_stepsAll {cs : List Calculation}
    (h : ∀ c ∈ cs, ∀ st, execute (steps c) st = (denote c).map (· :: st)) (st : List Float) :
    execute (stepsAll cs) st = (denoteAll cs).map (·.reverse ++ st) := by
  induction cs generalizing st with
  | nil => rfl
  | cons c cs ih =>
    have hcs := ih fun d hd => h d (List.mem_cons_of_mem c hd)
    rw [stepsAll, execute_append, h c List.mem_cons_self, denoteAll]
    cases denote c with
    | error f => rfl
    | ok x =>
      have hrest : execute (stepsAll cs) (x :: st) = (denoteAll cs).map (·.reverse ++ x :: st) :=
        hcs (x :: st)
      change execute (stepsAll cs) (x :: st) = _
      rw [hrest]
      cases denoteAll cs with
      | error f => rfl
      | ok xs =>
        change Except.ok (xs.reverse ++ x :: st) = Except.ok ((x :: xs).reverse ++ st)
        rw [List.reverse_cons, List.append_assoc, List.singleton_append]

/-- The steps of a calculation put its value on the stack, or fail as it does. -/
theorem execute_steps (c : Calculation) (st : List Float) :
    execute (steps c) st = (denote c).map (· :: st) := by
  induction c using induction generalizing st with
  | integer n => rw [steps, execute_singleton, denote, Step.perform]
  | real x => rfl
  | constant c => rfl
  | signed negative c ih =>
    rw [steps, execute_append, ih, denote]
    cases denote c with
    | error f => rfl
    | ok x => rfl
  | binary op l r ihl ihr =>
    rw [steps, execute_append, ihl, denote]
    cases denote l with
    | error f => rfl
    | ok x =>
      change execute (steps r ++ [.operator op]) (x :: st) = _
      rw [execute_append, ihr]
      cases denote r with
      | error f => rfl
      | ok y => exact execute_singleton _ _
  | call f args ih =>
    rw [steps, execute_append, execute_stepsAll ih, denote]
    cases hxs : denoteAll args with
    | error f => rfl
    | ok xs =>
      have hlen : xs.reverse.length = args.length := by
        rw [List.length_reverse, length_of_denoteAll hxs]
      change execute [.call f args.length] (xs.reverse ++ st) = _
      rw [execute_singleton, ← hlen, Step.perform, List.take_left, List.drop_left,
        List.reverse_reverse]
      rfl

end Calculation

end Abacus.Expr
