import Abacus.Proofs.Expr.Evaluation
import Abacus.Radix.Digits

/-!
# Formulas and their texts

A formula is a calculation as it is written down: integers without a sign, built-ins under one of
their names, signs, operators and calls.  It is printed as a sequence of symbols without blanks,
with parentheses around an operand only where the operand binds less tightly than its place
requires.
-/

namespace Abacus.Expr

open Radix (digits)

/-! ## Names -/

/-- A name with the built-in that it stands for. -/
structure KnownName where
  text : Text
  builtin : Builtin
  known : Builtin.ofName? text = some builtin

/-- A name of a constant. -/
structure ConstantName where
  text : Text
  constant : NamedConstant
  known : Builtin.ofName? text = some (.constant constant)

/-- A name of a function. -/
structure FunctionName where
  text : Text
  function : Function
  known : Builtin.ofName? text = some (.function function)

def ConstantName.name (c : ConstantName) : KnownName := ⟨c.text, .constant c.constant, c.known⟩

def FunctionName.name (f : FunctionName) : KnownName := ⟨f.text, .function f.function, f.known⟩

namespace KnownName

/-- The own name of the same built-in. -/
def own (k : KnownName) : KnownName :=
  ⟨k.builtin.ownName, k.builtin, Builtin.ofName?_ownName k.builtin⟩

theorem mem_names (k : KnownName) : (k.text, k.builtin) ∈ Builtin.names := by
  obtain ⟨ys, zs, h, -⟩ := List.lookup_eq_some_iff.1 k.known
  exact h ▸ List.mem_append_right ys List.mem_cons_self

/-- What is true of all names in the list of built-ins. -/
theorem forall_text {P : Text → Prop} (h : ∀ p ∈ Builtin.names, P p.1) (k : KnownName) :
    P k.text :=
  h _ k.mem_names

end KnownName

/-! ## Formulas -/

inductive Formula where
  | number (n : Nat)
  | constant (c : ConstantName)
  | signed (negative : Bool) (operand : Formula)
  | binary (op : Operator) (left right : Formula)
  | call (f : FunctionName) (args : List Formula)

namespace Formula

/-- A property of all formulas, with a hypothesis for each argument of a call. -/
theorem induction {P : Formula → Prop} (number : ∀ n, P (.number n))
    (constant : ∀ c, P (.constant c)) (signed : ∀ b f, P f → P (.signed b f))
    (binary : ∀ op l r, P l → P r → P (.binary op l r))
    (call : ∀ f args, (∀ a ∈ args, P a) → P (.call f args)) : ∀ f, P f
  | .number n => number n
  | .constant c => constant c
  | .signed b f => signed b f (induction number constant signed binary call f)
  | .binary op l r =>
      binary op l r (induction number constant signed binary call l)
        (induction number constant signed binary call r)
  | .call f args => call f args fun a _ => induction number constant signed binary call a

mutual

/-- The calculation that a formula writes down. -/
def calculation : Formula → Calculation
  | .number n => .integer n
  | .constant c => .constant c.constant
  | .signed negative f => .signed negative (calculation f)
  | .binary op l r => .binary op (calculation l) (calculation r)
  | .call f args => .call f.function (calculations args)

def calculations : List Formula → List Calculation
  | [] => []
  | f :: fs => calculation f :: calculations fs

end

/-- The value of a formula. -/
def denote (f : Formula) : Except Invalid Float := f.calculation.denote

def signOp (negative : Bool) : UnaryOp := if negative then .negate else .keep

mutual

/-- The tree of a formula, with every built-in under its own name. -/
def tree : Formula → Expr
  | .number n => .constant (.integer n)
  | .constant c => .name c.constant.ownName
  | .signed negative f => .unary (signOp negative) (tree f)
  | .binary op l r => .binary op.toBinaryOp (tree l) (tree r)
  | .call f args => .call (.name f.function.ownName) (trees args) []

def trees : List Formula → List Expr
  | [] => []
  | f :: fs => tree f :: trees fs

end

theorem calculations?_trees {fs : List Formula}
    (h : ∀ f ∈ fs, calculation? f.tree = some f.calculation) :
    calculations? (trees fs) = some (calculations fs) := by
  induction fs with
  | nil => rfl
  | cons f fs ih =>
    have hfs := ih fun g hg => h g (List.mem_cons_of_mem f hg)
    rw [trees, calculations?, h f List.mem_cons_self, hfs]
    rfl

/-- The tree of a formula is its calculation. -/
theorem calculation?_tree (f : Formula) : calculation? f.tree = some f.calculation := by
  induction f using induction with
  | number n => rfl
  | constant c =>
    have hname : Builtin.ofName? c.constant.ownName = some (.constant c.constant) :=
      Builtin.ofName?_ownName (.constant c.constant)
    rw [tree, calculation?, hname]
    rfl
  | signed negative f ih =>
    cases negative with
    | true => exact congrArg (Option.map (Calculation.signed true)) ih
    | false => exact congrArg (Option.map (Calculation.signed false)) ih
  | binary op l r ihl ihr =>
    rw [tree, calculation?, Operator.ofBinaryOp?_toBinaryOp, ihl, ihr]
    rfl
  | call f args ih =>
    have hname : Builtin.ofName? f.function.ownName = some (.function f.function) :=
      Builtin.ofName?_ownName (.function f.function)
    rw [tree, calculation?, hname]
    exact congrArg (Option.map (Calculation.call f.function)) (calculations?_trees ih)

/-- Evaluating the tree of a formula gives the value of the formula. -/
theorem evaluate_tree (f : Formula) : evaluate f.tree = f.denote :=
  evaluate_eq_denote f.calculation?_tree

end Formula

/-! ## Symbols -/

/-- The symbols that a formula is printed with. -/
inductive Symbol where
  | number (n : Nat)
  | name (k : KnownName)
  | operator (op : Operator)
  | opening
  | closing
  | comma

def Operator.text : Operator → Text
  | .add => ['+']
  | .sub => ['-']
  | .mul => ['*']
  | .div => ['/']
  | .pow => ['^']

/-- A symbol as it is printed. -/
def Symbol.text : Symbol → Text
  | .number n => digits .ten n
  | .name k => k.text
  | .operator op => op.text
  | .opening => ['(']
  | .closing => [')']
  | .comma => [',']

/-- The symbol of a sign. -/
def Symbol.sign (negative : Bool) : Symbol := .operator (if negative then .sub else .add)

/-- How tightly an operator binds: sums less than products, products less than signs, and signs less
than powers. -/
def Operator.rank : Operator → Nat
  | .add | .sub => 0
  | .mul | .div => 1
  | .pow => 3

/-- How tightly a left operand must bind at least.  Sums and products may be continued to the right,
the base of a power must be neither a power nor signed. -/
def Operator.leftRank : Operator → Nat
  | .add | .sub => 0
  | .mul | .div => 1
  | .pow => 4

/-- How tightly a right operand must bind at least.  An exponent may be a power or signed. -/
def Operator.rightRank : Operator → Nat
  | .add | .sub => 1
  | .mul | .div => 2
  | .pow => 2

/-- Symbols in parentheses, where these are needed. -/
def enclosed (needed : Bool) (ss : List Symbol) : List Symbol :=
  if needed then .opening :: (ss ++ [.closing]) else ss

namespace Formula

/-- How tightly a formula binds. -/
def rank : Formula → Nat
  | .number _ => 4
  | .constant _ => 4
  | .signed _ _ => 2
  | .binary op _ _ => op.rank
  | .call _ _ => 4

mutual

/-- The symbols of a formula. -/
def symbols : Formula → List Symbol
  | .number n => [.number n]
  | .constant c => [.name c.name]
  | .signed negative f => .sign negative :: enclosed (f.rank < 2) (symbols f)
  | .binary op l r =>
      enclosed (l.rank < op.leftRank) (symbols l) ++
        .operator op :: enclosed (r.rank < op.rightRank) (symbols r)
  | .call f args => .name f.name :: .opening :: argumentSymbols args

/-- The symbols of arguments with the parenthesis behind them. -/
def argumentSymbols : List Formula → List Symbol
  | [] => [.closing]
  | f :: fs => symbols f ++ furtherSymbols fs

/-- The symbols of further arguments, a comma in front of each. -/
def furtherSymbols : List Formula → List Symbol
  | [] => [.closing]
  | f :: fs => .comma :: (symbols f ++ furtherSymbols fs)

end

end Formula

/-- The text of symbols. -/
def symbolsText (ss : List Symbol) : Text := ss.flatMap Symbol.text

/-- The text of a formula. -/
def Formula.text (f : Formula) : Text := symbolsText f.symbols

@[simp] theorem symbolsText_nil : symbolsText [] = [] := rfl

@[simp] theorem symbolsText_cons (s : Symbol) (ss : List Symbol) :
    symbolsText (s :: ss) = s.text ++ symbolsText ss := rfl

end Abacus.Expr
