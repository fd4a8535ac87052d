import Abacus.Proofs.Expr.Calculation

/-!
# What is evaluated

A tree has a value only if each of its nodes, at whatever depth, is of one of the few forms that are
admitted.  Such a tree is a calculation, and evaluating it is carrying out the calculation.

Trees are evaluated at any depth.  The limits of a platform on recursion are set aside; a platform
that has some gives a signal of the kind `SignalKind.depth` in place of a value.
-/

namespace Abacus.Expr

/-- A property of all trees, with a hypothesis for each argument, keyword and part. -/
theorem induction {P : Expr → Prop} (constant : ∀ c, P (.constant c))
    (unary : ∀ op e, P e → P (.unary op e))
    (binary : ∀ op l r, P l → P r → P (.binary op l r)) (name : ∀ id, P (.name id))
    (call : ∀ func args keywords, P func → (∀ a ∈ args, P a) → P (.call func args keywords))
    (other : ∀ form parts, (∀ e ∈ parts, P e) → P (.other form parts)) : ∀ e, P e
  | .constant c => constant c
  | .unary op e => unary op e (induction constant unary binary name call other e)
  | .binary op l r =>
      binary op l r (induction constant unary binary name call other l)
        (induction constant unary binary name call other r)
  | .name id => name id
  | .call func args keywords =>
      call func args keywords (induction constant unary binary name call other func)
        fun a _ => induction constant unary binary name call other a
  | .other form parts =>
      other form parts fun e _ => induction constant unary binary name call other e

/-! ## Nodes -/

/-- The nodes of a tree, at every depth.  A name in the place of a function belongs to its call. -/
inductive Occurs (n : Expr) : Expr → Prop where
  | here : Occurs n n
  | operand {op : UnaryOp} {e : Expr} : Occurs n e → Occurs n (.unary op e)
  | left {op : BinaryOp} {l r : Expr} : Occurs n l → Occurs n (.binary op l r)
  | right {op : BinaryOp} {l r : Expr} : Occurs n r → Occurs n (.binary op l r)
  | callee {func : Expr} {args : List Expr} {keywords : List (Option Text × Expr)} :
      (∀ id, func ≠ .name id) → Occurs n func → Occurs n (.call func args keywords)
  | argument {func a : Expr} {args : List Expr} {keywords : List (Option Text × Expr)} :
      a ∈ args → Occurs n a → Occurs n (.call func args keywords)
  | keyword {func : Expr} {args : List Expr} {k : Option Text × Expr}
      {keywords : List (Option Text × Expr)} :
      k ∈ keywords → Occurs n k.2 → Occurs n (.call func args keywords)
  | part {form : Form} {e : Expr} {parts : List Expr} :
      e ∈ parts → Occurs n e → Occurs n (.other form parts)

/-- The forms of nodes that are evaluated. -/
inductive Admitted : Expr → Prop where
  | integer (n : Int) : Admitted (.constant (.integer n))
  | real (x : Float) : Admitted (.constant (.real x))
  | negate (e : Expr) : Admitted (.unary .negate e)
  | keep (e : Expr) : Admitted (.unary .keep e)
  | binary (op : Operator) (l r : Expr) : Admitted (.binary op.toBinaryOp l r)
  | name {id : Text} {c : NamedConstant} :
      Builtin.ofName? id = some (.constant c) → Admitted (.name id)
  | call {id : Text} {f : Function} {args : List Expr} :
      Builtin.ofName? id = some (.function f) → (∀ a ∈ args, a.isStarred = false) →
        Admitted (.call (.name id) args [])

mutual

/-- The calculation that a tree of admitted nodes is. -/
def calculation? : Expr → Option Calculation
  | .constant (.integer n) => some (.integer n)
  | .constant (.real x) => some (.real x)
  | .unary .negate e => (calculation? e).map (.signed true)
  | .unary .keep e => (calculation? e).map (.signed false)
  | .binary op l r => do
      let op ← Operator.ofBinaryOp? op
      let l ← calculation? l
      let r ← calculation? r
      some (.binary op l r)
  | .name id =>
      match Builtin.ofName? id with
      | some (.constant c) => some (.constant c)
      | _ => none
  | .call (.name id) args [] =>
      match Builtin.ofName? id with
      | some (.function f) => (calculations? args).map (.call f)
      | _ => none
  | _ => none

def calculations? : List Expr → Option (List Calculation)
  | [] => some []
  | e :: es => do
      let c ← calculation? e
      let cs ← calculations? es
      some (c :: cs)

end

example : (calculations? [.unary .negate (.constant (.integer 1))]).isSome := by cbv

theorem exists_calculations? {es : List Expr} (h : ∀ e ∈ es, ∃ c, calculation? e = some c) :
    ∃ cs, calculations? es = some cs := by
  induction es with
  | nil => exact ⟨[], rfl⟩
  | cons e es ih =>
    obtain ⟨c, hc⟩ := h e List.mem_cons_self
    obtain ⟨cs, hcs⟩ := ih fun d hd => h d (List.mem_cons_of_mem e hd)
    exact ⟨c :: cs, by simp [calculations?, hc, hcs]⟩

/-- A tree of admitted nodes is a calculation. -/
theorem exists_calculation? {e : Expr} (h : ∀ n, Occurs n e → Admitted n) :
    ∃ c, calculation? e = some c := by
  induction e using induction with
  | constant c =>
    cases h _ .here with
    | integer n => exact ⟨.integer n, rfl⟩
    | real x => exact ⟨.real x, rfl⟩
  | unary op e ih =>
    obtain ⟨c, hc⟩ := ih fun n hn => h n hn.operand
    cases h _ .here with
    | negate => exact ⟨.signed true c, by simp [calculation?, hc]⟩
    | keep => exact ⟨.signed false c, by simp [calculation?, hc]⟩
  | binary op l r ihl ihr =>
    obtain ⟨c, hc⟩ := ihl fun n hn => h n hn.left
    obtain ⟨d, hd⟩ := ihr fun n hn => h n hn.right
    cases h _ .here with
    | binary op => exact ⟨.binary op c d, by simp [calculation?, hc, hd]⟩
  | name id =>
    cases h _ .here with
    | @name _ c hid => exact ⟨.constant c, by simp [calculation?, hid]⟩
  | call func args keywords _ ih =>
    cases h _ .here with
    | @call id f _ hid _ =>
      obtain ⟨cs, hcs⟩ := exists_calculations? fun a ha => ih a ha fun n hn => h n (.argument ha hn)
      exact ⟨.call f cs, by simp [calculation?, hid, hcs]⟩
  | other form parts => cases h _ .here

theorem mem_of_calculations? {es : List Expr} {cs : List Calculation}
    (h : calculations? es = some cs) : ∀ e ∈ es, ∃ c, calculation? e = some c := by
  induction es generalizing cs with
  | nil => exact fun _ h => absurd h List.not_mem_nil
  | cons e es ih =>
    simp only [calculations?, Option.bind_eq_bind, Option.bind_eq_some_iff] at h
    obtain ⟨c, hc, ds, hds, -⟩ := h
    intro d hd
    rcases List.mem_cons.1 hd with rfl | hd
    · exact ⟨c, hc⟩
    · exact ih hds d hd

theorem not_isStarred_of_calculation? {e : Expr} {c : Calculation} (h : calculation? e = some c) :
    e.isStarred = false := by
  cases e with
  | other form parts => cases h
  | _ => rfl

theorem calculation?_unary {op : UnaryOp} {e : Expr} {c : Calculation}
    (h : calculation? (.unary op e) = some c) :
    ∃ negative d, unaryOperation? op = some (signedValue negative) ∧ calculation? e = some d ∧
      c = .signed negative d := by
  cases op with
  | negate =>
    obtain ⟨d, hd, rfl⟩ := Option.map_eq_some_iff.1 h
    exact ⟨true, d, rfl, hd, rfl⟩
  | keep =>
    obtain ⟨d, hd, rfl⟩ := Option.map_eq_some_iff.1 h
    exact ⟨false, d, rfl, hd, rfl⟩
  | _ => cases h

theorem calculation?_binary {op : BinaryOp} {l r : Expr} {c : Calculation}
    (h : calculation? (.binary op l r) = some c) :
    ∃ o a b, op = Operator.toBinaryOp o ∧ calculation? l = some a ∧ calculation? r = some b ∧
      c = .binary o a b := by
  simp only [calculation?, Option.bind_eq_bind, Option.bind_eq_some_iff, Option.some.injEq] at h
  obtain ⟨o, ho, a, ha, b, hb, rfl⟩ := h
  refine ⟨o, a, b, ?_, ha, hb, rfl⟩
  cases op <;> cases ho <;> rfl

theorem calculation?_call {func : Expr} {args : List Expr} {keywords : List (Option Text × Expr)}
    {c : Calculation} (h : calculation? (.call func args keywords) = some c) :
    ∃ id f cs, func = .name id ∧ keywords = [] ∧ Builtin.ofName? id = some (.function f) ∧
      calculations? args = some cs ∧ c = .call f cs := by
  cases func with
  | name id =>
    cases keywords with
    | nil =>
      rw [calculation?] at h
      split at h
      · rename_i f hf
        obtain ⟨cs, hcs, rfl⟩ := Option.map_eq_some_iff.1 h
        exact ⟨id, f, cs, rfl, rfl, hf, hcs, rfl⟩
      · cases h
    | cons k ks => cases h
  | _ => cases h

theorem calculation?_name {id : Text} {c : Calculation} (h : calculation? (.name id) = some c) :
    ∃ k, Builtin.ofName? id = some (.constant k) ∧ c = .constant k := by
  rw [calculation?] at h
  split at h
  · rename_i k hk
    cases h
    exact ⟨k, hk, rfl⟩
  · cases h

/-- The root of a calculation is admitted. -/
theorem admitted_of_calculation? {e : Expr} {c : Calculation} (h : calculation? e = some c) :
    Admitted e := by
  cases e with
  | constant k =>
    cases k with
    | integer n => exact .integer n
    | real x => exact .real x
    | _ => cases h
  | unary op e =>
    cases op with
    | negate => exact .negate e
    | keep => exact .keep e
    | _ => cases h
  | binary op l r =>
    obtain ⟨o, -, -, rfl, -⟩ := calculation?_binary h
    exact .binary o l r
  | name id =>
    obtain ⟨k, hk, -⟩ := calculation?_name h
    exact .name hk
  | call func args keywords =>
    obtain ⟨id, f, cs, rfl, rfl, hid, hcs, -⟩ := calculation?_call h
    apply Admitted.call hid
    intro a ha
    obtain ⟨d, hd⟩ := mem_of_calculations? hcs a ha
    exact not_isStarred_of_calculation? hd
  | other form parts => cases h

/-- The trees that are calculations are those of admitted nodes. -/
theorem admitted_iff_isSome_calculation? (e : Expr) :
    (∀ n, Occurs n e → Admitted n) ↔ (calculation? e).isSome := by
  rw [Option.isSome_iff_exists]
  constructor
  · exact exists_calculation?
  intro h n hn
  induction hn with
  | here =>
    obtain ⟨c, h⟩ := h
    exact admitted_of_calculation? h
  | operand _ ih =>
    obtain ⟨c, h⟩ := h
    obtain ⟨-, d, -, hd, -⟩ := calculation?_unary h
    exact ih ⟨d, hd⟩
  | left _ ih =>
    obtain ⟨c, h⟩ := h
    obtain ⟨-, a, -, -, ha, -, -⟩ := calculation?_binary h
    exact ih ⟨a, ha⟩
  | right _ ih =>
    obtain ⟨c, h⟩ := h
    obtain ⟨-, -, b, -, -, hb, -⟩ := calculation?_binary h
    exact ih ⟨b, hb⟩
  | callee hfunc _ _ =>
    obtain ⟨c, h⟩ := h
    obtain ⟨id, -, -, hid, -⟩ := calculation?_call h
    exact absurd hid (hfunc id)
  | argument ha _ ih =>
    obtain ⟨c, h⟩ := h
    obtain ⟨-, -, cs, -, -, -, hcs, -⟩ := calculation?_call h
    obtain ⟨d, hd⟩ := mem_of_calculations? hcs _ ha
    exact ih ⟨d, hd⟩
  | keyword hk _ _ =>
    obtain ⟨c, h⟩ := h
    obtain ⟨-, -, -, -, rfl, -⟩ := calculation?_call h
    cases hk
  | part _ _ _ =>
    obtain ⟨c, h⟩ := h
    cases h

instance (e : Expr) : Decidable (∀ n, Occurs n e → Admitted n) :=
  decidable_of_iff _ (admitted_iff_isSome_calculation? e).symm

/-! ## Trees with a value -/

section

variable {x : Float} {xs : List Float}

theorem integerValue_eq_ok {n : Int} : integerValue n = .ok x ↔ Binary64.ofInt? n = some x := by
  rw [integerValue]
  cases Binary64.ofInt? n <;> simp

theorem evaluate_unary_ok {op : UnaryOp} {e : Expr} (h : evaluate (.unary op e) = .ok x) :
    (op = .negate ∨ op = .keep) ∧ ∃ y, evaluate e = .ok y := by
  rw [evaluate] at h
  split at h
  · cases h
  · rename_i y hy
    refine ⟨?_, y, hy⟩
    cases op with
    | negate => exact .inl rfl
    | keep => exact .inr rfl
    | invert => cases h
    | not => cases h

theorem evaluate_binary_ok {op : BinaryOp} {l r : Expr} (h : evaluate (.binary op l r) = .ok x) :
    (∃ o : Operator, op = o.toBinaryOp) ∧ (∃ y, evaluate l = .ok y) ∧ ∃ z, evaluate r = .ok z := by
  rw [evaluate] at h
  split at h
  · cases h
  · rename_i g hg
    have hop : ∃ o : Operator, op = o.toBinaryOp := by
      cases op with
      | add => exact ⟨.add, rfl⟩
      | sub => exact ⟨.sub, rfl⟩
      | mul => exact ⟨.mul, rfl⟩
      | div => exact ⟨.div, rfl⟩
      | pow => exact ⟨.pow, rfl⟩
      | _ => cases hg
    split at h
    · cases h
    · rename_i y hy
      split at h
      · cases h
      · rename_i z hz
        exact ⟨hop, ⟨y, hy⟩, z, hz⟩

theorem calledFunction?_eq_some {e : Expr} {f : Function} (h : calledFunction? e = some f) :
    ∃ id, e = .name id ∧ Builtin.ofName? id = some (.function f) := by
  cases e with
  | name id =>
    rw [calledFunction?] at h
    split at h
    · rename_i g hg
      cases h
      exact ⟨id, rfl, hg⟩
    · cases h
  | _ => cases h

theorem evaluateAll_ok {es : List Expr} (h : evaluateAll es = .ok xs) :
    ∀ e ∈ es, ∃ x, evaluate e = .ok x := by
  induction es generalizing xs with
  | nil => exact fun _ h => absurd h List.not_mem_nil
  | cons e es ih =>
    rw [evaluateAll] at h
    split at h
    · cases h
    · rename_i x hx
      split at h
      · cases h
      · rename_i ys hys
        intro d hd
        rcases List.mem_cons.1 hd with rfl | hd
        · exact ⟨x, hx⟩
        · exact ih hys d hd

theorem evaluate_call_ok {func : Expr} {args : List Expr} {keywords : List (Option Text × Expr)}
    (h : evaluate (.call func args keywords) = .ok x) :
    (∃ id f, func = .name id ∧ Builtin.ofName? id = some (.function f)) ∧ keywords = [] ∧
      ∀ a ∈ args, a.isStarred = false ∧ ∃ y, evaluate a = .ok y := by
  rw [evaluate] at h
  split at h
  · cases h
  · rename_i f hf
    obtain ⟨id, hid, hname⟩ := calledFunction?_eq_some hf
    split at h
    · cases h
    · rename_i hpositional
      simp only [Bool.or_eq_true, Bool.not_eq_true', not_or, Bool.not_eq_false,
        List.isEmpty_iff, List.any_eq_true, not_exists, not_and] at hpositional
      split at h
      · cases h
      · rename_i ys hys
        refine ⟨⟨id, f, hid, hname⟩, hpositional.1, fun a ha => ⟨?_, evaluateAll_ok hys a ha⟩⟩
        simpa using hpositional.2 a ha

/-- The root of a tree with a value is admitted. -/
theorem admitted_of_evaluate {e : Expr} (h : evaluate e = .ok x) : Admitted e := by
  cases e with
  | constant c =>
    cases c with
    | integer n => exact .integer n
    | real y => exact .real y
    | _ => cases h
  | unary op e =>
    rcases (evaluate_unary_ok h).1 with rfl | rfl
    · exact .negate e
    · exact .keep e
  | binary op l r =>
    obtain ⟨o, rfl⟩ := (evaluate_binary_ok h).1
    exact .binary o l r
  | name id =>
    rw [evaluate, nameValue] at h
    split at h
    · rename_i c hc
      exact .name hc
    · cases h
  | call func args keywords =>
    obtain ⟨⟨id, f, rfl, hid⟩, rfl, hargs⟩ := evaluate_call_ok h
    exact .call hid fun a ha => (hargs a ha).1
  | other form parts => cases h

/-- All nodes of a tree with a value are admitted: a node has a value if the tree has one. -/
theorem admitted_of_occurs {n e : Expr} (hn : Occurs n e) (h : evaluate e = .ok x) :
    Admitted n := by
  induction hn generalizing x with
  | here => exact admitted_of_evaluate h
  | operand _ ih =>
    obtain ⟨y, hy⟩ := (evaluate_unary_ok h).2
    exact ih hy
  | left _ ih =>
    obtain ⟨y, hy⟩ := (evaluate_binary_ok h).2.1
    exact ih hy
  | right _ ih =>
    obtain ⟨y, hy⟩ := (evaluate_binary_ok h).2.2
    exact ih hy
  | callee hfunc _ _ =>
    obtain ⟨id, f, hid, -⟩ := (evaluate_call_ok h).1
    exact absurd hid (hfunc id)
  | argument ha _ ih =>
    obtain ⟨y, hy⟩ := ((evaluate_call_ok h).2.2 _ ha).2
    exact ih hy
  | keyword hk _ _ =>
    rw [(evaluate_call_ok h).2.1] at hk
    cases hk
  | part _ _ _ => cases h

end

/-! ## Trees that are calculations -/

theorem not_any_isStarred {es : List Expr} {cs : List Calculation}
    (h : calculations? es = some cs) : es.any isStarred = false := by
  induction es generalizing cs with
  | nil => rfl
  | cons e es ih =>
    simp only [calculations?, Option.bind_eq_bind, Option.bind_eq_some_iff] at h
    obtain ⟨c, hc, ds, hds, -⟩ := h
    rw [List.any_cons, not_isStarred_of_calculation? hc, ih hds]
    rfl

theorem evaluateAll_eq_denoteAll {es : List Expr} {cs : List Calculation}
    (h : calculations? es = some cs)
    (ih : ∀ e ∈ es, ∀ c, calculation? e = some c → evaluate e = c.denote) :
    evaluateAll es = Calculation.denoteAll cs := by
  induction es generalizing cs with
  | nil =>
    cases h
    rfl
  | cons e es ihs =>
    simp only [calculations?, Option.bind_eq_bind, Option.bind_eq_some_iff, Option.some.injEq] at h
    obtain ⟨c, hc, ds, hds, rfl⟩ := h
    rw [evaluateAll, ih e List.mem_cons_self c hc,
      ihs hds fun d hd => ih d (List.mem_cons_of_mem e hd), Calculation.denoteAll]
    cases c.denote with
    | error f => rfl
    | ok x =>
      cases Calculation.denoteAll ds with
      | error f => rfl
      | ok xs => rfl

/-- Evaluating a tree is carrying out its calculation. -/
theorem evaluate_eq_denote {e : Expr} {c : Calculation} (h : calculation? e = some c) :
    evaluate e = c.denote := by
  induction e using induction generalizing c with
  | constant k =>
    cases k with
    | integer n =>
      cases h
      rfl
    | real x =>
      cases h
      rfl
    | _ => cases h
  | unary op e ih =>
    obtain ⟨negative, d, hop, hd, rfl⟩ := calculation?_unary h
    rw [evaluate, hop, ih hd, Calculation.denote]
    cases d.denote with
    | error f => rfl
    | ok x => rfl
  | binary op l r ihl ihr =>
    obtain ⟨o, a, b, rfl, ha, hb, rfl⟩ := calculation?_binary h
    have hop : binaryOperation? o.toBinaryOp = some o.value := by
      cases o <;> rfl
    rw [evaluate, hop, ihl ha, ihr hb, Calculation.denote]
    cases a.denote with
    | error f => rfl
    | ok x =>
      cases b.denote with
      | error f => rfl
      | ok y => rfl
  | name id =>
    obtain ⟨k, hk, rfl⟩ := calculation?_name h
    rw [evaluate, nameValue, hk]
    rfl
  | call func args keywords _ ih =>
    obtain ⟨id, f, cs, rfl, rfl, hid, hcs, rfl⟩ := calculation?_call h
    rw [evaluate, calledFunction?, hid, not_any_isStarred hcs,
      evaluateAll_eq_denoteAll hcs fun a ha d hd => ih a ha hd, Calculation.denote]
    cases Calculation.denoteAll cs with
    | error g => rfl
    | ok xs => rfl
  | other form parts => cases h

/-- A tree has a value only if all of its nodes are admitted.  If they are, the tree is a
calculation, evaluating it is carrying out the calculation, and so is taking its steps one after the
other. -/
theorem evaluate_spec (e : Expr) :
    (∀ x, evaluate e = .ok x → ∀ n, Occurs n e → Admitted n) ∧
    ((∀ n, Occurs n e → Admitted n) →
      ∃ c, calculation? e = some c ∧ evaluate e = c.denote ∧
        ∀ st, Calculation.execute c.steps st = (evaluate e).map (· :: st)) := by
  constructor
  · intro x hx n hn
    exact admitted_of_occurs hn hx
  · intro h
    obtain ⟨c, hc⟩ := exists_calculation? h
    have hvalue : evaluate e = c.denote := evaluate_eq_denote hc
    refine ⟨c, hc, hvalue, ?_⟩
    intro st
    rw [Calculation.execute_steps, hvalue]

/-- The tree of `1 / 0 + min(E)`, which has two faults. -/
def twoFaults : Expr :=
  .binary .add (.binary .div (.constant (.integer 1)) (.constant (.integer 0)))
    (.call (.name "min".toList) [.name "E".toList] [])

/-- The left one of two faults is met first. -/
theorem evaluate_spec_twoFaults :
    (∀ n, Occurs n twoFaults → Admitted n) ∧ ∃ c, calculation? twoFaults = some c ∧
      Calculation.execute c.steps [] = .error (.failed .divisionByZero) := by
  have hnodes : ∀ n, Occurs n twoFaults → Admitted n := by decide
  obtain ⟨c, hc, -, hsteps⟩ := (evaluate_spec twoFaults).2 hnodes
  exact ⟨hnodes, c, hc, hsteps []⟩

end Abacus.Expr
