import Abacus.Expr.Calculator
import Abacus.Proofs.Expr.Evaluation

/-!
# The calculator on a platform

The calculator with a parser and arithmetic that are not its own.  In place of a result they may
give signals of any kind, an operator may come to a complex number, and any number may be infinite
or NaN.  Each stage catches some kinds of signals and puts an error of the calculator in their
place; a signal of another kind goes through.  The texts that are read and evaluated are logged.

The standard platform has the grammar and the arithmetic of the calculator, and on it the outcome is
that of `calculate`.
-/

namespace Abacus.Expr

variable {α : Type}

/-! ## Platforms -/

inductive SignalKind where
  /-- A text does not follow the grammar. -/
  | grammar
  /-- A function has no value for an argument. -/
  | value
  /-- A division by zero, or a number out of range. -/
  | arithmetic
  /-- An argument is missing, left over or of the wrong type. -/
  | type
  /-- Something is nested too deeply. -/
  | depth
  | other
deriving DecidableEq, Repr

/-- What may come in place of a result, with its wording if it has one. -/
structure Signal where
  kind : SignalKind
  detail? : Option Text

/-- What an operator comes to.  Of a complex number nothing more is asked. -/
inductive Number where
  | real (x : Float)
  | complex

/-- What the calculator does not do itself. -/
structure Platform where
  parse : Text → Except Signal Expr
  integer : Int → Except Signal Float
  operate : Operator → Float → Float → Except Signal Number
  call : Function → List Float → Except Signal Float

/-- What is thrown: an error of one of the calculator's four classes, or a signal as it came. -/
inductive Thrown where
  | empty
  | unsafeChar (c : Char)
  | unknownIdentifier (id : Text)
  | invalid (message : Text)
  | signal (g : Signal)

def Thrown.ofInvalid (i : Invalid) : Thrown := .invalid i.message

def Thrown.ofFault : Fault → Thrown
  | .empty => .empty
  | .unsafeChar c => .unsafeChar c
  | .unknownIdentifier id => .unknownIdentifier id
  | .invalid cause => .ofInvalid cause

/-- A signal is thrown as it comes. -/
def raised (r : Except Signal α) : Except Thrown α := r.mapError .signal

/-- Signals of some kinds are caught; an error that says what failed is thrown in their place. -/
def caught (kinds : List SignalKind) (what : Text) : Except Thrown α → Except Thrown α
  | .error (.signal g) =>
      if g.kind ∈ kinds then
        .error (.invalid (what ++
          match g.detail? with
          | some d => ": ".toList ++ d
          | none => []))
      else .error (.signal g)
  | r => r

namespace Platform

mutual

/-- The value of a tree, from the inside out and from left to right. -/
def evaluate (p : Platform) : Expr → Except Thrown Float
  | .constant (.integer n) => raised (p.integer n)
  | .constant (.real x) => pure x
  | .constant _ => throw (.ofInvalid .notNumeric)
  | .unary op e => do
      let x ← p.evaluate e
      match unaryOperation? op with
      | some g => pure (g x)
      | none => throw (.ofInvalid (.unsupportedUnary op))
  | .binary op l r =>
      match Operator.ofBinaryOp? op with
      | none => throw (.ofInvalid (.unsupportedBinary op))
      | some o => do
          let x ← p.evaluate l
          let y ← p.evaluate r
          match ← raised (p.operate o x y) with
          | .real z => pure z
          | .complex => throw (.ofInvalid .notReal)
  | .name id => (nameValue id).mapError .ofInvalid
  | .call func args keywords =>
      match calledFunction? func with
      | none => throw (.ofInvalid .notCallable)
      | some f =>
          if !keywords.isEmpty || args.any isStarred then throw (.ofInvalid .notPositional)
          else do
            let xs ← p.evaluateAll args
            raised (p.call f xs)
  | .other form _ => throw (.ofInvalid (.unsupportedForm form))

def evaluateAll (p : Platform) : List Expr → Except Thrown (List Float)
  | [] => pure []
  | e :: es => do
      let x ← p.evaluate e
      let xs ← p.evaluateAll es
      pure (x :: xs)

end

/-- The tree of a text in own names. -/
def read (p : Platform) (s : Text) : Except Thrown Expr :=
  caught [.grammar, .value] "Syntax error".toList (raised (p.parse (Text.trim (withOwnNames s))))

/-- The value of a tree, with the signals of arithmetic caught. -/
def value (p : Platform) (e : Expr) : Except Thrown Float :=
  caught [.arithmetic, .value, .type, .depth] "Cannot evaluate expression".toList (p.evaluate e)

/-- A value as a result, which has to be finite. -/
def finite (x : Float) : Except Thrown Float :=
  if Binary64.isFinite x then pure x else throw (.ofInvalid (.notFinite x))

/-- What one attempt at a text comes to. -/
def outcome (p : Platform) (s : Text) : Except Thrown Float := do
  let e ← p.read s
  let x ← p.value e
  finite x

/-- A run that logs the texts of its attempts. -/
abbrev Run (α : Type) := ExceptT Thrown (StateM (List Text)) α

def attempt (p : Platform) (s : Text) : Run Float := do
  modify (· ++ [s])
  MonadExcept.ofExcept (p.outcome s)

/-- The value of a text, no text counting as an empty one.  The text is checked, and if the attempt
at it throws an error of the class for invalid expressions, there may be a second one. -/
def calculate (p : Platform) (cfg : Settings) (text : Option Text) : Run Float := do
  let s := text.getD []
  MonadExcept.ofExcept ((screen cfg s).mapError .ofFault)
  try p.attempt s
  catch
    | .invalid m =>
      if cfg.retries && promote s != s then
        try p.attempt (promote s)
        catch
          | .invalid _ => throw (.invalid m)
          | t => throw t
      else throw (.invalid m)
    | t => throw t

end Platform

/-! ## The standard platform -/

def ArithmeticFault.kind : ArithmeticFault → SignalKind
  | .divisionByZero => .arithmetic
  | .outsideDomain => .value
  | .outsideRange => .arithmetic
  | .powerOverflow => .arithmetic
  | .zeroToNegative => .arithmetic
  | .integerTooLarge => .arithmetic
  | .infiniteToInteger => .arithmetic
  | .nanToInteger => .value
  | .complexOverflow => .arithmetic
  | .wrongArity => .type

def Signal.ofFault (f : ArithmeticFault) : Signal := ⟨f.kind, f.detail?⟩

/-- The platform with the grammar and the arithmetic of the calculator. -/
def Platform.standard : Platform where
  parse s :=
    match (lexemes? s).bind ofLexemes? with
    | some e => .ok e
    | none => .error ⟨if s.contains '\x00' then .value else .grammar, none⟩
  integer n := (integerValue n).mapError .ofFault
  operate op x y :=
    match op.value x y with
    | .ok z => .ok (.real z)
    | .error (.failed f) => .error (.ofFault f)
    | .error _ => .ok .complex
  call f xs := (apply f xs).mapError .ofFault

/-- What is thrown where the calculator's own evaluation fails: the signal of a failed operation,
which is yet to be caught, or an error. -/
def Invalid.thrown : Invalid → Thrown
  | .failed f => .signal (.ofFault f)
  | i => .ofInvalid i

theorem power_eq_error {x y : Float} {i : Invalid} (h : power x y = .error i) :
    i = .notReal ∨ ∃ f, i = .failed f := by
  grind [power]

theorem Operator.value_eq_error {op : Operator} {x y : Float} {i : Invalid}
    (h : op.value x y = .error i) : i = .notReal ∨ ∃ f, i = .failed f := by
  cases op with
  | div =>
    rw [value] at h
    cases hdiv : divide x y with
    | ok z =>
      rw [hdiv] at h
      cases h
    | error f =>
      rw [hdiv] at h
      cases h
      exact .inr ⟨f, rfl⟩
  | pow => exact power_eq_error h
  | _ => cases h

namespace Platform

theorem binaryOperation?_eq (op : BinaryOp) :
    binaryOperation? op = (Operator.ofBinaryOp? op).map Operator.value := by
  cases op <;> rfl

/-- An operator on the standard platform. -/
theorem operate_standard (op : Operator) (x y : Float) :
    (do match ← raised (standard.operate op x y) with
        | .real z => pure z
        | .complex => throw (.ofInvalid .notReal)) = (op.value x y).mapError Invalid.thrown := by
  rw [standard]
  dsimp only
  cases h : op.value x y with
  | ok z => rfl
  | error i =>
    rcases Operator.value_eq_error h with rfl | ⟨f, rfl⟩
    · rfl
    · rfl

theorem evaluateAll_standard {es : List Expr}
    (h : ∀ e ∈ es, standard.evaluate e = (Expr.evaluate e).mapError Invalid.thrown) :
    standard.evaluateAll es = (Expr.evaluateAll es).mapError Invalid.thrown := by
  induction es with
  | nil => rfl
  | cons e es ih =>
    rw [evaluateAll, Expr.evaluateAll, h e List.mem_cons_self,
      ih fun d hd => h d (List.mem_cons_of_mem e hd)]
    cases Expr.evaluate e with
    | error f => rfl
    | ok x => cases Expr.evaluateAll es <;> rfl

/-- On the standard platform trees have the values that the calculator gives them. -/
theorem evaluate_standard (e : Expr) :
    standard.evaluate e = (Expr.evaluate e).mapError Invalid.thrown := by
  induction e using Expr.induction with
  | constant c =>
    cases c with
    | integer n =>
      change raised ((integerValue n).mapError .ofFault) = _
      rw [Expr.evaluate, literalValue]
      cases integerValue n <;> rfl
    | _ => rfl
  | unary op e ih =>
    rw [evaluate, Expr.evaluate, ih]
    cases Expr.evaluate e with
    | error f => rfl
    | ok x =>
      cases unaryOperation? op <;> rfl
  | binary op l r ihl ihr =>
    rw [evaluate, Expr.evaluate, binaryOperation?_eq, ihl, ihr]
    cases Operator.ofBinaryOp? op with
    | none => rfl
    | some o =>
      cases Expr.evaluate l with
      | error f => rfl
      | ok x => cases Expr.evaluate r with
        | error f => rfl
        | ok y => exact operate_standard o x y
  | name id =>
    rw [evaluate, Expr.evaluate, nameValue]
    split <;> rfl
  | call func args keywords _ ih =>
    rw [evaluate, Expr.evaluate, evaluateAll_standard ih]
    cases calledFunction? func with
    | none => rfl
    | some f =>
      dsimp only
      split
      · rfl
      · cases Expr.evaluateAll args with
        | error i => rfl
        | ok xs =>
          change raised ((apply f xs).mapError .ofFault) = _
          dsimp only
          cases apply f xs <;> rfl
  | other form parts => rfl

theorem read_standard (s : Text) : standard.read s =
    match ofText? s with
    | some e => .ok e
    | none => .error (.ofInvalid .unreadable) := by
  have hbind : ofText? s = (lexemes? (Text.trim (withOwnNames s))).bind ofLexemes? := by
    rw [ofText?]
    cases lexemes? (Text.trim (withOwnNames s)) <;> rfl
  rw [read, hbind, standard]
  dsimp only
  cases (lexemes? (Text.trim (withOwnNames s))).bind ofLexemes? with
  | some e => rfl
  | none =>
    dsimp only
    split <;> rfl

theorem value_standard (e : Expr) : standard.value e = (Expr.evaluate e).mapError .ofInvalid := by
  rw [value, evaluate_standard]
  cases Expr.evaluate e with
  | ok x => rfl
  | error i => cases i with
    | failed f => cases f <;> rfl
    | _ => rfl

/-- On the standard platform an attempt comes to what it comes to in the calculator. -/
theorem outcome_standard (s : Text) :
    standard.outcome s = (Expr.attempt s).mapError .ofInvalid := by
  rw [outcome, read_standard, Expr.attempt]
  cases ofText? s with
  | none => rfl
  | some e =>
    change standard.value e >>= finite = _
    rw [value_standard]
    dsimp only
    rw [result]
    cases Expr.evaluate e with
    | error i => rfl
    | ok x =>
      change finite x = _
      rw [finite]
      dsimp only
      split <;> rfl

/-! ## Runs -/

variable {p : Platform} {cfg : Settings} {text : Option Text}

theorem run_attempt (p : Platform) (s : Text) (log : List Text) :
    (p.attempt s).run log = (p.outcome s, log ++ [s]) := by
  rw [attempt]
  cases p.outcome s <;> rfl

/-- A text that is refused is not attempted. -/
theorem run_calculate_of_refused {f : Fault} (h : screen cfg (text.getD []) = .error f) :
    (p.calculate cfg text).run [] = (.error (.ofFault f), []) := by
  rw [calculate, h]
  rfl

/-- A handler runs with the log of what has thrown. -/
theorem run_tryCatch (m : Run α) (handle : Thrown → Run α) (log : List Text) :
    (tryCatch m handle).run log =
      match m.run log with
      | (.error t, log') => (handle t).run log'
      | (.ok a, log') => (.ok a, log') := by
  unfold ExceptT.run
  simp only [tryCatch, tryCatchThe, MonadExceptOf.tryCatch, ExceptT.tryCatch, ExceptT.mk, bind,
    StateT.bind]
  cases m log with
  | mk result log' => cases result <;> rfl

/-- What an admitted text comes to, and the texts that are attempted. -/
def admitted (p : Platform) (cfg : Settings) (s : Text) : Except Thrown Float × List Text :=
  match p.outcome s with
  | .error (.invalid m) =>
      if cfg.retries && promote s != s then
        (match p.outcome (promote s) with
          | .error (.invalid _) => .error (.invalid m)
          | r => r, [s, promote s])
      else (.error (.invalid m), [s])
  | r => (r, [s])

theorem run_calculate_of_admitted (h : screen cfg (text.getD []) = .ok ()) :
    (p.calculate cfg text).run [] = p.admitted cfg (text.getD []) := by
  rw [calculate, h]
  generalize text.getD [] = s
  change (tryCatch (p.attempt s) _).run [] = _
  rw [run_tryCatch, run_attempt, admitted]
  cases p.outcome s with
  | ok x => rfl
  | error t => cases t with
    | invalid m =>
      dsimp only
      split
      · rw [run_tryCatch, run_attempt]
        cases p.outcome (promote s) with
        | ok x => rfl
        | error t => cases t <;> rfl
      · rfl
    | _ => rfl

theorem admitted_standard (cfg : Settings) (s : Text) :
    (standard.admitted cfg s).1 = (evaluateAdmitted cfg s).mapError .ofInvalid := by
  rw [admitted, evaluateAdmitted, outcome_standard, outcome_standard]
  cases Expr.attempt s with
  | ok x => rfl
  | error i =>
    cases cfg.retries && promote s != s with
    | false => rfl
    | true => cases Expr.attempt (promote s) <;> rfl

/-- On the standard platform a text comes to what it comes to in the calculator. -/
theorem calculate_standard (cfg : Settings) (text : Option Text) :
    ((standard.calculate cfg text).run []).1 =
      (Expr.calculate cfg (text.getD [])).mapError .ofFault := by
  rw [Expr.calculate]
  cases h : screen cfg (text.getD []) with
  | error f =>
    rw [run_calculate_of_refused h]
    rfl
  | ok u =>
    rw [run_calculate_of_admitted h, admitted_standard]
    cases evaluateAdmitted cfg (text.getD []) <;> rfl

end Platform

end Abacus.Expr
