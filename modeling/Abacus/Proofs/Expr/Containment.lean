import Abacus.Proofs.Expr.Attempt
import Abacus.Proofs.Expr.Platform

/-!
# What the calculator throws

A platform whose parser and arithmetic keep to the kinds of signals that are known of them cannot
make the calculator throw anything but an error of its own four classes, nor come to a number that
is complex, infinite or NaN.  `Throws` says what a computation may throw at most; the rules for it
follow the way computations are put together, and trees are gone through form by form.
-/

namespace Abacus.Expr

variable {α β : Type} {P : Thrown → Prop} {kinds : List SignalKind} {r : Except Thrown α}

/-! ## What a computation throws -/

/-- What is thrown, if anything, has a property. -/
def Throws (P : Thrown → Prop) (r : Except Thrown α) : Prop := ∀ t, r = .error t → P t

/-- The errors for invalid expressions, and the signals of some kinds. -/
inductive Thrown.Within (kinds : List SignalKind) : Thrown → Prop
  | invalid (message : Text) : Within kinds (.invalid message)
  | signal (g : Signal) (hg : g.kind ∈ kinds) : Within kinds (.signal g)

theorem throws_pure (a : α) : Throws P (pure a) := nofun

theorem throws_throw {t : Thrown} (h : P t) : Throws P (throw t : Except Thrown α) := by
  rintro _ ⟨⟩
  exact h

theorem Throws.bind {f : α → Except Thrown β} (h : Throws P r) (hf : ∀ a, Throws P (f a)) :
    Throws P (r >>= f) := by
  intro t ht
  cases r with
  | ok a => exact hf a t ht
  | error t' =>
    cases ht
    exact h t rfl

theorem exists_of_bind_eq_ok {f : α → Except Thrown β} {b : β} (h : r >>= f = .ok b) :
    ∃ a, r = .ok a ∧ f a = .ok b := by
  cases r with
  | ok a => exact ⟨a, rfl, h⟩
  | error t => cases h

theorem throws_raised {r : Except Signal α} (h : ∀ g, r = .error g → g.kind ∈ kinds) :
    Throws (Thrown.Within kinds) (raised r) := by
  intro t ht
  cases r with
  | ok a => cases ht
  | error g =>
    cases ht
    exact .signal g (h g rfl)

/-- Where all signals are of kinds that are caught, only errors for invalid expressions are left. -/
theorem Throws.caught {caughtKinds : List SignalKind} (h : Throws (Thrown.Within kinds) r)
    (hkinds : kinds ⊆ caughtKinds) (what : Text) :
    Throws (Thrown.Within []) (caught caughtKinds what r) := by
  intro t ht
  cases r with
  | ok a => cases ht
  | error t' =>
    cases h t' rfl with
    | invalid message =>
      cases ht
      exact .invalid message
    | signal g hg =>
      rw [Expr.caught, if_pos (hkinds hg)] at ht
      cases ht
      exact .invalid _

/-! ## Platforms that keep to what is known of them -/

def parsingKinds : List SignalKind := [.grammar, .value]

def arithmeticKinds : List SignalKind := [.arithmetic, .value, .type]

namespace Platform

/-- Parsing and arithmetic give no other signals than those that are known of them. -/
structure Documented (p : Platform) : Prop where
  parse : ∀ s g, p.parse s = .error g → g.kind ∈ parsingKinds
  integer : ∀ n g, p.integer n = .error g → g.kind ∈ arithmeticKinds
  operate : ∀ op x y g, p.operate op x y = .error g → g.kind ∈ arithmeticKinds
  call : ∀ f xs g, p.call f xs = .error g → g.kind ∈ arithmeticKinds

variable {p : Platform} {cfg : Settings} {text : Option Text} {s : Text}

theorem throws_evaluateAll {es : List Expr}
    (h : ∀ e ∈ es, Throws (Thrown.Within arithmeticKinds) (p.evaluate e)) :
    Throws (Thrown.Within arithmeticKinds) (p.evaluateAll es) := by
  induction es with
  | nil => exact throws_pure []
  | cons e es ih =>
    refine (h e List.mem_cons_self).bind fun x => ?_
    exact (ih fun d hd => h d (List.mem_cons_of_mem e hd)).bind fun xs => throws_pure (x :: xs)

/-- Evaluating a tree throws errors for invalid expressions and signals of arithmetic. -/
theorem throws_evaluate (hp : p.Documented) (e : Expr) :
    Throws (Thrown.Within arithmeticKinds) (p.evaluate e) := by
  induction e using Expr.induction with
  | constant c =>
    cases c with
    | integer n => exact throws_raised (hp.integer n)
    | real x => exact throws_pure x
    | _ => exact throws_throw (.invalid _)
  | unary op e ih =>
    refine ih.bind fun x => ?_
    cases unaryOperation? op with
    | some g => exact throws_pure (g x)
    | none => exact throws_throw (.invalid _)
  | binary op l r ihl ihr =>
    rw [evaluate]
    cases Operator.ofBinaryOp? op with
    | none => exact throws_throw (.invalid _)
    | some o =>
      refine ihl.bind fun x => ihr.bind fun y => (throws_raised (hp.operate o x y)).bind fun z => ?_
      cases z with
      | real z => exact throws_pure z
      | complex => exact throws_throw (.invalid _)
  | name id =>
    rw [evaluate, nameValue]
    split
    · exact throws_pure _
    · exact throws_throw (.invalid _)
  | call func args keywords _ ih =>
    rw [evaluate]
    cases calledFunction? func with
    | none => exact throws_throw (.invalid _)
    | some f =>
      dsimp only
      split
      · exact throws_throw (.invalid _)
      · exact (throws_evaluateAll ih).bind fun xs => throws_raised (hp.call f xs)
  | other form parts => exact throws_throw (.invalid _)

/-- One attempt throws errors for invalid expressions only: each of its stages catches the signals
of what it uses. -/
theorem throws_outcome (hp : p.Documented) (s : Text) :
    Throws (Thrown.Within []) (p.outcome s) := by
  have hread : Throws (Thrown.Within []) (p.read s) :=
    (throws_raised (hp.parse _)).caught (List.Subset.refl _) _
  have hvalue : ∀ e, Throws (Thrown.Within []) (p.value e) := fun e =>
    (throws_evaluate hp e).caught (by decide) _
  refine hread.bind fun e => (hvalue e).bind fun x => ?_
  rw [finite]
  split
  · exact throws_pure x
  · exact throws_throw (.invalid _)

/-- An attempt comes to a finite number, if to any. -/
theorem isFinite_of_outcome {x : Float} (h : p.outcome s = .ok x) : Binary64.isFinite x := by
  obtain ⟨e, -, h⟩ := exists_of_bind_eq_ok h
  obtain ⟨y, -, h⟩ := exists_of_bind_eq_ok h
  rw [finite] at h
  split at h
  · cases h
    assumption
  · cases h

/-- What one attempt may come to. -/
inductive IsAttempted : Except Thrown Float → Prop
  | value (x : Float) (hx : Binary64.isFinite x) : IsAttempted (.ok x)
  | invalid (message : Text) : IsAttempted (.error (.invalid message))

theorem isAttempted_outcome (hp : p.Documented) (s : Text) : IsAttempted (p.outcome s) := by
  cases h : p.outcome s with
  | ok x => exact .value x (isFinite_of_outcome h)
  | error t =>
    cases throws_outcome hp s t h with
    | invalid message => exact .invalid message
    | signal g hg => cases hg

/-- What a text may come to: a finite number, or an error of one of the four classes. -/
inductive IsContained : Except Thrown Float → Prop
  | value (x : Float) (hx : Binary64.isFinite x) : IsContained (.ok x)
  | empty : IsContained (.error .empty)
  | unsafeChar (c : Char) : IsContained (.error (.unsafeChar c))
  | unknownIdentifier (id : Text) : IsContained (.error (.unknownIdentifier id))
  | invalid (message : Text) : IsContained (.error (.invalid message))

theorem IsAttempted.isContained {r : Except Thrown Float} (h : IsAttempted r) : IsContained r := by
  cases h with
  | value x hx => exact .value x hx
  | invalid message => exact .invalid message

theorem isContained_ofFault (f : Fault) : IsContained (.error (.ofFault f)) := by
  cases f with
  | empty => exact .empty
  | unsafeChar c => exact .unsafeChar c
  | unknownIdentifier id => exact .unknownIdentifier id
  | invalid cause => exact .invalid _

theorem kind_mem_arithmeticKinds (f : ArithmeticFault) : f.kind ∈ arithmeticKinds := by
  cases f <;> decide

theorem kind_of_mapError {r : Except ArithmeticFault α} {g : Signal}
    (h : r.mapError .ofFault = .error g) : g.kind ∈ arithmeticKinds := by
  cases r with
  | ok a => cases h
  | error f =>
    cases h
    exact kind_mem_arithmeticKinds f

/-- An admitted text is attempted once or twice, and comes to what an attempt may come to. -/
theorem isAttempted_admitted (hp : p.Documented) (cfg : Settings) (s : Text) :
    IsAttempted (p.admitted cfg s).1 ∧
      ((p.admitted cfg s).2 = [s] ∨ (p.admitted cfg s).2 = [s, promote s]) := by
  have hs := isAttempted_outcome hp s
  have hpromoted := isAttempted_outcome hp (promote s)
  rw [admitted]
  generalize p.outcome s = r at hs ⊢
  generalize p.outcome (promote s) = r' at hpromoted ⊢
  cases hs with
  | value x hx => exact ⟨.value x hx, .inl rfl⟩
  | invalid m =>
    dsimp only
    split
    · refine ⟨?_, .inr rfl⟩
      cases hpromoted with
      | value x hx => exact .value x hx
      | invalid m' => exact .invalid m
    · exact ⟨.invalid m, .inl rfl⟩

theorem documented_standard : standard.Documented where
  parse := by
    intro s g h
    rw [standard] at h
    dsimp only at h
    split at h
    · cases h
    · cases h
      dsimp only
      split <;> decide
  integer := by
    intro n g h
    exact kind_of_mapError h
  operate := by
    intro op x y g h
    rw [standard] at h
    dsimp only at h
    split at h
    · cases h
    · cases h
      exact kind_mem_arithmeticKinds _
    · cases h
  call := by
    intro f xs g h
    exact kind_of_mapError h

/-- On every platform that keeps to what is known of it, a text, or none, comes to a finite number
or to an error of the four classes.  A text that is refused is not attempted; one that is admitted
is attempted once or twice, and no attempt lets a signal through.  The standard platform is one of
them, and on it the outcome is the calculator's. -/
theorem calculate_contained {p : Platform} (hp : p.Documented) (cfg : Settings)
    (text : Option Text) :
    IsContained ((p.calculate cfg text).run []).1 ∧
    (∀ f, screen cfg (text.getD []) = .error f →
      (p.calculate cfg text).run [] = (.error (.ofFault f), [])) ∧
    (screen cfg (text.getD []) = .ok () → IsAttempted ((p.calculate cfg text).run []).1 ∧
      (((p.calculate cfg text).run []).2 = [text.getD []] ∨
        ((p.calculate cfg text).run []).2 = [text.getD [], promote (text.getD [])])) ∧
    (∀ s log, ∃ r, (p.attempt s).run log = (r, log ++ [s]) ∧ IsAttempted r) ∧
    standard.Documented ∧
    ((standard.calculate cfg text).run []).1 =
      (Expr.calculate cfg (text.getD [])).mapError .ofFault := by
  have hrefused : ∀ f, screen cfg (text.getD []) = .error f →
      (p.calculate cfg text).run [] = (.error (.ofFault f), []) := fun f hf =>
    run_calculate_of_refused hf
  have hadmitted : screen cfg (text.getD []) = .ok () →
      IsAttempted ((p.calculate cfg text).run []).1 ∧
        (((p.calculate cfg text).run []).2 = [text.getD []] ∨
          ((p.calculate cfg text).run []).2 = [text.getD [], promote (text.getD [])]) := fun h => by
    rw [run_calculate_of_admitted h]
    exact isAttempted_admitted hp cfg _
  refine ⟨?_, hrefused, hadmitted, fun s log => ⟨_, run_attempt p s log, isAttempted_outcome hp s⟩,
    documented_standard, calculate_standard cfg text⟩
  cases hscreen : screen cfg (text.getD []) with
  | error f =>
    rw [hrefused f hscreen]
    exact isContained_ofFault f
  | ok u => exact (hadmitted hscreen).1.isContained

/-- The first attempt is caught in parsing and the second one in a division by zero.  Nothing is
attempted where there is no text. -/
theorem calculate_contained_bothFail :
    standard.Documented ∧ screen {} "099/0".toList = .ok () ∧
    (∃ m, ((standard.calculate {} (some "099/0".toList)).run []).1 = .error (.invalid m)) ∧
    ((standard.calculate {} (some "099/0".toList)).run []).2 = ["099/0".toList, "0x099/0".toList] ∧
    screen {} [] = .error .empty ∧
    (standard.calculate {} none).run [] = (.error .empty, []) := by
  have hscreen : screen {} "099/0".toList = .ok () := by
    rw [screen_eq_ok]
    decide +kernel
  have hvalue : ((standard.calculate {} (some "099/0".toList)).run []).1.isOk = false := by
    decide +kernel
  obtain ⟨-, -, hadmitted, -⟩ :=
    calculate_contained documented_standard {} (some "099/0".toList)
  obtain ⟨hattempted, -⟩ := hadmitted hscreen
  refine ⟨documented_standard, hscreen, ?_, by decide +kernel, rfl,
    (calculate_contained documented_standard {} none).2.1 .empty rfl⟩
  generalize ((standard.calculate {} (some "099/0".toList)).run []).1 = r at hattempted hvalue
  cases hattempted with
  | value x hx => cases hvalue
  | invalid m => exact ⟨m, rfl⟩

end Platform

end Abacus.Expr
