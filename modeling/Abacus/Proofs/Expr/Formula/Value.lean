import Abacus.Proofs.Binary64.Range
import Abacus.Proofs.Expr.Formula.Reading
import Abacus.Proofs.Expr.Formula.Screening

/-!
# Calculating a formula

A formula that is printed and calculated gives its own value.  Every step on the way leaves it
intact: the screening admits it, it is read as its tree, and there is nothing to promote for a
second attempt.  A number that is too long to be read has no value either.
-/

namespace Abacus.Expr

open Radix (digits)
open Binary64 (isFinite)

/-! ## Numbers that are too long -/

/-- There are no more digits than bits. -/
theorem length_digits_le (b : Base) (n : Nat) : (digits b n).length ≤ Nat.log2 n + 1 := by
  induction n using Radix.digits_induction b with
  | single n h =>
    rw [Radix.digits_of_lt h, List.length_singleton]
    exact Nat.succ_le_succ (Nat.zero_le _)
  | more n h ih =>
    have hb := b.two_le
    have hquotient : n / b.val ≠ 0 := (Nat.div_pos h (by omega)).ne'
    have hlog : Nat.log2 (n / b.val) + 1 ≤ Nat.log2 n := by
      rw [Nat.le_log2 (by omega)]
      calc
        2 ^ (Nat.log2 (n / b.val) + 1) = 2 ^ Nat.log2 (n / b.val) * 2 := Nat.pow_succ 2 _
        _ ≤ n / b.val * b.val := Nat.mul_le_mul (Nat.log2_self_le hquotient) hb
        _ ≤ n := Nat.div_mul_le_self n b.val
    rw [Radix.digits_of_le h, List.length_append, List.length_singleton]
    omega

/-- A number has a value only if it can be read. -/
theorem isReadable_of_integerValue {n : Nat} {x : Float} (h : integerValue n = .ok x) :
    (Symbol.number n).isReadable = true := by
  by_contra hlong
  have hlen : 4300 < (digits .ten n).length :=
    Nat.lt_of_not_le fun hle => hlong (decide_eq_true hle)
  have hbits := length_digits_le .ten n
  have hfinite := (Binary64.ofInt?_eq_some.1 (integerValue_eq_ok.1 h)).1
  have hlog := Binary64.log2_lt_of_isFinite_ofInt hfinite
  omega

/-! ## Readable formulas -/

theorem all_enclosed (p : Symbol → Bool) (hopening : p .opening = true)
    (hclosing : p .closing = true) (needed : Bool) (ss : List Symbol) :
    (enclosed needed ss).all p = ss.all p := by
  cases needed with
  | false => rfl
  | true => simp [enclosed, hopening, hclosing]

namespace Formula

theorem denote_operand_ok {negative : Bool} {f : Formula} {x : Float}
    (h : (signed negative f).denote = .ok x) : ∃ y, f.denote = .ok y := by
  change (do let y ← f.denote; pure (signedValue negative y)) = _ at h
  cases hf : f.denote with
  | ok y => exact ⟨y, rfl⟩
  | error g =>
    rw [hf] at h
    cases h

theorem denote_operands_ok {op : Operator} {l r : Formula} {x : Float}
    (h : (binary op l r).denote = .ok x) :
    (∃ y, l.denote = .ok y) ∧ ∃ z, r.denote = .ok z := by
  change (do let y ← l.denote; let z ← r.denote; op.value y z) = _ at h
  cases hl : l.denote with
  | ok y =>
    cases hr : r.denote with
    | ok z => exact ⟨⟨y, rfl⟩, z, rfl⟩
    | error g =>
      rw [hl, hr] at h
      cases h
  | error g =>
    rw [hl] at h
    cases h

theorem denote_arguments_ok {fs : List Formula} {xs : List Float}
    (h : Calculation.denoteAll (calculations fs) = .ok xs) :
    ∀ f ∈ fs, ∃ y, f.denote = .ok y := by
  induction fs generalizing xs with
  | nil => exact fun _ h => absurd h List.not_mem_nil
  | cons f fs ih =>
    change (do
      let y ← f.denote
      let ys ← Calculation.denoteAll (calculations fs)
      pure (y :: ys)) = _ at h
    cases hf : f.denote with
    | error g =>
      rw [hf] at h
      cases h
    | ok y =>
      cases hfs : Calculation.denoteAll (calculations fs) with
      | error g =>
        rw [hf, hfs] at h
        cases h
      | ok ys =>
        intro g hg
        rcases List.mem_cons.1 hg with rfl | hg
        · exact ⟨y, hf⟩
        · exact ih hfs g hg

theorem denote_call_ok {f : FunctionName} {fs : List Formula} {x : Float}
    (h : (call f fs).denote = .ok x) : ∀ f ∈ fs, ∃ y, f.denote = .ok y := by
  change (do
    let ys ← Calculation.denoteAll (calculations fs)
    callValue f.function ys) = _ at h
  cases hfs : Calculation.denoteAll (calculations fs) with
  | ok ys => exact denote_arguments_ok hfs
  | error g =>
    rw [hfs] at h
    cases h

theorem all_furtherSymbols {p : Symbol → Bool} (hclosing : p .closing = true)
    (hcomma : p .comma = true) {fs : List Formula} (h : ∀ f ∈ fs, f.symbols.all p = true) :
    (furtherSymbols fs).all p = true := by
  induction fs with
  | nil => simp [furtherSymbols, hclosing]
  | cons f fs ih =>
    rw [furtherSymbols, List.all_cons, List.all_append, hcomma, h f List.mem_cons_self,
      ih fun g hg => h g (List.mem_cons_of_mem f hg)]
    rfl

theorem all_argumentSymbols {p : Symbol → Bool} (hclosing : p .closing = true)
    (hcomma : p .comma = true) {fs : List Formula} (h : ∀ f ∈ fs, f.symbols.all p = true) :
    (argumentSymbols fs).all p = true := by
  cases fs with
  | nil => simp [argumentSymbols, hclosing]
  | cons f fs =>
    rw [argumentSymbols, List.all_append, h f List.mem_cons_self,
      all_furtherSymbols hclosing hcomma fun g hg => h g (List.mem_cons_of_mem f hg)]
    rfl

/-- A formula has a value only if all of its symbols can be read. -/
theorem isReadable_of_denote {f : Formula} {x : Float} (h : f.denote = .ok x) :
    f.symbols.all Symbol.isReadable = true := by
  induction f using induction generalizing x with
  | number n =>
    have hvalue : (integerValue n).mapError Invalid.failed = .ok x := h
    cases hn : integerValue n with
    | ok y => rw [symbols, List.all_cons, isReadable_of_integerValue hn]; rfl
    | error g =>
      rw [hn] at hvalue
      cases hvalue
  | constant c => rfl
  | signed negative f ih =>
    obtain ⟨y, hy⟩ := denote_operand_ok h
    rw [symbols, List.all_cons, all_enclosed _ rfl rfl, ih hy]
    rfl
  | binary op l r ihl ihr =>
    obtain ⟨⟨y, hy⟩, z, hz⟩ := denote_operands_ok h
    rw [symbols, List.all_append, List.all_cons, all_enclosed _ rfl rfl, all_enclosed _ rfl rfl,
      ihl hy, ihr hz]
    rfl
  | call f args ih =>
    have hargs : ∀ a ∈ args, a.symbols.all Symbol.isReadable = true := by
      intro a ha
      obtain ⟨y, hy⟩ := denote_call_ok h a ha
      exact ih a ha hy
    rw [symbols, List.all_cons, List.all_cons, all_argumentSymbols rfl rfl hargs]
    rfl

/-! ## The way of a formula through the calculator -/

/-- The tree that is read from the text of a formula. -/
theorem ofText?_text (f : Formula) :
    ofText? f.text = if f.symbols.all Symbol.isReadable then some f.tree else none := by
  have htrim : Text.trim (symbolsSource f.symbols) = symbolsSource f.symbols :=
    Text.trim_eq_self fun c hc => (chars_plain c (mem_chars_of_mem_symbolsSource hc)).2.1
  rw [ofText?, text, withOwnNames_symbolsText f.phrase.chain, htrim,
    lexemes?_symbolsSource f.phrase]
  cases f.symbols.all Symbol.isReadable with
  | false => rfl
  | true => exact f.ofLexemes?_symbols

theorem attempt_text (f : Formula) : attempt f.text =
    if f.symbols.all Symbol.isReadable then f.tree.result else .error .unreadable := by
  rw [attempt, ofText?_text]
  cases f.symbols.all Symbol.isReadable <;> rfl

/-- A formula is calculated in one attempt. -/
theorem calculate_text_eq (f : Formula) {cfg : Settings}
    (hlen : (f.text.length : Int) ≤ cfg.maxLength) :
    calculate cfg f.text = (attempt f.text).mapError .invalid := by
  have hpromote : (promote f.text != f.text) = false := by
    rw [text, promote_symbolsText f.phrase.chain, bne_self_eq_false]
  rw [calculate, text, screen_symbolsText f.phrase hlen]
  simp only
  rw [evaluateAdmitted, ← text, hpromote, Bool.and_false]
  cases attempt f.text <;> rfl

/-- Calculating the text of a formula gives the value of the formula if the value is finite, and is
an invalid expression if it is not finite or if there is none. -/
theorem calculate_text (f : Formula) (cfg : Settings)
    (hlen : (f.text.length : Int) ≤ cfg.maxLength) :
    (∀ x, f.denote = .ok x → isFinite x → calculate cfg f.text = .ok x) ∧
    ((∀ x, f.denote = .ok x → isFinite x = false) →
      ∃ cause, calculate cfg f.text = .error (.invalid cause)) := by
  rw [calculate_text_eq f hlen, attempt_text]
  constructor
  · intro x hx hfinite
    rw [isReadable_of_denote hx, if_pos rfl, result, evaluate_tree, hx]
    simp only [hfinite, if_true]
    rfl
  · intro hnone
    cases f.symbols.all Symbol.isReadable with
    | false => exact ⟨.unreadable, rfl⟩
    | true =>
      rw [if_pos rfl, result, evaluate_tree]
      cases hx : f.denote with
      | error g => exact ⟨g, rfl⟩
      | ok x =>
        refine ⟨.notFinite x, ?_⟩
        simp only [hnone x hx, Bool.false_eq_true, if_false]
        rfl

/-- The formula `-(1-max(e,-3))/n`. -/
def signedShare (n : Nat) : Formula :=
  .binary .div
    (.signed true (.binary .sub (.number 1)
      (.call ⟨"max".toList, .max, rfl⟩
        [.constant ⟨"e".toList, .e, rfl⟩, .signed true (.number 3)])))
    (.number n)

/-- One share that has a value, and one that has none. -/
theorem calculate_text_signedShare :
    (signedShare 4).text = "-(1-max(e,-3))/4".toList ∧
    calculate {} "-(1-max(e,-3))/4".toList = .ok ((constantValue .e - 1) / 4) ∧
    ∃ cause, calculate {} "-(1-max(e,-3))/0".toList = .error (.invalid cause) := by
  have htext : (signedShare 4).text = "-(1-max(e,-3))/4".toList := by decide +kernel
  have htext' : (signedShare 0).text = "-(1-max(e,-3))/0".toList := by decide +kernel
  refine ⟨htext, ?_, ?_⟩
  · rw [← htext]
    have hvalue : (signedShare 4).denote = .ok ((constantValue .e - 1) / 4) := rfl
    have hfinite : isFinite ((constantValue .e - 1) / 4) := by decide +kernel
    exact (calculate_text (signedShare 4) {} (by decide +kernel)).1 _ hvalue hfinite
  · rw [← htext']
    have hnone : (signedShare 0).denote = .error (.failed .divisionByZero) := rfl
    refine (calculate_text (signedShare 0) {} (by decide +kernel)).2 fun x hx => ?_
    rw [hnone] at hx
    cases hx

end Formula

end Abacus.Expr
