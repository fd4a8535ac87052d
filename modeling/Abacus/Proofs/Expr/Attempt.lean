import Abacus.Expr.Calculator
import Abacus.Proofs.Expr.Evaluation
import Abacus.Proofs.Expr.Grammar.Completeness
import Abacus.Proofs.Expr.Grammar.Soundness
import Abacus.Proofs.Expr.Lexing.Step

/-!
# Attempts

An attempt at a text has a value where the lexemes of the text spell a calculation with that value,
and nowhere else.  An admitted text has the value of the first attempt at it, or of the second.
-/

namespace Abacus.Expr

variable {cfg : Settings} {maxLength : Int} {s r : Text} {e : Expr} {x : Float}
  {p rest ls : List Lexeme}

theorem lexemes?_eq_some : lexemes? s = some ls ↔ '\x00' ∉ s ∧
    ∃ r, skipEmptyLines ((unifiedBreaks s).length + 1) (unifiedBreaks s) = some r ∧
      Lexes 0 r ls := by
  rw [lexemes?]
  by_cases hzero : '\x00' ∈ s
  · simp [hzero]
  · have hcontains : s.contains '\x00' = false := by simpa using hzero
    rw [hcontains, if_neg Bool.false_ne_true]
    dsimp only
    cases skipEmptyLines ((unifiedBreaks s).length + 1) (unifiedBreaks s) with
    | none => simp
    | some r => simp [hzero, lexes_iff]

theorem result_eq_ok : result e = .ok x ↔ evaluate e = .ok x ∧ Binary64.isFinite x := by
  rw [result]
  cases evaluate e with
  | error f => simp
  | ok y =>
    dsimp only
    split
    · rename_i hy
      simp only [Except.ok.injEq]
      exact ⟨fun h => ⟨h, h ▸ hy⟩, fun h => h.1⟩
    · rename_i hy
      simp only [reduceCtorEq, Except.ok.injEq, false_iff, not_and]
      rintro rfl
      exact hy

theorem attempt_eq_ok : attempt s = .ok x ↔ ∃ e, ofText? s = some e ∧ result e = .ok x := by
  rw [attempt]
  cases ofText? s <;> simp

/-- An attempt with a value has read lexemes that spell a tree with this value. -/
theorem exists_spells (h : attempt s = .ok x) : ∃ e p rest,
    lexemes? (Text.trim (withOwnNames s)) = some (p ++ rest) ∧ Spells .sum e p ∧
      (∀ l ∈ rest, l = .newline) ∧ result e = .ok x := by
  obtain ⟨e, he, hx⟩ := attempt_eq_ok.1 h
  rw [ofText?] at he
  cases hls : lexemes? (Text.trim (withOwnNames s)) with
  | none =>
    rw [hls] at he
    cases he
  | some ls =>
    rw [hls] at he
    obtain ⟨c, hc⟩ := exists_calculation? fun n hn => admitted_of_occurs hn (result_eq_ok.1 hx).1
    obtain ⟨p, rest, rfl, hp, hrest⟩ := spells_of_ofLexemes? he hc
    exact ⟨e, p, rest, rfl, hp, hrest, hx⟩

theorem attempt_of_spells (hp : Spells .sum e p) (hrest : ∀ l ∈ rest, l = .newline)
    (h : lexemes? (Text.trim (withOwnNames s)) = some (p ++ rest)) : attempt s = result e := by
  rw [attempt, ofText?, h]
  dsimp only
  rw [hp.ofLexemes? hrest]

/-! ## Admission -/

theorem screen_eq_ok : screen cfg s = .ok () ↔ s.all Text.isBlank = false ∧
    s.find? isUnsafeChar = none ∧ (s.length : Int) ≤ cfg.maxLength ∧ unknownName? s = none := by
  rw [screen, ← Int.not_lt]
  cases s.all Text.isBlank with
  | true => simp
  | false =>
    cases s.find? isUnsafeChar with
    | some c => simp
    | none =>
      by_cases hlen : cfg.maxLength < s.length
      · simp [hlen]
      · cases unknownName? s <;> simp [hlen]

theorem mapError_eq_ok {ε ε' α : Type} {f : ε → ε'} {r : Except ε α} {x : α} :
    r.mapError f = .ok x ↔ r = .ok x := by
  cases r with
  | ok y => exact ⟨by rintro ⟨⟩; rfl, by rintro ⟨⟩; rfl⟩
  | error e => exact ⟨by rintro ⟨⟩, by rintro ⟨⟩⟩

theorem calculate_eq_ok : calculate cfg s = .ok x ↔
    screen cfg s = .ok () ∧ evaluateAdmitted cfg s = .ok x := by
  rw [calculate]
  cases screen cfg s with
  | error f => simp
  | ok u => simp [mapError_eq_ok]

theorem evaluateAdmitted_of_not_retries : evaluateAdmitted ⟨maxLength, false⟩ s = attempt s := by
  rw [evaluateAdmitted]
  cases attempt s <;> rfl

theorem evaluateAdmitted_of_retries (hfails : ∀ x, attempt s ≠ .ok x) (hs : promote s ≠ s) :
    evaluateAdmitted ⟨maxLength, true⟩ s = .ok x ↔ attempt (promote s) = .ok x := by
  rw [evaluateAdmitted]
  cases hattempt : attempt s with
  | ok y => exact absurd hattempt (hfails y)
  | error f =>
    have hne : (promote s != s) = true := bne_iff_ne.2 hs
    cases attempt (promote s) <;> simp [hne]

/-- If the first attempt has a value, there is no other one. -/
theorem eq_of_attempt {y : Float} (h : calculate cfg s = .ok x) (hy : attempt s = .ok y) :
    x = y := by
  obtain ⟨-, h⟩ := calculate_eq_ok.1 h
  rw [evaluateAdmitted, hy] at h
  exact (Except.ok.inj h).symm

/-- A value is that of one of the attempts. -/
theorem exists_attempt_of_calculate (h : calculate cfg s = .ok x) :
    attempt s = .ok x ∨ attempt (promote s) = .ok x := by
  obtain ⟨-, h⟩ := calculate_eq_ok.1 h
  rw [evaluateAdmitted] at h
  cases hs : attempt s with
  | ok y =>
    rw [hs] at h
    exact .inl h
  | error f =>
    rw [hs] at h
    dsimp only at h
    split at h
    · cases hp : attempt (promote s) with
      | ok y =>
        rw [hp] at h
        exact .inr h
      | error f' =>
        rw [hp] at h
        cases h
    · cases h

end Abacus.Expr
