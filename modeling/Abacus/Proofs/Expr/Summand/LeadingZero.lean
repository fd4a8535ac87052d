import Abacus.Proofs.Expr.Summand.Enclosing
import Abacus.Proofs.Expr.Summand.Marked
import Abacus.Proofs.Expr.Summand.Screening

/-!
# A leading zero in front of a sum

A numeral with a leading zero that is no literal makes the first attempt at a sum fail.  The second
one takes the numeral as hexadecimal, and the sum is that of this number and of what is read off the
promotion of the other summand.  Where promotion leaves that summand alone, its value is the one it
has by itself.

The limits of a platform on nesting and recursion are set aside, as in all that is said about sums:
a platform may read the summand by itself and refuse it one level deeper, in its parentheses, with
a signal of the kind `SignalKind.depth`.
-/

namespace Abacus.Expr

open Radix (placeValue)
open Text (isBlank)

variable {l r s : Text} {maxLength : Int} {x h : Float}

/-! ## The first attempt -/

/-- A numeral with a leading zero that is no literal cannot be read in front of a plus. -/
theorem attempt_leadingZero_ne_ok (hl : LeadingZero l) (hliteral : ∀ c, numberAt? l ≠ some (c, []))
    (x : Float) : attempt (plusEnclosed l r) ≠ .ok x := by
  intro hx
  obtain ⟨e, p, rest, hls, hp, hrest, -⟩ := exists_spells hx
  obtain ⟨hreturn, -⟩ := hl.notMem (c := '\r') (by decide)
  obtain ⟨q, rfl⟩ := hl.exists_cons
  have hown : withOwnNames ('0' :: q) = [] ++ '0' :: q := (withOwnNames_leadingZero hl).1
  obtain ⟨-, -, hlexes⟩ := (lexemes?_plusEnclosed hown nofun (by decide) (by decide)).1 hls
  rw [unifiedBreaks_eq_self hreturn] at hlexes
  obtain ⟨c, -, hnumber, hstops, -⟩ := Lexes.of_figure hlexes (hp.clean hrest) (by decide)
    (fun e he => isWordPart_of_isRunOf (by decide) (hl.digits e he))
    (by rintro _ ⟨⟩; decide) (.inr (by rintro _ ⟨⟩; decide))
  have halone := numberAt?_append (List.cons_ne_nil '0' q) hstops stops_nil hnumber
  rw [List.append_nil] at halone
  exact hliteral c halone

/-! ## The second attempt -/

theorem SelfContained.promote (hr : SelfContained r) : SelfContained (promote r) where
  balanced := by
    rw [parentheses_eq_filterMap, groups_promote, ← parentheses_eq_filterMap]
    exact hr.balanced
  hash_notMem := by
    rw [← hash_mem_groups, groups_promote, hash_mem_groups]
    exact hr.hash_notMem

/-- A word with a leading zero and a marked one do not start alike. -/
theorem marked_append_ne (hl : LeadingZero l) (u v : Text) : marked l ++ u ≠ l ++ v := by
  obtain ⟨q, rfl⟩ := hl.exists_cons
  obtain ⟨c, q, rfl⟩ := List.exists_cons_of_ne_nil (l := q) (by
    rintro rfl
    exact absurd hl.length (by decide))
  intro heq
  obtain ⟨rfl, -⟩ := List.cons.inj (List.cons.inj heq).2
  have hx : isRunOf 16 'x' := hl.digits 'x' (by simp)
  cases hx

theorem evaluate_markedValue (hline : '_' ∉ l)
    (hvalue : integerValue (placeValue .sixteen l) = .ok h) :
    evaluate (.constant (.integer (markedValue l))) = .ok h := by
  rwa [evaluate_integer, markedValue_eq hline]

/-- The second attempt at a sum adds the number that its leading zero is promoted to. -/
theorem calculate_leadingZero_iff {z : Float} (hl : LeadingZero l) (hline : '_' ∉ l)
    (hzeros : l.all (· == '0') = false) (hliteral : ∀ c, numberAt? l ≠ some (c, []))
    (hr : SelfContained r) (hscreen : screen ⟨maxLength, true⟩ r = .ok ())
    (hlen : ((plusEnclosed l r).length : Int) ≤ maxLength)
    (hvalue : integerValue (placeValue .sixteen l) = .ok h) :
    calculate ⟨maxLength, true⟩ (plusEnclosed l r) = .ok z ↔ Binary64.isFinite z ∧
      ∃ e y, ofText? (enclosedText (promote r)) = some e ∧ evaluate e = .ok y ∧ z = h + y := by
  have hpromote : promote (plusEnclosed l r) = plusEnclosed (marked l) (promote r) := by
    rw [isPass_promote.plusEnclosed, promote_leadingZero hl hzeros]
  have hne : promote (plusEnclosed l r) ≠ plusEnclosed l r := by
    rw [hpromote]
    exact marked_append_ne hl _ _
  have hadmitted : screen ⟨maxLength, true⟩ (plusEnclosed l r) = .ok () :=
    screen_leadingZero_plus hl hscreen hlen
  have hmarked := evaluate_markedValue hline hvalue
  rw [calculate_eq_ok, evaluateAdmitted_of_retries (attempt_leadingZero_ne_ok hl hliteral) hne,
    hpromote, attempt_marked hl hr.promote]
  constructor
  · rintro ⟨-, e, he, hz⟩
    obtain ⟨hz, hfinite⟩ := result_eq_ok.1 hz
    obtain ⟨y, hy⟩ := (evaluate_binary_ok hz).2.2
    rw [evaluate_add hmarked hy] at hz
    cases hz
    exact ⟨hfinite, e, y, he, hy, rfl⟩
  · rintro ⟨hfinite, e, y, he, hy, rfl⟩
    exact ⟨hadmitted, e, he, result_eq_ok.2 ⟨evaluate_add hmarked hy, hfinite⟩⟩

/-! ## The sum -/

/-- A numeral with a leading zero that is no literal is added as a hexadecimal number to what is
read off the promotion of the other summand, in parentheses.  That is the value of the summand by
itself if promotion leaves it alone and no other blanks stand at its ends than an expression may
hold. -/
theorem calculate_leadingZero_plus (hl : LeadingZero l) (hline : '_' ∉ l)
    (hzeros : l.all (· == '0') = false) (hliteral : ∀ c, numberAt? l ≠ some (c, []))
    (hhash : '#' ∉ r) (hx : calculate ⟨maxLength, false⟩ r = .ok x)
    (hlen : ((plusEnclosed l r).length : Int) ≤ maxLength)
    (hvalue : integerValue (placeValue .sixteen l) = .ok h) :
    (∀ z, calculate ⟨maxLength, true⟩ (plusEnclosed l r) = .ok z ↔ Binary64.isFinite z ∧
      ∃ e y, ofText? (enclosedText (promote r)) = some e ∧ evaluate e = .ok y ∧ z = h + y) ∧
    (promote r = r → (∀ c ∈ r, isBlank c → IsSpace c ∨ c = '\r') → Binary64.isFinite (h + x) →
      calculate ⟨maxLength, true⟩ (plusEnclosed l r) = .ok (h + x)) := by
  obtain ⟨hscreen, hx⟩ := calculate_eq_ok.1 hx
  rw [evaluateAdmitted_of_not_retries] at hx
  have hr : SelfContained r := ⟨balanced_of_attempt hx hhash, hhash⟩
  have hsum := fun z => @calculate_leadingZero_iff l r maxLength h z hl hline hzeros hliteral hr
    (screen_eq_ok.2 (screen_eq_ok.1 hscreen)) hlen hvalue
  refine ⟨hsum, fun hpromote hblank hfinite => (hsum _).2 ⟨hfinite, ?_⟩⟩
  obtain ⟨e, he, hvalue⟩ := exists_ofText?_enclosedText hx hhash hblank
  rw [hpromote]
  exact ⟨e, x, he, hvalue, rfl⟩

/-- Promotion changes neither figure of the product. -/
theorem calculate_leadingZero_plus_product : ∃ x h, calculate ⟨2000, false⟩ "2*3".toList = .ok x ∧
    integerValue (placeValue .sixteen "0ff".toList) = .ok h ∧
    calculate ⟨2000, true⟩ "0ff + (2*3)".toList = .ok (h + x) := by
  have hfinite : ((calculate ⟨2000, false⟩ "2*3".toList).toOption.bind fun x =>
      (integerValue (placeValue .sixteen "0ff".toList)).toOption.map fun h =>
        Binary64.isFinite (h + x)) = some true := by decide +kernel
  obtain ⟨x, hx, hfinite⟩ := Option.bind_eq_some_iff.1 hfinite
  obtain ⟨h, hh, hfinite⟩ := Option.map_eq_some_iff.1 hfinite
  have hok : ∀ {ε : Type} {y : Float} {a : Except ε Float}, a.toOption = some y → a = .ok y := by
    intro ε y a hy
    cases a <;> cases hy
    rfl
  have hliteral : (numberAt? "0ff".toList).map (·.2) ≠ some [] := by decide +kernel
  refine ⟨x, h, hok hx, hok hh, ?_⟩
  exact (@calculate_leadingZero_plus "0ff".toList "2*3".toList 2000 x h
    ⟨by decide +kernel, by decide +kernel, by decide +kernel⟩ (by decide +kernel)
    (by decide +kernel) (fun c hc => hliteral (by rw [hc]; rfl)) (by decide +kernel) (hok hx)
    (by decide +kernel) (hok hh)).2 (by decide +kernel) (by decide +kernel) hfinite

/-- The binary literal in `0ff + (0b10)` is promoted along with the numeral, to 2832. -/
theorem calculate_leadingZero_plus_binary : LeadingZero "0ff".toList ∧
    (numberAt? "0ff".toList).map (·.2) ≠ some [] ∧ placeValue .sixteen "0ff".toList = 255 ∧
    (calculate ⟨2000, false⟩ "0b10".toList).toOption.map Float.toBits = some (2 : Float).toBits ∧
    (calculate ⟨2000, true⟩ "0ff + (0b10)".toList).toOption.map Float.toBits =
      some (255 + 2832 : Float).toBits ∧ (255 + 2832 : Float).toBits ≠ (255 + 2 : Float).toBits :=
  ⟨⟨by decide +kernel, by decide +kernel, by decide +kernel⟩, by decide +kernel, by decide +kernel,
    by decide +kernel, by decide +kernel, by decide +kernel⟩

end Abacus.Expr
