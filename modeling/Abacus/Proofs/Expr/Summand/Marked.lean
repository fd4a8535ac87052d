import Abacus.Proofs.Expr.Retry.Unchanged
import Abacus.Proofs.Expr.Summand.Reading
import Abacus.Proofs.Radix.Reading

/-!
# Marked words as summands

A word with a leading zero is no literal that a calculation can start with, or the literal as it
stands.  Once it is marked as hexadecimal it is a number in front of whatever stops a literal, and
the sum of it and a text in parentheses is read as such.
-/

namespace Abacus.Expr

open Radix (isDigitBelow placeValue)
open Text (isBlank)

variable {d : Nat} {r t w : Text} {ls : List Lexeme} {z : Float}

/-! ## Values -/

/-- The number that a marked word denotes. -/
def markedValue (w : Text) : Nat := digitsValue 16 (w.filter (· != '_'))

theorem digitsValue_eq_placeValue (b : Base) (s : Text) : digitsValue b.val s = placeValue b s := by
  induction s using List.reverseRecOn with
  | nil => rfl
  | append_singleton s c ih =>
    rw [Radix.placeValue_concat, ← ih, digitsValue, List.foldl_append]
    rfl

/-- Without low lines the digits are those of the word itself. -/
theorem markedValue_eq (h : '_' ∉ w) : markedValue w = placeValue .sixteen w := by
  have hfilter : w.filter (· != '_') = w := by
    rw [List.filter_eq_self]
    intro c hc
    simpa using fun h' : c = '_' => h (h' ▸ hc)
  rw [markedValue, hfilter]
  exact digitsValue_eq_placeValue .sixteen w

namespace LeadingZero

theorem filter_ne_nil (h : LeadingZero w) : w.filter (· != '_') ≠ [] := by
  obtain ⟨q, rfl⟩ := h.exists_cons
  exact List.cons_ne_nil _ _

theorem isDigitBelow_of_mem_filter (h : LeadingZero w) :
    ∀ e ∈ w.filter (· != '_'), isDigitBelow 16 e := by
  intro e he
  obtain ⟨he, hline⟩ := List.mem_filter.1 he
  have hrun : (isDigitBelow 16 e || e == '_') = true := h.digits e he
  rwa [beq_eq_false_iff_ne.2 (by simpa using hline), Bool.or_false] at hrun

end LeadingZero

/-! ## Lexemes -/

/-- A marked word is a literal where it is followed by a stop. -/
theorem numberAt?_marked_append (hw : LeadingZero w) (ht : Stops t) :
    numberAt? (marked w ++ t) = some (.integer (markedValue w), t) := by
  have hread := markedDigits?_of_isDigitBelow hw.filter_ne_nil hw.isDigitBelow_of_mem_filter
  rw [← List.append_nil (w.filter _)] at hread
  have htaken := markedDigits?_append (by decide) stops_nil ht hread
  rw [List.append_nil] at htaken
  rw [numberAt?, literalBase?_marked]
  change (markedDigits? 16 (w.filter (· != '_') ++ t)).map _ = _
  rw [htaken]
  rfl

theorem lexes_marked_iff (hw : LeadingZero w) (ht : Stops t) : Lexes d (marked w ++ t) ls ↔
    ∃ ls', ls = .number (.integer (markedValue w)) :: ls' ∧ Lexes d t ls' := by
  refine lexes_lexeme_iff (by simp [marked]) ?_
  have hstep := step?_zero d ('x' :: w.filter (· != '_') ++ t)
  have hnumber : numberAt? ('0' :: ('x' :: w.filter (· != '_') ++ t)) =
      some (.integer (markedValue w), t) := numberAt?_marked_append hw ht
  rw [hnumber] at hstep
  rw [marked, List.cons_append, hstep, Option.map_some]
  simp only [List.cons_append, List.length_cons, List.length_append, Option.some.injEq,
    Prod.mk.injEq, true_and]
  omega

/-! ## Sums -/

theorem withOwnNames_leadingZero (hw : LeadingZero w) :
    withOwnNames w = w ∧ withOwnNames (marked w) = marked w := by
  obtain ⟨hnot, hnot'⟩ := hw.notMem (c := '^') (by decide)
  obtain ⟨b, hb⟩ := @LeadingZero.exists_ownNamesFrom none w hw []
  obtain ⟨b', hb'⟩ := @LeadingZero.exists_ownNamesFrom_marked none w hw []
  have hnil : ∀ b, ownNamesFrom b [] = [] := fun _ => rfl
  rw [hnil, List.append_nil] at hb hb'
  rw [withOwnNames_eq, withOwnNames_eq, hb, hb', flatMap_expandCaret_eq_self hnot,
    flatMap_expandCaret_eq_self hnot']
  exact ⟨rfl, rfl⟩

theorem stops_plus (v : Text) : Stops (' ' :: v) := by
  rintro _ ⟨⟩
  decide

/-- The sum of a marked word and a text in parentheses is read as the sum of what is read. -/
theorem attempt_marked (hw : LeadingZero w) (hr : SelfContained r) :
    attempt (plusEnclosed (marked w) r) = .ok z ↔ ∃ e, ofText? (enclosedText r) = some e ∧
      result (.binary .add (.constant (.integer (markedValue w))) e) = .ok z := by
  obtain ⟨-, hreturn⟩ := hw.notMem (c := '\r') (by decide)
  have hlexemes : ∀ ls, lexemes? (Text.trim (withOwnNames (plusEnclosed (marked w) r))) = some ls ↔
      '\x00' ∉ withOwnNames r ∧
        ∃ ls', ls = .number (.integer (markedValue w)) :: .mark .plus :: ls' ∧
          Lexes 0 (enclosedText (ownLines r)) ls' := by
    intro ls
    have hzero := (hw.notMem (c := '\x00') (by decide)).2
    have hown : withOwnNames (marked w) = [] ++ '0' :: 'x' :: w.filter (· != '_') :=
      (withOwnNames_leadingZero hw).2
    rw [lexemes?_plusEnclosed hown nofun (by decide) (by decide)]
    change '\x00' ∉ marked w ∧ _ ∧ Lexes 0 (plusEnclosed (unifiedBreaks (marked w)) _) ls ↔ _
    rw [unifiedBreaks_eq_self hreturn, plusEnclosed, lexes_marked_iff hw (stops_plus _)]
    simp only [lexes_plus_iff, hzero, not_false_eq_true, true_and]
    refine and_congr_right fun _ => ⟨?_, ?_⟩
    · rintro ⟨_, rfl, ls', rfl, h⟩
      exact ⟨ls', rfl, h⟩
    · rintro ⟨ls', rfl, h⟩
      exact ⟨_, rfl, ls', rfl, h⟩
  have hnumber : SignedNumber (.constant (.integer (markedValue w)))
      [.number (.integer (markedValue w))] := .number _
  constructor
  · intro h
    obtain ⟨e, p, rest, hls, hp, hrest, hz⟩ := exists_spells h
    obtain ⟨hzero, ls, heq, hls⟩ := (hlexemes _).1 hls
    obtain ⟨b, hb, rfl⟩ := ofText?_of_sum hr hnumber hzero hls hp (result_eq_ok.1 hz).1 hrest heq
    exact ⟨b, hb, hz⟩
  · rintro ⟨e, he, hz⟩
    obtain ⟨y, hy⟩ := (evaluate_binary_ok (result_eq_ok.1 hz).1).2.2
    obtain ⟨hzero, ls, hls, hspells⟩ := (ofText?_enclosedText hr hy).1 he
    have hsum := Spells.sum_of_closed hnumber hspells (hr.closed hls) (head?_of_enclosedText hls)
    have hlexed := (hlexemes _).2 ⟨hzero, ls, rfl, hls⟩
    rw [attempt, ofText?, hlexed]
    dsimp only
    have hread := hsum.ofLexemes?_eq
    rw [List.singleton_append] at hread
    rw [hread]
    exact hz

end Abacus.Expr
