import Abacus.Proofs.Expr.Summand.Cuts
import Abacus.Proofs.Expr.Summand.Marked

/-!
# Promotion as a map of words

Promotion marks the words that it can and leaves alone every other word and whatever stands between
words, so that no word is promoted because of its neighbours.  A marked word is an integer literal
with the value of the digits of the word, and is not promoted again.
-/

namespace Abacus.Expr

open Text (isWord fragments)

variable {b : Option Char} {c : Char} {s v w : Text}

/-! ## Words that are promoted -/

instance (w : Text) : Decidable (LeadingZero w) :=
  decidable_of_iff (w.head? = some '0' ∧ (∀ c ∈ w, isRunOf 16 c) ∧ 3 ≤ w.length)
    ⟨fun h => ⟨h.1, h.2.1, h.2.2⟩, fun h => ⟨h.head, h.digits, h.length⟩⟩

/-- A word with a leading zero that does not consist of zeros. -/
structure IsPromotable (w : Text) : Prop where
  leadingZero : LeadingZero w
  nonzero : ∃ c ∈ w, c ≠ '0'

instance (w : Text) : Decidable (IsPromotable w) :=
  decidable_of_iff (LeadingZero w ∧ ∃ c ∈ w, c ≠ '0')
    ⟨fun h => ⟨h.1, h.2⟩, fun h => ⟨h.leadingZero, h.nonzero⟩⟩

theorem not_all_zero_iff : w.all (· == '0') = false ↔ ∃ c ∈ w, c ≠ '0' := by
  simp [List.all_eq_false]

/-- A word or another character after promotion. -/
def promoteFragment (w : Text) : Text := if IsPromotable w then marked w else w

theorem promote_word (hw : ∀ c ∈ w, isWord c) : promote w = promoteFragment w := by
  rw [promoteFragment]
  by_cases hzero : LeadingZero w
  · cases hzeros : w.all (· == '0') with
    | false => rw [promote_leadingZero hzero hzeros, if_pos ⟨hzero, not_all_zero_iff.1 hzeros⟩]
    | true =>
      have hnot : ¬ IsPromotable w := fun h => by
        rw [not_all_zero_iff.2 h.nonzero] at hzeros
        cases hzeros
      rw [promote_eq_promoteToken hzero, promoteToken_eq, hzeros, if_neg hnot, if_pos rfl]
  · rw [promote_of_word hw hzero, if_neg fun h => hzero h.leadingZero]

/-- The mark is no digit. -/
theorem not_leadingZero_marked (w : Text) : ¬ LeadingZero (marked w) := fun h => by
  have hx : isRunOf 16 'x' := h.digits 'x' (by simp [marked])
  cases hx

theorem promote_promote_word (hw : ∀ c ∈ w, isWord c) : promote (promote w) = promote w := by
  by_cases h : IsPromotable w
  · have hmarked : ∀ c ∈ marked w, isWord c :=
      (h.leadingZero.forall_mem (P := fun c => isWord c = true) (fun _ hc => isWord_of_isRunOf hc)
        (by decide)).2
    rw [promote_word hw, promoteFragment, if_pos h,
      promote_of_word hmarked (not_leadingZero_marked w)]
  · have hsame : promote w = w := by rw [promote_word hw, promoteFragment, if_neg h]
    rw [hsame, hsame]

/-! ## Texts -/

/-- Promotion behind a character that belongs to no word is promotion from the start. -/
theorem replaceFrom_eq_promote (hb : b.any isWord = false) (s : Text) :
    Text.replaceFrom promotableToken.length? promoteToken 0 b s = promote s := by
  have hword : b.any isWord = (none : Option Char).any isWord := hb
  apply Text.replaceFrom_congr
  rw [Text.Pattern.length?, Text.Pattern.length?,
    Text.Pattern.segments?_congr promotableToken hword]

theorem promote_append (hv : ∀ c ∈ v.head?, isWord c = false) (u : Text) :
    promote (u ++ v) = promote u ++ promote v :=
  inWords_promotableToken.replaceFrom_append hv none none u

theorem promote_promote (s : Text) : promote (promote s) = promote s := by
  refine inWords_promotableToken.replaceFrom_replaceFrom (fun b w hb hw => ?_) rfl s
  rw [replaceFrom_eq_promote hb, replaceFrom_eq_promote hb]
  exact promote_promote_word hw

/-- A text is promoted fragment by fragment. -/
theorem promote_eq_flatMap (s : Text) : promote s = (fragments s).flatMap promoteFragment := by
  induction s using Text.word_induction with
  | nil => rfl
  | @other c s hc ih =>
    have hnot : ¬ IsPromotable [c] := fun h => by
      have := h.leadingZero.length
      simp at this
    have hcons := promote_append_cons hc [] s
    rw [List.nil_append] at hcons
    rw [hcons, Text.fragments_cons hc, List.flatMap_cons, promoteFragment, if_neg hnot, ih]
    rfl
  | @word w s hne hw hs ih =>
    rw [promote_append hs, promote_word hw, Text.fragments_append hne hw hs, List.flatMap_cons, ih]

/-- A promoted word is read as an integer literal of the value that its digits have. -/
theorem IsPromotable.exists_value (h : IsPromotable w) :
    ∃ n, Radix.readDigits 16 (w.filter (· != '_')) = .ok n ∧
      ∀ t, Stops t → numberAt? (marked w ++ t) = some (.integer n, t) := by
  have hw := h.leadingZero
  refine ⟨markedValue w, ?_, fun t ht => numberAt?_marked_append hw ht⟩
  have hvalue : markedValue w = Radix.placeValue .sixteen (w.filter (· != '_')) :=
    digitsValue_eq_placeValue .sixteen _
  rw [hvalue]
  exact Radix.readDigits_eq_placeValue (b := .sixteen) hw.filter_ne_nil
    hw.isDigitBelow_of_mem_filter

/-- Whatever belongs to no word separates what is promoted, promotion is done once and for all, and
it does nothing but put a mark to the words with a leading zero that do not consist of zeros.  What
is put in the place of such a word is a literal of the integer that its digits denote. -/
theorem promote_wordwise :
    (∀ (u v : Text) (c : Char), isWord c = false →
      promote (u ++ c :: v) = promote u ++ c :: promote v) ∧
    (∀ s, promote (promote s) = promote s) ∧
    (∀ s, promote s = (fragments s).flatMap fun w =>
      if IsPromotable w then '0' :: 'x' :: w.filter (· != '_') else w) ∧
    ∀ w, IsPromotable w → ∃ n, Radix.readDigits 16 (w.filter (· != '_')) = .ok n ∧
      ∀ t, Stops t → numberAt? ('0' :: 'x' :: w.filter (· != '_') ++ t) = some (.integer n, t) :=
  ⟨fun u v _ hc => promote_append_cons hc u v, promote_promote, promote_eq_flatMap,
    fun _ h => h.exists_value⟩

/-- Words with a leading zero on both sides of a point, the first one with low lines. -/
theorem promote_wordwise_point : isWord '.' = false ∧ IsPromotable "0__f_F".toList ∧
    promote "2*0__f_F.000+0b1".toList =
      promote "2*0__f_F".toList ++ '.' :: promote "000+0b1".toList ∧
    promote "2*0__f_F.000+0b1".toList = "2*0x0fF.000+0x0b1".toList ∧
    ∃ n, Radix.readDigits 16 "0fF".toList = .ok n ∧
      numberAt? "0x0fF".toList = some (.integer n, []) := by
  have hword : isWord '.' = false := by decide
  have hpromotable : IsPromotable "0__f_F".toList := by decide
  obtain ⟨hlocal, -, -, hvalue⟩ := promote_wordwise
  obtain ⟨n, hn, hnumber⟩ := hvalue _ hpromotable
  exact ⟨hword, hpromotable, hlocal "2*0__f_F".toList "000+0b1".toList '.' hword, by decide +kernel,
    n, hn, hnumber [] stops_nil⟩

end Abacus.Expr
