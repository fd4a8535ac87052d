import Abacus.Expr.Calculator
import Abacus.Proofs.Expr.Lexing.Parentheses
import Abacus.Proofs.Expr.NumeralTokens
import Abacus.Proofs.Expr.Retry.Passes
import Abacus.Proofs.Text.Compatibility
import Abacus.Proofs.Text.Words

/-!
# Texts cut at separators

Blanks, signs and parentheses belong to no name and to no numeral with a leading zero, so the passes
over a text work on either side of such a character as if the other side were not there.  A text
that is put in parentheses behind a plus keeps this shape through all passes.
-/

namespace Abacus.Expr

open Text (isWord isBlank)

variable {c : Char} {u v r s w : Text}

/-! ## Separators -/

/-- A character that belongs to no word, binds no name and stays as it is. -/
structure IsCut (c : Char) : Prop where
  word : isWord c = false
  binds : bindsName c = false
  caret : c ≠ '^'

instance (c : Char) : Decidable (IsCut c) :=
  decidable_of_iff (isWord c = false ∧ bindsName c = false ∧ c ≠ '^')
    ⟨fun h => ⟨h.1, h.2.1, h.2.2⟩, fun h => ⟨h.word, h.binds, h.caret⟩⟩

theorem isCut_of_isBlank (h : isBlank c) : IsCut c :=
  have hclass : bindsName c = false ∧ c ≠ '^' :=
    Text.blank_induction (P := fun c => bindsName c = false ∧ c ≠ '^') (by decide) h
  ⟨Text.not_isWord_of_isBlank h, hclass.1, hclass.2⟩

theorem separates_promotableToken (hc : isWord c = false) : promotableToken.Separates c := by
  have hrun : isRunOf 16 c = false := Bool.eq_false_iff.2 fun hrun => by
    simpa [hc] using isWord_of_isRunOf hrun
  have hzero : (c == '0') = false := beq_eq_false_iff_ne.2 fun hzero => by
    simp [hzero, show isRunOf 16 '0' = true from rfl] at hrun
  refine ⟨?_, hc⟩
  simp [promotableToken, Text.Piece.takes, Text.Piece.exactly, Text.Piece.one, hrun, hzero]

/-- What is promoted are words. -/
theorem inWords_promotableToken : Text.InWords promotableToken.length? :=
  .of_separates fun _ hc => (separates_promotableToken hc).length?

theorem separates_nameLength? (hc : isWord c = false) (hbinds : bindsName c = false) :
    Text.Separates nameLength? c where
  cons := inWords_nameLength?.cons hc
  append := inWords_nameLength?.append hc
  length := inWords_nameLength?.length
  start s := by
    rw [nameLength?, nameLength?, Option.any_some, hbinds]
    rfl

/-! ## Passes -/

/-- A pass over a text that works on the two sides of a cut as if each stood alone. -/
structure IsPass (F : Text → Text) : Prop where
  nil : F [] = []
  append_cons {c : Char} (hc : IsCut c) (u v : Text) : F (u ++ c :: v) = F u ++ c :: F v

theorem promote_append_cons (hc : isWord c = false) (u v : Text) :
    promote (u ++ c :: v) = promote u ++ c :: promote v :=
  Text.replaceTokens_append_cons (separates_promotableToken hc).length? u v

theorem isPass_promote : IsPass promote where
  nil := rfl
  append_cons hc := promote_append_cons hc.word

/-- Characters that belong to no word and bind no name part a text, a caret among them. -/
theorem withOwnNames_append_cons (hc : isWord c = false) (hbinds : bindsName c = false)
    (u v : Text) :
    withOwnNames (u ++ c :: v) = withOwnNames u ++ (expandCaret c ++ withOwnNames v) := by
  rw [withOwnNames, Text.replaceTokens_append_cons (separates_nameLength? hc hbinds),
    List.flatMap_append, List.flatMap_cons]
  rfl

theorem isPass_withOwnNames : IsPass withOwnNames where
  nil := rfl
  append_cons hc u v := by
    rw [withOwnNames_append_cons hc.word hc.binds, expandCaret, beq_eq_false_iff_ne.2 hc.caret]
    rfl

namespace IsPass

variable {F : Text → Text}

theorem cons (h : IsPass F) (hc : IsCut c) (v : Text) : F (c :: v) = c :: F v := by
  rw [← List.nil_append (c :: v), h.append_cons hc, h.nil]
  rfl

/-- Cuts in front stay as they are. -/
theorem append_of_cuts (h : IsPass F) (hu : ∀ c ∈ u, IsCut c) (v : Text) :
    F (u ++ v) = u ++ F v := by
  induction u with
  | nil => rfl
  | cons c u ih =>
    obtain ⟨hc, hu⟩ := List.forall_mem_cons.1 hu
    rw [List.cons_append, h.cons hc, ih hu]
    rfl

/-- Behind cuts a pass starts anew. -/
theorem append_cuts_append (h : IsPass F) (hne : u ≠ []) (hu : ∀ c ∈ u, IsCut c) (s v : Text) :
    F (s ++ (u ++ v)) = F s ++ (u ++ F v) := by
  obtain ⟨c, u, rfl⟩ := List.exists_cons_of_ne_nil hne
  obtain ⟨hc, hu⟩ := List.forall_mem_cons.1 hu
  rw [List.cons_append, h.append_cons hc, h.append_of_cuts hu]
  rfl

end IsPass

/-! ## Texts in parentheses behind a plus -/

/-- A text and another one in parentheses with a plus between them. -/
def plusEnclosed (u r : Text) : Text := u ++ ' ' :: '+' :: ' ' :: enclosedText r

example : plusEnclosed "16#ff".toList "1".toList = "16#ff + (1)".toList := by decide

theorem IsPass.enclosedText {F : Text → Text} (h : IsPass F) (r : Text) :
    F (enclosedText r) = enclosedText (F r) := by
  rw [Expr.enclosedText, h.cons (by decide), h.append_cons (by decide), h.nil]
  rfl

/-- A pass keeps the shape. -/
theorem IsPass.plusEnclosed {F : Text → Text} (h : IsPass F) (u r : Text) :
    F (plusEnclosed u r) = plusEnclosed (F u) (F r) := by
  rw [Expr.plusEnclosed, h.append_cons (by decide), h.cons (by decide), h.cons (by decide),
    h.enclosedText]
  rfl

theorem unifiedBreaks_enclosedText (r : Text) :
    unifiedBreaks (enclosedText r) = enclosedText (unifiedBreaks r) := by
  rw [enclosedText, unifiedBreaks_cons (by decide), unifiedBreaks_append_cons (by decide)]
  rfl

theorem unifiedBreaks_plusEnclosed (u r : Text) :
    unifiedBreaks (plusEnclosed u r) = plusEnclosed (unifiedBreaks u) (unifiedBreaks r) := by
  rw [plusEnclosed, unifiedBreaks_append_cons (by decide), unifiedBreaks_cons (by decide),
    unifiedBreaks_cons (by decide), unifiedBreaks_cons (by decide), unifiedBreaks_enclosedText]
  rfl

/-- Only the blanks in front are trimmed. -/
theorem trim_plusEnclosed (hu : ∀ c ∈ u, isBlank c) (hw : ∃ c s, w = c :: s ∧ isBlank c = false)
    (r : Text) : Text.trim (plusEnclosed (u ++ w) r) = plusEnclosed w r := by
  obtain ⟨c, s, rfl, hc⟩ := hw
  have hlast : ∃ t, plusEnclosed (c :: s) r = t ++ [')'] :=
    ⟨c :: s ++ ' ' :: '+' :: ' ' :: '(' :: r, by simp [plusEnclosed, enclosedText]⟩
  have hdrop : (plusEnclosed (u ++ c :: s) r).dropWhile isBlank = plusEnclosed (c :: s) r := by
    rw [plusEnclosed, List.append_assoc]
    exact Text.dropWhile_append_eq hu (by simpa using hc)
  obtain ⟨t, ht⟩ := hlast
  rw [Text.trim, Text.trimWhile, hdrop, ht, List.reverse_append]
  simp [show isBlank ')' = false from rfl]

theorem trim_enclosedText (r : Text) : Text.trim (enclosedText r) = enclosedText r := by
  refine Text.IsTrimmed.trim_eq ⟨?_, ?_⟩
  · rintro _ ⟨⟩
    decide
  · intro c hc
    rw [enclosedText, ← List.cons_append, List.getLast?_append] at hc
    cases hc
    decide

end Abacus.Expr
