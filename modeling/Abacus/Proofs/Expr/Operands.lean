import Abacus.Proofs.Expr.Formula.OwnNames
import Abacus.Proofs.Expr.Summand.Cuts

/-!
# Operands in own names

Names are replaced inside their words, so that blanks, operators, parentheses and commas part a text
into operands that are put in own names one by one.  What has been put in own names stays as it is:
a character that binds no name is never replaced, and a word that holds one is no name, so that no
name comes about that was not there before.
-/

namespace Abacus.Expr

open Text (isWord isBlank)

variable {b b' : Option Char} {s w : Text}

/-! ## Words -/

theorem KnownName.bindsName_of_mem (k : KnownName) : ∀ c ∈ k.text, bindsName c = true :=
  List.all_eq_true.1 (k.forall_text (P := fun t => t.all bindsName = true) (by decide))

/-- A name is found where it stands alone. -/
theorem KnownName.ownNamesFrom_text (k : KnownName) (hb : b.any bindsName = false) :
    ownNamesFrom b k.text = k.own.text := by
  have hname := nameLength?_name (v := []) k nofun hb
  have hown := ownNamesFrom_of_name hname
  rw [List.append_nil] at hown
  rw [hown]
  exact List.append_nil _

theorem isWord_of_mem_ownName (hw : ∀ c ∈ w, isWord c = true) :
    ∀ c ∈ ownName w, isWord c = true := by
  rw [ownName]
  split
  · rename_i i hi
    exact (KnownName.own ⟨w, i, hi⟩).isWord_of_mem
  · exact hw

theorem isWord_of_mem_ownNamesFrom (hw : ∀ c ∈ w, isWord c = true) (b : Option Char) :
    ∀ c ∈ ownNamesFrom b w, isWord c = true :=
  Text.forall_mem_replaceFrom hw (fun _ => isWord_of_mem_ownName) 0 b

/-- In a word of characters that bind names nothing is replaced behind the first one. -/
theorem ownNamesFrom_of_binds {c : Char} (hc : bindsName c = true)
    (hw : ∀ c ∈ w, bindsName c = true) : ownNamesFrom (some c) w = w := by
  have hfront : (some c).any bindsName = true := hc
  have happend := ownNamesFrom_append hw hfront []
  rw [List.append_nil] at happend
  rw [happend]
  exact List.append_nil w

/-- A word is a name only if it was one before names behind its first character were replaced. -/
theorem ownNamesFrom_eq_self_of_name {c : Char} {k : KnownName}
    (h : c :: ownNamesFrom (some c) w = k.text) : ownNamesFrom (some c) w = w := by
  have hbinds := k.bindsName_of_mem
  rw [← h] at hbinds
  obtain ⟨hc, hrest⟩ := List.forall_mem_cons.1 hbinds
  refine ownNamesFrom_of_binds hc fun d hd => ?_
  -- a character of the word that bound no name would still be there
  have hfilter := filter_ownNamesFrom (q := fun c => !bindsName c)
    (fun k c hc => by rw [k.bindsName_of_mem c hc]; rfl) (some c) w
  cases hbind : bindsName d with
  | true => rfl
  | false =>
    have hmem : d ∈ w.filter fun c => !bindsName c := List.mem_filter.2 ⟨hd, by rw [hbind]; rfl⟩
    rw [← hfilter] at hmem
    exact hbind.symm.trans (hrest d (List.mem_of_mem_filter hmem))

theorem ownNamesFrom_ownNamesFrom_word (hw : ∀ c ∈ w, isWord c = true) (b : Option Char) :
    ownNamesFrom b (ownNamesFrom b w) = ownNamesFrom b w := by
  induction w generalizing b with
  | nil => rfl
  | cons c w ih =>
    obtain ⟨hc, hrest⟩ := List.forall_mem_cons.1 hw
    have hwhole : ∀ {v : Text}, (∀ c ∈ v, isWord c = true) → (c :: v).takeWhile isWord = c :: v :=
      fun hv => List.takeWhile_eq_self_iff.2 (List.forall_mem_cons.2 ⟨hc, hv⟩)
    cases hname : nameLength? b (c :: w) with
    | some n =>
      obtain ⟨hb, hallowed, -⟩ := nameLength?_eq_some hname
      rw [hwhole hrest] at hallowed
      obtain ⟨k, hk⟩ := exists_name_of_isAllowedName hallowed
      rw [hk, k.ownNamesFrom_text hb, k.own.ownNamesFrom_text hb]
      rfl
    | none =>
      have hcons : ownNamesFrom b (c :: w) = c :: ownNamesFrom (some c) w :=
        Text.replaceFrom_cons_of_none hname
      -- no name comes about where there was none
      have hname' : nameLength? b (c :: ownNamesFrom (some c) w) = none := by
        rw [Option.eq_none_iff_forall_ne_some]
        intro n hn
        obtain ⟨-, hallowed, -⟩ := nameLength?_eq_some hn
        rw [hwhole (isWord_of_mem_ownNamesFrom hrest _)] at hallowed
        obtain ⟨k, hk⟩ := exists_name_of_isAllowedName hallowed
        rw [ownNamesFrom_eq_self_of_name hk, hname] at hn
        cases hn
      have hcons' : ownNamesFrom b (c :: ownNamesFrom (some c) w) =
          c :: ownNamesFrom (some c) (ownNamesFrom (some c) w) :=
        Text.replaceFrom_cons_of_none hname'
      rw [hcons, hcons', ih hrest]

/-! ## Texts -/

theorem ownNamesFrom_ownNamesFrom (hb : b.any isWord = false) (s : Text) :
    ownNamesFrom b (ownNamesFrom b s) = ownNamesFrom b s :=
  inWords_nameLength?.replaceFrom_replaceFrom
    (fun b _ _ hw => ownNamesFrom_ownNamesFrom_word hw b) hb s

/-- Of the character in front it only matters whether it binds names. -/
theorem ownNamesFrom_congr_binds (h : b.any bindsName = b'.any bindsName) (s : Text) :
    ownNamesFrom b s = ownNamesFrom b' s :=
  Text.replaceFrom_congr (by rw [nameLength?, nameLength?, h])

/-- Names and carets do not meet. -/
theorem ownNamesFrom_flatMap_expandCaret (b : Option Char) (s : Text) :
    ownNamesFrom b (s.flatMap expandCaret) = (ownNamesFrom b s).flatMap expandCaret := by
  induction s using Text.word_induction generalizing b with
  | nil => rfl
  | @other c s hc ih =>
    rw [ownNamesFrom_cons hc, List.flatMap_cons, List.flatMap_cons]
    by_cases hcaret : c = '^'
    · subst hcaret
      have hbinds : (some '^').any bindsName = (some '*').any bindsName := rfl
      have hexpand : expandCaret '^' = ['*', '*'] := rfl
      rw [hexpand, ownNamesFrom_congr_binds hbinds, ← ih, List.cons_append, List.singleton_append,
        ownNamesFrom_cons (by decide), ownNamesFrom_cons (by decide)]
      rfl
    · have hexpand : expandCaret c = [c] := by rw [expandCaret, beq_eq_false_iff_ne.2 hcaret]; rfl
      rw [hexpand, List.singleton_append, ownNamesFrom_cons hc, ih]
      rfl
  | @word w s _ hw hs ih =>
    have happend : ∀ s : Text, (∀ c ∈ s.head?, isWord c = false) →
        ownNamesFrom b (w ++ s) = ownNamesFrom b w ++ ownNamesFrom b s :=
      fun s hs => inWords_nameLength?.replaceFrom_append hs b b w
    rw [List.flatMap_append, flatMap_expandCaret_of_word hw,
      happend _ (not_isWord_head_flatMap hs), happend s hs, List.flatMap_append,
      flatMap_expandCaret_of_word (isWord_of_mem_ownNamesFrom hw b), ih]

theorem withOwnNames_withOwnNames (s : Text) : withOwnNames (withOwnNames s) = withOwnNames s := by
  rw [withOwnNames_eq, withOwnNames_eq, ownNamesFrom_flatMap_expandCaret,
    ownNamesFrom_ownNamesFrom rfl, flatMap_expandCaret_eq_self (caret_notMem_flatMap _)]

/-! ## Operands -/

/-- Blanks and the marks of formulas belong to no word and bind no name. -/
theorem class_of_isBlank_or_mark {c : Char} (h : isBlank c ∨ c ∈ Symbol.marks) :
    isWord c = false ∧ bindsName c = false := by
  rcases h with h | h
  · exact ⟨Text.not_isWord_of_isBlank h, (isCut_of_isBlank h).binds⟩
  · have hmarks : ∀ c ∈ Symbol.marks, bindsName c = false := List.all_iff_forall_prop.1 (by decide)
    exact ⟨not_isWord_of_mem_marks c h, hmarks c h⟩

/-- A text is put in own names once and for all, operand by operand: what stands on either side of a
blank, an operator, a parenthesis or a comma is put in own names by itself, and so is a name that
stands alone. -/
theorem withOwnNames_operandwise :
    (∀ s, withOwnNames (withOwnNames s) = withOwnNames s) ∧
    (∀ (u v : Text) (c : Char), isBlank c ∨ c ∈ Symbol.marks →
      withOwnNames (u ++ c :: v) = withOwnNames u ++ withOwnNames [c] ++ withOwnNames v) ∧
    ∀ k : KnownName, withOwnNames k.text = k.own.text := by
  refine ⟨withOwnNames_withOwnNames, fun u v c hc => ?_, fun k => ?_⟩
  · obtain ⟨hword, hbinds⟩ := class_of_isBlank_or_mark hc
    have halone : withOwnNames [c] = expandCaret c := by
      have hsingle := withOwnNames_append_cons hword hbinds [] []
      rwa [isPass_withOwnNames.nil, List.append_nil, List.nil_append, List.nil_append] at hsingle
    rw [withOwnNames_append_cons hword hbinds, halone, List.append_assoc]
  · rw [withOwnNames_eq, k.ownNamesFrom_text rfl, flatMap_expandCaret_of_word k.own.isWord_of_mem]

/-- The two sides of a caret, with names that are replaced on both. -/
theorem withOwnNames_operandwise_caret : '^' ∈ Symbol.marks ∧
    withOwnNames "2*PI^ln(E)".toList =
      withOwnNames "2*PI".toList ++ withOwnNames ['^'] ++ withOwnNames "ln(E)".toList ∧
    withOwnNames "2*PI^ln(E)".toList = "2*pi**log(e)".toList ∧
    withOwnNames "2*pi**log(e)".toList = "2*pi**log(e)".toList := by
  have hmark : '^' ∈ Symbol.marks := by decide
  have hvalue : withOwnNames "2*PI^ln(E)".toList = "2*pi**log(e)".toList := by decide +kernel
  obtain ⟨honce, hparts, -⟩ := withOwnNames_operandwise
  refine ⟨hmark, hparts "2*PI".toList "ln(E)".toList '^' (.inr hmark), hvalue, ?_⟩
  rw [← hvalue]
  exact honce _

end Abacus.Expr
