import Abacus.Expr.Calculator
import Abacus.Proofs.Expr.Formula.Spelling
import Abacus.Proofs.Expr.NumeralTokens
import Abacus.Proofs.Text.Basic

/-!
# Formulas pass the screening

The text of a formula has no blank, no quote and nothing beyond ASCII.  Of the kinds of numerals
that are stripped before names are looked at, all but the last one need a letter behind a figure, a
blank, a low line or a leading zero, and find nothing.  The last one strips figures and signs, which
leaves the letters of the names.  No numeral has a leading zero, so that there is nothing to
promote.
-/

namespace Abacus.Expr

open Numeral (isSign)
open Text (Pattern Piece isLetter isBlank isNameChar)

variable {ss : List Symbol}

/-! ## Characters -/

theorem chars_plain : ∀ c ∈ Symbol.chars,
    c.toNat < 128 ∧ isBlank c = false ∧ isUnsafeChar c = false :=
  List.all_iff_forall_prop.1 (by decide +kernel)

theorem toNat_lt_of_mem_symbolsText {c : Char} (h : c ∈ symbolsText ss) : c.toNat < 128 :=
  (chars_plain c (mem_chars_of_mem_symbolsText h)).1

theorem not_isBlank_of_mem_symbolsText {c : Char} (h : c ∈ symbolsText ss) : isBlank c = false :=
  (chars_plain c (mem_chars_of_mem_symbolsText h)).2.1

theorem normalized_symbolsText : Text.normalized (symbolsText ss) = symbolsText ss := by
  rw [Text.normalized, if_pos]
  rw [List.all_eq_true]
  exact fun c hc => decide_eq_true (toNat_lt_of_mem_symbolsText hc)

/-! ## Numerals that do not occur -/

/-- A kind with a letter behind a digit. -/
theorem stripKind_of_letter (hss : ss.IsChain Apart) {p q : Pattern} {m m' : Option Nat}
    {a b : Char → Bool} (ha : ∀ c ∈ Symbol.chars, a c → c.isDigit)
    (hb : ∀ d ∈ Symbol.chars, d.isDigit ∨ d ∈ Symbol.marks → b d = false) :
    stripKind (symbolsText ss) [p ++ .run 1 m a :: .run 1 m' b :: q] = symbolsText ss := by
  apply stripKind_eq_self
  intro u c r hs
  rw [Option.eq_none_iff_forall_ne_some]
  intro x hx
  obtain ⟨v, d, e, w, hr, hd, he⟩ := Pattern.exists_neighbours_of_segments? hx
  rw [hr, ← List.append_assoc] at hs
  have hd' : d ∈ symbolsText ss := by simp [hs]
  have he' : e ∈ symbolsText ss := by simp [hs]
  have hspaced : Spaced d e :=
    List.isChain_iff_forall_rel_of_append_cons_cons.1 (isChain_spaced hss) hs
  have hfollow := hspaced (ha d (mem_chars_of_mem_symbolsText hd') hd)
  rw [hb e (mem_chars_of_mem_symbolsText he') hfollow] at he
  cases he

/-- A numeral with a leading zero. -/
theorem segments?_leadingZero (hss : ss.IsChain Apart) {k : Nat} (hk : 0 < k) {q : Pattern}
    {u r : Text} {c : Char} (hs : symbolsText ss = u ++ c :: r) :
    Pattern.segments? (.boundary :: .exactly '0' :: .run k none (isRunOf 16) :: q) u.getLast?
      (c :: r) = none := by
  rw [Pattern.segments?]
  split
  · rename_i hboundary
    rw [Piece.exactly, Pattern.segments?_one_cons]
    split
    · rename_i hc
      obtain rfl : c = '0' := by simpa using hc
      rw [Pattern.segments?_run_eq_none hk]
      · rfl
      intro d hd
      cases r with
      | nil => cases hd
      | cons e v =>
        cases hd
        have hspaced : Spaced '0' d :=
          List.isChain_iff_forall_rel_of_append_cons_cons.1 (isChain_spaced hss) hs
        rcases hspaced rfl with hdigit | hmark
        · -- the zero is inside a word, where no word starts
          obtain ⟨e, he, hdigit⟩ := isDigit_before_zero hss hs hdigit
          rw [he] at hboundary
          simp [Text.isBoundary, Text.isWord_of_isDigit hdigit, Text.isWord_of_isDigit] at hboundary
        · have all : ∀ c ∈ Symbol.marks, isRunOf 16 c = false :=
            List.all_iff_forall_prop.1 (by decide)
          exact all d hmark
    · rfl
  · rfl

theorem promote_symbolsText (hss : ss.IsChain Apart) :
    promote (symbolsText ss) = symbolsText ss := by
  apply Text.replaceTokens_eq_self
  intro u c r hs
  rw [Pattern.length?, promotableToken, segments?_leadingZero hss (by decide) hs]
  rfl

/-! ## Names -/

/-- The last kind of numerals is made of characters that stand in no name. -/
theorem not_isNameChar_of_tokenLength? {b : Option Char} {s : Text} {n : Nat}
    (hs : ∀ c ∈ s, c ∈ Symbol.chars)
    (h : tokenLength? [fractionToken, wholeToken] b s = some n) :
    ∀ c ∈ s.take n, isNameChar c = false := by
  have all : ∀ p ∈ [fractionToken, wholeToken], ∀ piece ∈ p,
      (Symbol.chars.all fun c => piece.takes c → isNameChar c = false) = true := by decide +kernel
  obtain ⟨p, hp, hn⟩ := List.exists_of_findSome?_eq_some h
  obtain ⟨⟨segs, rest⟩, hsegs, rfl⟩ := Option.map_eq_some_iff.1 hn
  have htake : s.take segs.flatten.length = segs.flatten := by
    rw [← Pattern.segments?_append hsegs, List.take_left]
  rw [htake]
  exact Pattern.forall_of_segments? hsegs fun piece hpiece c hc =>
    List.all_iff_forall_prop.1 (all p hp piece hpiece) c (hs c hc)

theorem isLetter_of_figure_or_mark {l : Char} (hl : l ∈ ['x', 'b', 'o']) :
    ∀ d ∈ Symbol.chars, d.isDigit ∨ d ∈ Symbol.marks → isLetter l d = false := by
  simp only [List.mem_cons, List.not_mem_nil, or_false] at hl
  rcases hl with rfl | rfl | rfl <;> exact List.all_iff_forall_prop.1 (by decide)

theorem isDigit_of_isRunOf {bound : Nat} (hbound : bound ∈ [2, 8]) :
    ∀ c ∈ Symbol.chars, isRunOf bound c → c.isDigit := by
  simp only [List.mem_cons, List.not_mem_nil, or_false] at hbound
  rcases hbound with rfl | rfl <;> exact List.all_iff_forall_prop.1 (by decide)

theorem stripKind_markedToken (hss : ss.IsChain Apart) {l : Char} (hl : l ∈ ['x', 'b', 'o'])
    (bound : Nat) : stripKind (symbolsText ss) [markedToken l bound] = symbolsText ss := by
  refine stripKind_of_letter hss (p := [.optional isSign, .many isBlank])
    (q := [.some (isRunOf bound)]) ?_ (isLetter_of_figure_or_mark hl)
  intro c _ hc
  rw [beq_iff_eq.1 hc]
  rfl

theorem stripKind_suffixedToken (hss : ss.IsChain Apart) {l : Char} (hl : l ∈ ['x', 'b', 'o'])
    {bound : Nat} (hbound : bound ∈ [2, 8]) :
    stripKind (symbolsText ss) [suffixedToken l bound] = symbolsText ss :=
  stripKind_of_letter hss (p := [.optional isSign, .many isBlank]) (q := [.boundary])
    (isDigit_of_isRunOf hbound) (isLetter_of_figure_or_mark hl)

/-- Only the last kind of numerals is stripped from the text of symbols. -/
theorem stripNumerals_symbolsText (hss : ss.IsChain Apart) :
    stripNumerals (symbolsText ss) = stripKind (symbolsText ss) [fractionToken, wholeToken] := by
  have habsent : ∀ {a : Char → Bool}, (∀ c ∈ Symbol.chars, a c = false) →
      ∀ c ∈ symbolsText ss, a c = false := fun ha c hc => ha c (mem_chars_of_mem_symbolsText hc)
  have hhexadecimal : stripKind (symbolsText ss) [suffixedToken 'h' 16] = symbolsText ss :=
    stripKind_of_absent (a := isLetter 'h') (m := some 1)
      (by simp [suffixedToken, withSign, Piece.one])
      (habsent (List.all_iff_forall_prop.1 (by decide)))
  have hzero : stripKind (symbolsText ss) [leadingZeroToken] = symbolsText ss :=
    stripKind_eq_self fun u c r hs => segments?_leadingZero hss Nat.one_pos hs
  have hradix : stripKind (symbolsText ss) [radixHashToken] = symbolsText ss :=
    stripKind_of_absent (a := (· == '#')) (m := some 1)
      (by simp [radixHashToken, withSign, Piece.exactly, Piece.one])
      (habsent (List.all_iff_forall_prop.1 (by decide)))
  have hbase : stripKind (symbolsText ss) [baseWordToken] = symbolsText ss :=
    stripKind_of_absent (a := isBlank) (m := none)
      (by simp [baseWordToken, withSign, Piece.some])
      (habsent (List.all_iff_forall_prop.1 (by decide)))
  simp only [stripNumerals, numeralTokens, List.foldl_cons, List.foldl_nil]
  rw [stripKind_markedToken hss (by decide), stripKind_markedToken hss (by decide),
    stripKind_markedToken hss (by decide), hhexadecimal, hzero,
    stripKind_suffixedToken hss (by decide) (by decide),
    stripKind_suffixedToken hss (by decide) (by decide), hradix, hbase]

/-- The names in the text of symbols are names of built-ins, without their figures. -/
theorem isAllowedName_of_mem_runs (hss : ss.IsChain Apart) :
    ∀ w ∈ Text.runs isNameChar (symbolsText ss), isAllowedName w := by
  have hfigure : ∀ c : Char, c.isDigit → isNameChar c = false := fun c hc =>
    Text.digit_induction (P := fun c => isNameChar c = false) (by decide) hc
  have hmark : ∀ c ∈ Symbol.marks, isNameChar c = false :=
    List.all_iff_forall_prop.1 (by decide)
  have hnames : ∀ p ∈ Builtin.names, ∀ w ∈ Text.runs isNameChar p.1, isAllowedName w := by
    decide
  induction ss with
  | nil => exact fun w hw => absurd hw List.not_mem_nil
  | cons s ss ih =>
    obtain ⟨hnext, hchain⟩ := List.isChain_cons.1 hss
    rw [symbolsText_cons]
    cases hs : s.isWord with
    | false =>
      obtain ⟨c, hc, hsc⟩ := Symbol.exists_text_of_mark hs
      rw [hsc, List.singleton_append, Text.runs_cons (hmark c hc)]
      exact ih hchain
    | true =>
      cases s with
      | number n =>
        have hdigits : ∀ c ∈ Radix.digits .ten n, isNameChar c = false := fun c hc =>
          hfigure c (Radix.isDigit_of_mem_digits hc)
        rw [Symbol.text, Text.runs_append_of_forall hdigits]
        exact ih hchain
      | name k =>
        have hhead : ∀ c ∈ (symbolsText ss).head?, isNameChar c = false := fun c hc =>
          hmark c (head?_symbolsText (fun b hb => (hnext b hb).words rfl) c hc)
        rw [Symbol.text, Text.runs_append k.text hhead]
        intro w hw
        rcases List.mem_append.1 hw with hw | hw
        · exact hnames _ k.mem_names w hw
        · exact ih hchain w hw
      | _ => cases hs

theorem unknownName?_symbolsText (hss : ss.IsChain Apart) :
    unknownName? (symbolsText ss) = none := by
  have hzero : isNameChar '0' = false := by decide
  have hruns : Text.runs isNameChar (stripNumerals (symbolsText ss)) =
      Text.runs isNameChar (symbolsText ss) := by
    rw [stripNumerals_symbolsText hss]
    apply Text.runs_replaceTokens hzero
    intro b u c r n hs hn
    refine not_isNameChar_of_tokenLength? (fun d hd => ?_) hn
    have hmem : d ∈ symbolsText ss := by
      rw [hs]
      exact List.mem_append_right u hd
    exact mem_chars_of_mem_symbolsText hmem
  rw [unknownName?, normalized_symbolsText, hruns, List.find?_eq_none]
  intro w hw
  simp [isAllowedName_of_mem_runs hss w hw]

/-- The text of a phrase passes the screening if it is not too long. -/
theorem screen_symbolsText {cfg : Settings} (hss : Phrase ss)
    (hlen : ((symbolsText ss).length : Int) ≤ cfg.maxLength) :
    screen cfg (symbolsText ss) = .ok () := by
  have hne : symbolsText ss ≠ [] := by
    obtain ⟨s, hs, -⟩ := hss.first
    obtain ⟨t, rfl⟩ := List.head?_eq_some_iff.1 hs
    simp [s.text_ne_nil]
  have hblank : (symbolsText ss).all isBlank = false := by
    obtain ⟨c, r, hcr⟩ := List.exists_cons_of_ne_nil hne
    have hc : c ∈ symbolsText ss := by
      rw [hcr]
      exact List.mem_cons_self
    rw [hcr, List.all_cons, not_isBlank_of_mem_symbolsText hc]
    rfl
  have hunsafe : (symbolsText ss).find? isUnsafeChar = none := by
    rw [List.find?_eq_none]
    intro c hc
    simp [(chars_plain c (mem_chars_of_mem_symbolsText hc)).2.2]
  rw [screen, hblank, hunsafe, unknownName?_symbolsText hss.chain]
  simp only [Bool.false_eq_true, if_false]
  rw [if_neg (by omega)]

example : (screen {} "-max(e,20)/3".toList).toOption.isSome := by decide +kernel

end Abacus.Expr
