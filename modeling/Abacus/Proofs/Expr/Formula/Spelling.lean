import Abacus.Proofs.Expr.Formula.Phrase
import Abacus.Proofs.Radix.Digits
import Abacus.Proofs.Text.Ascii
import Mathlib.Data.Bool.AllAny

/-!
# The characters of a formula

Words are written with letters and figures, all other symbols with one mark.  In the text of a
phrase a word is followed by a mark or by nothing.  So a figure is never followed by a letter, and a
zero is followed by a figure only inside a number.
-/

namespace Abacus.Expr

open Radix (digits)

theorem KnownName.text_ne_nil (k : KnownName) : k.text ≠ [] :=
  k.forall_text (P := (· ≠ [])) (by decide)

theorem KnownName.zero_notMem_text (k : KnownName) : '0' ∉ k.text :=
  k.forall_text (P := ('0' ∉ ·)) (by decide)

/-- Names start with a letter. -/
theorem KnownName.isAlpha_of_mem_head? (k : KnownName) : ∀ c ∈ k.text.head?, c.isAlpha := by
  have hhead : k.text.head?.all Char.isAlpha = true :=
    k.forall_text (P := fun t => t.head?.all Char.isAlpha = true) (by decide)
  exact (Option.all_eq_true _ _).1 hhead

namespace Symbol

/-- The characters of the symbols that are no words. -/
def marks : List Char := ['+', '-', '*', '/', '^', '(', ')', ',']

theorem exists_text_of_mark {s : Symbol} (h : s.isWord = false) : ∃ c ∈ marks, s.text = [c] := by
  cases s with
  | number n => cases h
  | name k => cases h
  | operator op => cases op <;> exact ⟨_, by decide, rfl⟩
  | opening => exact ⟨'(', by decide, rfl⟩
  | closing => exact ⟨')', by decide, rfl⟩
  | comma => exact ⟨',', by decide, rfl⟩

theorem text_ne_nil (s : Symbol) : s.text ≠ [] := by
  cases h : s.isWord with
  | false =>
    obtain ⟨c, -, hc⟩ := exists_text_of_mark h
    rw [hc]
    exact List.cons_ne_nil c []
  | true =>
    cases s with
    | number n => exact Radix.digits_ne_nil .ten n
    | name k => exact k.text_ne_nil
    | _ => cases h

/-- The characters that formulas are written with. -/
def chars : List Char :=
  ['0', '1', '2', '3', '4', '5', '6', '7', '8', '9'] ++ marks ++ Builtin.names.flatMap (·.1)

theorem mem_chars_of_isDigit {c : Char} (h : c.isDigit) : c ∈ chars :=
  Text.digit_induction (P := fun c => c ∈ chars) (by decide) h

theorem mem_chars_of_mem_marks {c : Char} (h : c ∈ marks) : c ∈ chars :=
  List.mem_append_left _ (List.mem_append_right _ h)

theorem mem_chars {s : Symbol} {c : Char} (h : c ∈ s.text) : c ∈ chars := by
  cases hs : s.isWord with
  | false =>
    obtain ⟨d, hd, hdc⟩ := exists_text_of_mark hs
    rw [hdc, List.mem_singleton] at h
    exact h ▸ mem_chars_of_mem_marks hd
  | true =>
    cases s with
    | number n => exact mem_chars_of_isDigit (Radix.isDigit_of_mem_digits h)
    | name k =>
      exact List.mem_append_right _ (List.mem_flatMap.2 ⟨_, k.mem_names, h⟩)
    | _ => cases hs

end Symbol

theorem mem_chars_of_mem_symbolsText {ss : List Symbol} {c : Char} (h : c ∈ symbolsText ss) :
    c ∈ Symbol.chars := by
  obtain ⟨s, -, hs⟩ := List.mem_flatMap.1 h
  exact s.mem_chars hs

/-- What stands behind a word starts with a mark. -/
theorem head?_symbolsText {ss : List Symbol} (h : ∀ b ∈ ss.head?, b.isWord = false) :
    ∀ c ∈ (symbolsText ss).head?, c ∈ Symbol.marks := by
  intro c hc
  cases ss with
  | nil => cases hc
  | cons s ss =>
    obtain ⟨d, hd, hs⟩ := Symbol.exists_text_of_mark (h s rfl)
    rw [symbolsText_cons, hs] at hc
    cases hc
    exact hd

/-! ## Figures and what follows them -/

/-- A figure is followed by a figure or a mark. -/
def Spaced (c d : Char) : Prop := c.isDigit = true → d.isDigit = true ∨ d ∈ Symbol.marks

instance : DecidableRel Spaced := fun c d =>
  inferInstanceAs (Decidable (c.isDigit = true → d.isDigit = true ∨ d ∈ Symbol.marks))

theorem not_isDigit_of_mem_marks : ∀ c ∈ Symbol.marks, c.isDigit = false :=
  List.all_iff_forall_prop.1 (by decide)

theorem isChain_spaced_text (s : Symbol) : s.text.IsChain Spaced := by
  cases h : s.isWord with
  | false =>
    obtain ⟨c, -, hc⟩ := Symbol.exists_text_of_mark h
    rw [hc]
    exact .singleton c
  | true =>
    cases s with
    | number n =>
      rw [List.isChain_iff_forall_rel_of_append_cons_cons]
      intro c d u v h _
      have hd : d ∈ digits .ten n := by
        rw [show digits .ten n = u ++ c :: d :: v from h]
        simp
      exact .inl (Radix.isDigit_of_mem_digits hd)
    | name k => exact k.forall_text (P := fun t => t.IsChain Spaced) (by decide)
    | _ => cases h

/-- In the text of symbols that may be neighbours, a figure is never followed by a letter. -/
theorem isChain_spaced {ss : List Symbol} (h : ss.IsChain Apart) :
    (symbolsText ss).IsChain Spaced := by
  induction ss with
  | nil => exact .nil
  | cons s ss ih =>
    obtain ⟨hnext, hss⟩ := List.isChain_cons.1 h
    refine (isChain_spaced_text s).append (ih hss) ?_
    intro c hc d hd hdigit
    cases hs : s.isWord with
    | false =>
      obtain ⟨e, he, hse⟩ := Symbol.exists_text_of_mark hs
      rw [hse, List.getLast?_singleton, Option.mem_some_iff] at hc
      rw [← hc, not_isDigit_of_mem_marks e he] at hdigit
      cases hdigit
    | true => exact .inr (head?_symbolsText (fun b hb => (hnext b hb).words hs) d hd)

/-- Inside a symbol, too, a zero that is followed by a figure has a figure in front of it. -/
theorem isDigit_before_zero_text {s : Symbol} {u v : Text} {d : Char}
    (h : s.text = u ++ '0' :: d :: v) : ∃ c, u.getLast? = some c ∧ c.isDigit := by
  have hlen : s.isWord = false → s.text.length = 1 := by
    intro hs
    obtain ⟨c, -, hc⟩ := Symbol.exists_text_of_mark hs
    rw [hc, List.length_singleton]
  rw [h, List.length_append, List.length_cons, List.length_cons] at hlen
  cases s with
  | number n =>
    have hdigits : digits .ten n = u ++ '0' :: d :: v := h
    rcases List.eq_nil_or_concat u with rfl | ⟨t, c, rfl⟩
    · -- only the number zero starts with a zero, and it has no further figure
      have hzero : n = 0 := by
        by_contra hn
        exact Radix.head?_digits_ne_zero .ten hn (by rw [hdigits]; rfl)
      rw [hzero, Radix.digits_zero] at hdigits
      cases hdigits
    · refine ⟨c, by simp, Radix.isDigit_of_mem_digits (m := n) ?_⟩
      rw [hdigits]
      simp
  | name k =>
    refine absurd ?_ k.zero_notMem_text
    rw [show k.text = u ++ '0' :: d :: v from h]
    simp
  | _ =>
    have := hlen rfl
    omega

/-- A zero that is followed by a figure has a figure in front of it. -/
theorem isDigit_before_zero {ss : List Symbol} (h : ss.IsChain Apart) {u v : Text} {d : Char}
    (hsplit : symbolsText ss = u ++ '0' :: d :: v) (hd : d.isDigit) :
    ∃ c, u.getLast? = some c ∧ c.isDigit := by
  induction ss generalizing u with
  | nil => simp at hsplit
  | cons s ss ih =>
    obtain ⟨hnext, hss⟩ := List.isChain_cons.1 h
    rw [symbolsText_cons] at hsplit
    rcases List.append_eq_append_iff.1 hsplit with ⟨w, rfl, hw⟩ | ⟨w, hs, hw⟩
    · -- the zero is behind the first symbol
      obtain ⟨c, hc, hdigit⟩ := ih hss hw
      exact ⟨c, by rw [List.getLast?_append, hc]; rfl, hdigit⟩
    · match w with
      | [] =>
        obtain ⟨c, hc, -⟩ := ih hss (u := []) hw.symm
        cases hc
      | [z] =>
        -- the zero ends the first symbol, which is a word, so that no figure can follow
        obtain ⟨rfl, hrest⟩ := List.cons.inj hw
        have hword : s.isWord = true := by
          by_contra hmark
          obtain ⟨c, hc, hsc⟩ := Symbol.exists_text_of_mark (Bool.eq_false_iff.2 hmark)
          have hzero : '0' ∈ [c] := by rw [← hsc, hs]; simp
          rw [List.mem_singleton] at hzero
          rw [← hzero] at hc
          exact absurd hc (by decide)
        have htext : symbolsText ss = d :: v := hrest.symm
        have hmark : d ∈ Symbol.marks :=
          head?_symbolsText (fun b hb => (hnext b hb).words hword) d (by rw [htext]; rfl)
        rw [not_isDigit_of_mem_marks d hmark] at hd
        cases hd
      | z :: e :: w =>
        obtain ⟨rfl, hrest⟩ := List.cons.inj hw
        obtain ⟨rfl, -⟩ := List.cons.inj hrest
        exact isDigit_before_zero_text hs

end Abacus.Expr
