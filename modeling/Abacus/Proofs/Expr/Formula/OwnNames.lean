import Abacus.Proofs.Expr.OwnNames

/-!
# Formulas in own names

In the text of a phrase every name is found as a whole and nothing else is taken for a name, so that
the text in own names is the text of the same symbols, each name in the place of its alias and each
caret in the place of two stars.
-/

namespace Abacus.Expr

open Radix (digits)
open Text (isWord)

namespace Symbol

/-- The symbol with the built-in's own name. -/
def own : Symbol → Symbol
  | .name k => .name k.own
  | s => s

/-- A symbol as it is read, in own names and with two stars for a caret. -/
def source : Symbol → Text
  | .number n => digits .ten n
  | .name k => k.own.text
  | .operator .pow => ['*', '*']
  | .operator op => op.text
  | .opening => ['(']
  | .closing => [')']
  | .comma => [',']

theorem own_of_mark {s : Symbol} (h : s.isWord = false) : s.own = s := by
  cases s with
  | name k => cases h
  | _ => rfl

theorem flatMap_expandCaret_text (s : Symbol) : s.own.text.flatMap expandCaret = s.source := by
  cases s with
  | number n =>
    apply flatMap_expandCaret_eq_self
    intro hmem
    cases Radix.isDigit_of_mem_digits hmem
  | name k => exact flatMap_expandCaret_eq_self (k.own.forall_text (P := ('^' ∉ ·)) (by decide))
  | operator op => cases op <;> rfl
  | _ => rfl

end Symbol

/-- The text of symbols as it is read. -/
def symbolsSource (ss : List Symbol) : Text := ss.flatMap Symbol.source

@[simp] theorem symbolsSource_nil : symbolsSource [] = [] := rfl

@[simp] theorem symbolsSource_cons (s : Symbol) (ss : List Symbol) :
    symbolsSource (s :: ss) = s.source ++ symbolsSource ss := rfl

theorem flatMap_expandCaret_symbolsText (ss : List Symbol) :
    (symbolsText (ss.map Symbol.own)).flatMap expandCaret = symbolsSource ss := by
  induction ss with
  | nil => rfl
  | cons s ss ih =>
    rw [List.map_cons, symbolsText_cons, List.flatMap_append, ih, s.flatMap_expandCaret_text]
    rfl

/-! ## Finding names -/

theorem not_isWord_of_mem_marks : ∀ c ∈ Symbol.marks, isWord c = false :=
  List.all_iff_forall_prop.1 (by decide)

/-- Figures are passed over. -/
theorem exists_ownNamesFrom_digits {u : Text} (hu : ∀ c ∈ u, c.isDigit) (v : Text)
    (before : Option Char) :
    ∃ b, ownNamesFrom before (u ++ v) = u ++ ownNamesFrom b v := by
  induction u generalizing before with
  | nil => exact ⟨before, rfl⟩
  | cons c u ih =>
    obtain ⟨b, hb⟩ := ih (fun d hd => hu d (List.mem_cons_of_mem c hd)) (some c)
    refine ⟨b, ?_⟩
    rw [List.cons_append, ownNamesFrom,
      Text.replaceFrom_cons_of_none (nameLength?_of_isDigit (hu c List.mem_cons_self) _)]
    exact congrArg (c :: ·) hb

theorem ownNamesFrom_name (k : KnownName) {v : Text} (hv : ∀ c ∈ v.head?, c ∈ Symbol.marks)
    {before : Option Char} (hbefore : before.any bindsName = false) :
    ownNamesFrom before (k.text ++ v) = k.own.text ++ ownNamesFrom k.text.getLast? v :=
  ownNamesFrom_of_name
    (nameLength?_name k (fun c hc => not_isWord_of_mem_marks c (hv c hc)) hbefore)

theorem ownNamesFrom_mark {c : Char} (hc : c ∈ Symbol.marks) (v : Text) (before : Option Char) :
    ownNamesFrom before (c :: v) = c :: ownNamesFrom (some c) v :=
  ownNamesFrom_cons (not_isWord_of_mem_marks c hc) before v

theorem ownNamesFrom_symbolsText {ss : List Symbol} (hss : ss.IsChain Apart) {before : Option Char}
    (hbefore : (∀ s ∈ ss.head?, s.isWord = false) ∨ before.any bindsName = false) :
    ownNamesFrom before (symbolsText ss) = symbolsText (ss.map Symbol.own) := by
  induction ss generalizing before with
  | nil => rfl
  | cons s ss ih =>
    obtain ⟨hnext, hchain⟩ := List.isChain_cons.1 hss
    rw [symbolsText_cons, List.map_cons, symbolsText_cons]
    cases hs : s.isWord with
    | false =>
      obtain ⟨c, hc, hsc⟩ := Symbol.exists_text_of_mark hs
      have hbinds : ∀ c ∈ Symbol.marks, (some c).any bindsName = false :=
        List.all_iff_forall_prop.1 (by decide)
      rw [Symbol.own_of_mark hs, hsc, List.singleton_append, ownNamesFrom_mark hc,
        ih hchain (.inr (hbinds c hc))]
      rfl
    | true =>
      have hmark : ∀ b ∈ ss.head?, b.isWord = false := fun b hb => (hnext b hb).words hs
      cases s with
      | number n =>
        obtain ⟨b, hb⟩ := exists_ownNamesFrom_digits (u := digits .ten n)
          (fun c hc => Radix.isDigit_of_mem_digits hc) (symbolsText ss) before
        rw [Symbol.text, hb, ih hchain (.inl hmark)]
        rfl
      | name k =>
        have hfree : before.any bindsName = false := by
          rcases hbefore with h | h
          · cases h _ rfl
          · exact h
        rw [Symbol.text, ownNamesFrom_name k (head?_symbolsText hmark) hfree,
          ih hchain (.inl hmark)]
        rfl
      | _ => cases hs

/-- The text of a phrase in own names. -/
theorem withOwnNames_symbolsText {ss : List Symbol} (hss : ss.IsChain Apart) :
    withOwnNames (symbolsText ss) = symbolsSource ss := by
  rw [withOwnNames_eq, ownNamesFrom_symbolsText hss (.inr rfl), flatMap_expandCaret_symbolsText]

end Abacus.Expr
