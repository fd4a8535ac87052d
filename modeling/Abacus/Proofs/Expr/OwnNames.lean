import Abacus.Expr.OwnNames
import Abacus.Proofs.Expr.Formula.Spelling
import Abacus.Proofs.Text.Basic
import Abacus.Proofs.Text.Words

/-!
# Names put in own names

A name is a whole word, or its end behind characters that bind no name.  Where a text is cut at a
character that belongs to no name, each part is put in own names by itself.
-/

namespace Abacus.Expr

open Text (isWord)

variable {before b : Option Char} {s u v w : Text}

/-- A text with own names in place of names, from a place where `before` is the character in
front. -/
def ownNamesFrom (before : Option Char) (s : Text) : Text :=
  Text.replaceFrom nameLength? ownName 0 before s

theorem withOwnNames_eq (s : Text) :
    withOwnNames s = (ownNamesFrom none s).flatMap expandCaret := rfl

theorem KnownName.isWord_of_mem (k : KnownName) : ∀ c ∈ k.text, isWord c = true :=
  List.all_eq_true.1 (k.forall_text (P := fun t => t.all isWord = true) (by decide))

theorem exists_name_of_isAllowedName (h : isAllowedName w) : ∃ k : KnownName, w = k.text := by
  obtain ⟨b, hb⟩ := Option.isSome_iff_exists.1 h
  exact ⟨⟨w, b, hb⟩, rfl⟩

/-- A name is found where a word, up to its end, is one and nothing in front binds it. -/
theorem nameLength?_eq_some {n : Nat} (h : nameLength? before s = some n) :
    before.any bindsName = false ∧ isAllowedName (s.takeWhile isWord) ∧
      n = (s.takeWhile isWord).length := by
  rw [nameLength?] at h
  split at h
  · cases h
  · rename_i hbefore
    split at h
    · rename_i hallowed
      exact ⟨by simpa using hbefore, hallowed, (Option.some.inj h).symm⟩
    · cases h

theorem nameLength?_of_not_isWord (h : ∀ c ∈ s.head?, isWord c = false) :
    nameLength? before s = none := by
  have hrun : s.takeWhile isWord = [] := by
    cases s with
    | nil => rfl
    | cons c s => exact List.takeWhile_cons_of_neg (by simp [h c rfl])
  rw [nameLength?, hrun]
  simp [show isAllowedName [] = false from rfl]

/-- Names start with ASCII letters. -/
theorem nameLength?_of_not_isAlpha {c : Char} (hc : c.isAlpha = false) (r : Text) :
    nameLength? before (c :: r) = none := by
  rw [Option.eq_none_iff_forall_ne_some]
  intro n hn
  obtain ⟨-, hallowed, -⟩ := nameLength?_eq_some hn
  obtain ⟨k, hk⟩ := exists_name_of_isAllowedName hallowed
  have hhead : k.text.head? = some c := by
    rw [← hk, List.takeWhile_cons]
    split
    · rfl
    · rename_i hword
      rw [List.takeWhile_cons_of_neg hword] at hk
      exact absurd hk.symm k.text_ne_nil
  rw [k.isAlpha_of_mem_head? c hhead] at hc
  cases hc

theorem nameLength?_of_isDigit {c : Char} (hc : c.isDigit) (r : Text) :
    nameLength? before (c :: r) = none :=
  nameLength?_of_not_isAlpha (Bool.eq_false_iff.2 fun halpha => by
    simp [Text.not_isDigit_of_isAlpha halpha] at hc) r

theorem KnownName.ownName_text (k : KnownName) : ownName k.text = k.own.text := by
  rw [ownName, k.known]
  rfl

/-- A name that nothing binds is found in front of the end of its word. -/
theorem nameLength?_name (k : KnownName) (hv : ∀ c ∈ v.head?, isWord c = false)
    (hbefore : before.any bindsName = false) :
    nameLength? before (k.text ++ v) = some k.text.length := by
  have htake : (k.text ++ v).takeWhile isWord = k.text :=
    Text.takeWhile_append_eq k.isWord_of_mem hv
  have hallowed : isAllowedName k.text = true := by rw [isAllowedName, k.known]; rfl
  rw [nameLength?, hbefore, htake, hallowed]
  rfl

/-- A name is replaced by the built-in's own name. -/
theorem ownNamesFrom_of_name {k : KnownName} {v : Text}
    (h : nameLength? before (k.text ++ v) = some k.text.length) :
    ownNamesFrom before (k.text ++ v) = k.own.text ++ ownNamesFrom k.text.getLast? v := by
  rw [← k.ownName_text]
  exact Text.replaceFrom_token k.text_ne_nil v h

/-- Characters of a class without characters of names stay where they are. -/
theorem filter_ownNamesFrom {q : Char → Bool}
    (hnames : ∀ k : KnownName, ∀ c ∈ k.text, q c = false) (before : Option Char) (s : Text) :
    (ownNamesFrom before s).filter q = s.filter q := by
  refine Text.filter_replaceFrom (fun b s n h => ?_) before s
  obtain ⟨-, hallowed, rfl⟩ := nameLength?_eq_some h
  have htake : s.take (s.takeWhile isWord).length = s.takeWhile isWord :=
    (List.prefix_iff_eq_take.1 (List.takeWhile_prefix isWord)).symm
  obtain ⟨k, hk⟩ := exists_name_of_isAllowedName hallowed
  rw [htake, hk, k.ownName_text]
  exact ⟨hnames k, hnames k.own⟩

/-! ## Words -/

theorem nameLength?_congr (h : u.takeWhile isWord = s.takeWhile isWord) :
    nameLength? b u = nameLength? b s := by
  rw [nameLength?, nameLength?, h]

/-- Names are found in words. -/
theorem inWords_nameLength? : Text.InWords nameLength? where
  cons hc b v n h := by
    rw [nameLength?_of_not_isWord (by simpa using hc)] at h
    cases h
  append hc b u v _ := by
    apply nameLength?_congr
    exact Text.takeWhile_append_of_head (by simpa using hc)
  length b u n h := by
    obtain ⟨-, -, rfl⟩ := nameLength?_eq_some h
    exact (List.takeWhile_prefix isWord).length_le

theorem ownNamesFrom_cons {c : Char} (hc : isWord c = false) (before : Option Char) (s : Text) :
    ownNamesFrom before (c :: s) = c :: ownNamesFrom (some c) s :=
  inWords_nameLength?.replaceFrom_cons hc before s

theorem head?_ownNamesFrom (h : ∀ c ∈ s.head?, isWord c = false) :
    (ownNamesFrom before s).head? = s.head? :=
  inWords_nameLength?.head?_replaceFrom h before

/-- The character in front is looked at only where a word starts. -/
theorem ownNamesFrom_congr (h : ∀ c ∈ s.head?, isWord c = false) :
    ownNamesFrom before s = ownNamesFrom b s :=
  inWords_nameLength?.replaceFrom_congr h before b

/-- Behind a character that binds names nothing is replaced. -/
theorem ownNamesFrom_append (hu : ∀ c ∈ u, bindsName c) (hb : before.any bindsName = true)
    (v : Text) : ownNamesFrom before (u ++ v) = u ++ ownNamesFrom (u.getLast?.or before) v := by
  induction u generalizing before with
  | nil => rfl
  | cons c u ih =>
    obtain ⟨hc, hu⟩ := List.forall_mem_cons.1 hu
    have hnone : nameLength? before (c :: (u ++ v)) = none := by rw [nameLength?, if_pos hb]
    rw [List.cons_append, ownNamesFrom, Text.replaceFrom_cons_of_none hnone, List.getLast?_cons,
      Option.some_or, ← Option.or_some, List.cons_append]
    exact congrArg (c :: ·) (ih hu hc)

/-! ## Carets -/

theorem flatMap_expandCaret_eq_self (h : '^' ∉ s) : s.flatMap expandCaret = s := by
  induction s with
  | nil => rfl
  | cons c s ih =>
    rw [List.mem_cons, not_or] at h
    rw [List.flatMap_cons, expandCaret, beq_eq_false_iff_ne.2 (Ne.symm h.1), ih h.2]
    rfl

/-- Words stay as they are. -/
theorem flatMap_expandCaret_of_word (h : ∀ c ∈ s, isWord c) : s.flatMap expandCaret = s :=
  flatMap_expandCaret_eq_self fun hmem => by cases h '^' hmem

theorem caret_notMem_flatMap (s : Text) : '^' ∉ s.flatMap expandCaret := by
  rw [List.mem_flatMap]
  rintro ⟨c, -, hc⟩
  rw [expandCaret] at hc
  split at hc
  · simp at hc
  · rename_i hcaret
    rw [← List.mem_singleton.1 hc] at hcaret
    exact hcaret rfl

/-- Where no word starts, none starts with two stars for a caret. -/
theorem not_isWord_head_flatMap (h : ∀ c ∈ s.head?, isWord c = false) :
    ∀ c ∈ (s.flatMap expandCaret).head?, isWord c = false := by
  cases s with
  | nil => simp
  | cons c s =>
    rw [List.flatMap_cons, expandCaret]
    split
    · rintro _ ⟨⟩
      decide
    · rintro _ ⟨⟩
      exact h c rfl

end Abacus.Expr
