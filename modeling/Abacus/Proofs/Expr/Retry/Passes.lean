import Abacus.Proofs.Expr.OwnNames
import Abacus.Proofs.Expr.Lexing.Lines
import Abacus.Proofs.Expr.Retry.Promotion
import Abacus.Proofs.Text.Tables
import Mathlib.Data.List.DropRight

/-!
# Promotion and the passes over a text

Before lexemes are taken, names are put in own names, blanks at the ends are trimmed, line breaks
are unified and empty lines are passed over.  A promoted text stays related to the text it comes
from in each of these passes.
-/

namespace Abacus.Expr

open Text (isWord isBlank)

variable {b b' : Option Char} {s s' w : Text}

/-! ## Own names -/

theorem bindsName_of_isRunOf {c : Char} (h : isRunOf 16 c) : bindsName c :=
  Text.ascii_induction (P := fun c => isRunOf 16 c → bindsName c) (by decide +kernel)
    (toNat_lt_of_isRunOf h) h

/-- Nothing in a numeral is taken for a name. -/
theorem ownNamesFrom_numeral {q : Text} (hq : ∀ c ∈ q, bindsName c) (v : Text) :
    ownNamesFrom b ('0' :: q ++ v) = '0' :: q ++ ownNamesFrom (q.getLast?.or (some '0')) v := by
  rw [List.cons_append, ownNamesFrom, Text.replaceFrom_cons_of_none (nameLength?_of_isDigit rfl _)]
  exact congrArg ('0' :: ·) (ownNamesFrom_append hq rfl v)

namespace LeadingZero

theorem exists_ownNamesFrom (h : LeadingZero w) (v : Text) :
    ∃ b', ownNamesFrom b (w ++ v) = w ++ ownNamesFrom b' v := by
  obtain ⟨q, rfl⟩ := h.exists_cons
  exact ⟨_, ownNamesFrom_numeral (fun c hc =>
    bindsName_of_isRunOf (h.digits c (List.mem_cons_of_mem _ hc))) v⟩

theorem exists_ownNamesFrom_marked (h : LeadingZero w) (v : Text) :
    ∃ b', ownNamesFrom b (marked w ++ v) = marked w ++ ownNamesFrom b' v := by
  refine ⟨_, ownNamesFrom_numeral (fun c hc => ?_) v⟩
  rcases List.mem_cons.1 hc with rfl | hc
  · rfl
  · exact bindsName_of_isRunOf (h.digits c (List.mem_of_mem_filter hc))

end LeadingZero

theorem KnownName.getLast?_text (k : KnownName) :
    ∃ c, k.text.getLast? = some c ∧ isWord c = true := by
  obtain ⟨c, hc⟩ := Option.isSome_iff_exists.1 (List.getLast?_isSome.2 k.text_ne_nil)
  exact ⟨c, hc, k.isWord_of_mem c (List.mem_of_getLast? hc)⟩

/-- Of a character in front that belongs to a word it does not matter which one it is. -/
theorem Promoted.congr_word {c d : Char} (h : Promoted (some c) s s') (hc : isWord c = true)
    (hd : isWord d = true) : Promoted (some d) s s' := by
  refine h.congr (hd.trans hc.symm) fun hpoint => ?_
  obtain rfl : c = '.' := Option.some.inj hpoint
  cases hc

/-- The rest of a word that has begun is the same before and after promotion. -/
theorem Promoted.exists_wordRest {c : Char} (h : Promoted (some c) s s') (hc : isWord c = true) :
    ∃ v', s' = s.takeWhile isWord ++ v' ∧
      Promoted ((c :: s).takeWhile isWord).getLast? (s.dropWhile isWord) v' := by
  rw [List.takeWhile_cons_of_pos hc, List.getLast?_cons, ← Option.or_some]
  refine Promoted.of_append ?_ hc fun d hd => List.mem_takeWhile_imp hd
  rwa [List.takeWhile_append_dropWhile]

/-- A word whose first character stays stays as a whole. -/
theorem Promoted.takeWhile_isWord {c : Char} (h : Promoted (some c) s s') :
    (c :: s').takeWhile isWord = (c :: s).takeWhile isWord := by
  by_cases hc : isWord c = true
  · obtain ⟨v', rfl, hv⟩ := h.exists_wordRest hc
    rw [List.takeWhile_cons_of_pos hc, List.takeWhile_cons_of_pos hc,
      Text.takeWhile_append_eq fun d hd => List.mem_takeWhile_imp hd]
    rw [hv.head?_eq]
    exact fun d hd => Text.not_of_mem_head?_dropWhile hd
  · rw [List.takeWhile_cons_of_neg hc, List.takeWhile_cons_of_neg hc]

/-- A word that is a name stands before and after promotion. -/
theorem Promoted.exists_name {c : Char} {k : KnownName} (h : Promoted (some c) s s')
    (hk : (c :: s).takeWhile isWord = k.text) :
    ∃ v v', c :: s = k.text ++ v ∧ c :: s' = k.text ++ v' ∧ Promoted k.text.getLast? v v' := by
  have hc : isWord c = true := by
    by_contra hc
    rw [List.takeWhile_cons_of_neg hc] at hk
    exact k.text_ne_nil hk.symm
  obtain ⟨v', rfl, hv⟩ := h.exists_wordRest hc
  rw [hk] at hv
  rw [List.takeWhile_cons_of_pos hc] at hk
  refine ⟨s.dropWhile isWord, v', ?_, ?_, hv⟩
  · rw [← hk, List.cons_append, List.takeWhile_append_dropWhile]
  · rw [← hk, List.cons_append]

/-- The text in own names. -/
theorem Promoted.ownNamesFrom (h : Promoted b s s') :
    Promoted b (ownNamesFrom b s) (ownNamesFrom b s') := by
  induction hn : s.length using Nat.strong_induction_on generalizing b s s' with
  | _ n ih =>
    cases h with
    | nil => exact .nil b
    | @same _ c t t' h =>
      have hname' := nameLength?_congr (b := b) h.takeWhile_isWord
      cases hname : nameLength? b (c :: t) with
      | none =>
        rw [hname] at hname'
        rw [Expr.ownNamesFrom, Expr.ownNamesFrom, Text.replaceFrom_cons_of_none hname,
          Text.replaceFrom_cons_of_none hname']
        exact .same (ih t.length (by rw [← hn]; exact Nat.lt_succ_self _) h rfl)
      | some m =>
        obtain ⟨-, hallowed, rfl⟩ := nameLength?_eq_some hname
        obtain ⟨k, hk⟩ := exists_name_of_isAllowedName hallowed
        obtain ⟨v, v', hs, hs', hv⟩ := h.exists_name hk
        rw [hname, hk, hs'] at hname'
        rw [hk, hs] at hname
        rw [hs, hs', ownNamesFrom_of_name hname, ownNamesFrom_of_name hname']
        have hlen : v.length < n := by
          have := List.length_pos_iff.2 k.text_ne_nil
          rw [← hn, hs, List.length_append]
          omega
        -- a name and its own name both end in a character of a word
        obtain ⟨d, hd, hword⟩ := k.getLast?_text
        obtain ⟨e, he, hword'⟩ := k.own.getLast?_text
        rw [hd] at hv ⊢
        refine .append _ ?_
        rw [he, Option.some_or]
        exact (ih _ hlen hv rfl).congr_word hword hword'
    | @word _ w t t' hb hw hfigures ht h =>
      obtain ⟨b₁, hb₁⟩ := hw.exists_ownNamesFrom (b := b) t
      obtain ⟨b₂, hb₂⟩ := hw.exists_ownNamesFrom_marked (b := b) t'
      have hlen : t.length < n := by
        have := hw.length
        rw [← hn, List.length_append]
        omega
      have ht' : ∀ c ∈ t'.head?, isWord c = false := by rwa [h.head?_eq]
      rw [hb₁, hb₂, ownNamesFrom_congr (b := w.getLast?) ht,
        ownNamesFrom_congr (b := w.getLast?) ht']
      refine .word hb hw hfigures ?_ (ih t.length hlen h rfl)
      rwa [head?_ownNamesFrom ht]

/-! ## Carets -/

namespace LeadingZero

/-- A property of digits, low lines and the mark holds of every character of a word, marked or
not. -/
theorem forall_mem (h : LeadingZero w) {P : Char → Prop} (hrun : ∀ c, isRunOf 16 c → P c)
    (hx : P 'x') : (∀ c ∈ w, P c) ∧ ∀ c ∈ marked w, P c := by
  refine ⟨fun c hc => hrun c (h.digits c hc), fun c hc => ?_⟩
  rcases List.mem_cons.1 hc with rfl | hc
  · exact hrun '0' (by decide)
  · rcases List.mem_cons.1 hc with rfl | hc
    · exact hx
    · exact hrun c (h.digits c (List.mem_of_mem_filter hc))

theorem notMem (h : LeadingZero w) {c : Char} (hc : isWord c = false) : c ∉ w ∧ c ∉ marked w := by
  have hall := h.forall_mem (P := fun d => isWord d = true) (fun d hd => isWord_of_isRunOf hd)
    (by decide)
  constructor
  · intro hmem
    rw [hall.1 c hmem] at hc
    cases hc
  · intro hmem
    rw [hall.2 c hmem] at hc
    cases hc

end LeadingZero

/-- Behind a character that is neither of a word nor a point it is as at the start of a text. -/
theorem Promoted.congr_start {c : Char} (h : Promoted (some c) s s') (hc : isWord c = false)
    (hpoint : c ≠ '.') (hb : b.any isWord = false) : Promoted b s s' :=
  h.congr (hb.trans hc.symm) fun h => absurd (Option.some.inj h) hpoint

theorem Promoted.flatMap_expandCaret (h : Promoted b s s') :
    Promoted b (s.flatMap expandCaret) (s'.flatMap expandCaret) := by
  induction h with
  | nil b => exact .nil b
  | @same _ c _ _ _ ih =>
    rw [List.flatMap_cons, List.flatMap_cons]
    by_cases hc : c = '^'
    · subst hc
      exact .same (.same (ih.congr_start (by decide) (by decide) (by decide)))
    · rw [expandCaret, beq_eq_false_iff_ne.2 hc]
      exact .same ih
  | @word _ w t t' hb hw hfigures ht _ ih =>
    obtain ⟨hnot, hnot'⟩ := hw.notMem (c := '^') (by decide)
    rw [List.flatMap_append, List.flatMap_append, flatMap_expandCaret_eq_self hnot,
      flatMap_expandCaret_eq_self hnot']
    exact .word hb hw hfigures (not_isWord_head_flatMap ht) ih

/-! ## Trimming -/

/-- Of the classes here none has a character of a word or a point. -/
theorem Promoted.dropWhile {p : Char → Bool} (hp : ∀ c, p c = true → isWord c = false ∧ c ≠ '.')
    (h : Promoted b s s') (hb : b.any isWord = false) (hpoint : b ≠ some '.') :
    Promoted none (s.dropWhile p) (s'.dropWhile p) := by
  induction h with
  | nil b => exact .nil none
  | @same _ c _ _ h ih =>
    by_cases hc : p c = true
    · rw [List.dropWhile_cons_of_pos hc, List.dropWhile_cons_of_pos hc]
      exact ih (hp c hc).1 fun h => (hp c hc).2 (Option.some.inj h)
    · rw [List.dropWhile_cons_of_neg hc, List.dropWhile_cons_of_neg hc]
      exact .same h
  | @word _ w _ _ _ hw hfigures ht h =>
    have hzero : ¬ p '0' = true := fun hzero => by cases (hp '0' hzero).1
    have hkeep : ∀ u v : Text, u.head? = some '0' → (u ++ v).dropWhile p = u ++ v := by
      rintro u v hu
      obtain ⟨r, rfl⟩ := List.head?_eq_some_iff.1 hu
      exact List.dropWhile_cons_of_neg hzero
    rw [hkeep w _ hw.head, hkeep (marked w) _ rfl]
    exact .word rfl hw (fun _ => hfigures hpoint) ht h

theorem rdropWhile_cons {p : Char → Bool} (c : Char) (s : Text) :
    (c :: s).rdropWhile p = if s.rdropWhile p = [] ∧ p c then [] else c :: s.rdropWhile p := by
  rw [List.rdropWhile, List.rdropWhile, List.reverse_cons, List.dropWhile_append]
  by_cases hs : s.reverse.dropWhile p = []
  · by_cases hc : p c = true <;> simp [hs, hc]
  · simp [hs]

/-- What stands at the end is not trimmed with characters of no class. -/
theorem rdropWhile_append {p : Char → Bool} {u : Text} (hu : ∀ c ∈ u, p c = false) (v : Text) :
    (u ++ v).rdropWhile p = u ++ v.rdropWhile p := by
  induction u with
  | nil => rfl
  | cons c u ih =>
    obtain ⟨hc, hu⟩ := List.forall_mem_cons.1 hu
    rw [List.cons_append, rdropWhile_cons, ih hu]
    simp [hc]

theorem Promoted.rdropWhile {p : Char → Bool} (hp : ∀ c, p c = true → isWord c = false)
    (h : Promoted b s s') : Promoted b (s.rdropWhile p) (s'.rdropWhile p) := by
  induction h with
  | nil b => exact .nil b
  | @same b c t t' _ ih =>
    have hnil : t'.rdropWhile p = [] ↔ t.rdropWhile p = [] := by
      rw [← List.head?_eq_none_iff, ih.head?_eq, List.head?_eq_none_iff]
    rw [rdropWhile_cons, rdropWhile_cons]
    by_cases hc : t.rdropWhile p = [] ∧ p c = true
    · rw [if_pos hc, if_pos ⟨hnil.2 hc.1, hc.2⟩]
      exact .nil b
    · rw [if_neg hc, if_neg fun h => hc ⟨hnil.1 h.1, h.2⟩]
      exact .same ih
  | @word _ w t t' hb hw hfigures ht _ ih =>
    have hnot : ∀ c, isRunOf 16 c → p c = false := by
      intro c hc
      rw [← Bool.not_eq_true]
      intro h
      have := hp c h
      rw [isWord_of_isRunOf hc] at this
      cases this
    have hx : p 'x' = false := by
      rw [← Bool.not_eq_true]
      intro h
      cases hp 'x' h
    obtain ⟨hw₁, hw₂⟩ := hw.forall_mem hnot hx
    rw [rdropWhile_append hw₁, rdropWhile_append hw₂]
    refine .word hb hw hfigures (fun c hc => ht c ?_) ih
    obtain ⟨r, hr⟩ := List.head?_eq_some_iff.1 hc
    obtain ⟨x, hx⟩ := List.rdropWhile_prefix p t
    rw [← hx, hr]
    rfl

theorem ne_point_of_isBlank {c : Char} (h : isBlank c) : c ≠ '.' := by
  rintro rfl
  exact absurd h (by decide)

theorem Promoted.trim (h : Promoted none s s') : Promoted none (Text.trim s) (Text.trim s') :=
  (h.dropWhile (fun _ hc => ⟨Text.not_isWord_of_isBlank hc, ne_point_of_isBlank hc⟩) rfl
    nofun).rdropWhile fun _ hc => Text.not_isWord_of_isBlank hc

/-! ## Lines -/

theorem Promoted.unifiedBreaks (h : Promoted b s s') :
    Promoted b (unifiedBreaks s) (unifiedBreaks s') := by
  induction h with
  | nil b => exact .nil b
  | @same b c t t' h ih =>
    by_cases hc : c = '\r'
    · subst hc
      by_cases ht : t.head? = some '\n'
      · -- the line feed behind stands for both
        obtain ⟨r, rfl⟩ := List.head?_eq_some_iff.1 ht
        obtain ⟨r', rfl, h⟩ := h.of_cons (by decide)
        rw [unifiedBreaks_cons (by decide), unifiedBreaks_cons (by decide)] at ih
        obtain ⟨x, hx, ih⟩ := ih.of_cons (by decide)
        cases hx
        exact .same ih
      · rw [unifiedBreaks_return ht, unifiedBreaks_return (by rwa [h.head?_eq])]
        exact .same (ih.congr (by decide) nofun)
    · rw [unifiedBreaks_cons hc, unifiedBreaks_cons hc]
      exact .same ih
  | @word _ w t t' hb hw hfigures ht _ ih =>
    obtain ⟨hnot, hnot'⟩ := hw.notMem (c := '\r') (by decide)
    rw [unifiedBreaks_append hnot, unifiedBreaks_append hnot']
    refine .word hb hw hfigures ?_ ih
    rw [head?_unifiedBreaks]
    intro c hc
    obtain ⟨d, hd, rfl⟩ := Option.map_eq_some_iff.1 hc
    split
    · decide
    · exact ht d hd

/-- The text behind a line break. -/
theorem Promoted.dropLine (h : Promoted b s s') :
    Promoted none (s.dropWhile (· != '\n')) (s'.dropWhile (· != '\n')) := by
  induction h with
  | nil b => exact .nil none
  | @same b c t t' h ih =>
    by_cases hc : c = '\n'
    · subst hc
      exact .same h
    · rw [List.dropWhile_cons_of_pos (by simpa using hc),
        List.dropWhile_cons_of_pos (by simpa using hc)]
      exact ih
  | @word _ w t t' _ hw _ _ _ ih =>
    obtain ⟨hnot, hnot'⟩ := hw.notMem (c := '\n') (by decide)
    have hall : ∀ u : Text, '\n' ∉ u → ∀ c ∈ u, (c != '\n') = true := by
      intro u hu c hc
      simpa using fun h : c = '\n' => hu (h ▸ hc)
    rw [List.dropWhile_append_of_pos (hall _ hnot), List.dropWhile_append_of_pos (hall _ hnot')]
    exact ih

theorem Promoted.tail_dropLine (h : Promoted b s s') :
    Promoted none (s.dropWhile (· != '\n')).tail (s'.dropWhile (· != '\n')).tail := by
  have hline := h.dropLine
  cases ht : s.dropWhile (· != '\n') with
  | nil =>
    rw [ht] at hline
    rw [List.head?_eq_none_iff.1 hline.head?_eq]
    exact .nil none
  | cons c t =>
    obtain rfl : c = '\n' := by
      have hc : (c != '\n') = false :=
        Text.not_of_mem_head?_dropWhile (p := (· != '\n')) (s := s) (by rw [ht]; rfl)
      simpa using hc
    rw [ht] at hline
    obtain ⟨t', ht', hrest⟩ := hline.of_cons (by decide)
    rw [ht']
    exact hrest.congr_start (by decide) (by decide) rfl

/-- Behind the empty lines a promoted text is the promotion of what is behind those of the text. -/
theorem Promoted.skipsTo {r r' : Text} (h : Promoted none s s') (hr : SkipsTo s r)
    (hr' : SkipsTo s' r') : Promoted none r r' := by
  have hgap : ∀ c, isGap c = true → isWord c = false ∧ c ≠ '.' := by
    intro c hc
    rcases isGap_iff.1 hc with rfl | rfl | rfl <;> decide
  induction hr generalizing s' with
  | nil hs =>
    have hdrop := h.dropWhile hgap rfl nofun
    rw [hs] at hdrop
    rw [hr'.of_nil (List.head?_eq_none_iff.1 hdrop.head?_eq)]
    exact .nil none
  | lineBreak hs _ ih =>
    have hdrop := h.dropWhile hgap rfl nofun
    rw [hs] at hdrop
    obtain ⟨u', hs', hrest⟩ := hdrop.of_cons (by decide)
    exact ih (hrest.congr_start (by decide) (by decide) rfl) (hr'.of_lineBreak hs')
  | comment hs _ ih =>
    have hdrop := h.dropWhile hgap rfl nofun
    rw [hs] at hdrop
    obtain ⟨u', hs', hrest⟩ := hdrop.of_cons (by decide)
    exact ih hrest.tail_dropLine (hr'.of_comment hs')
  | lexeme hs hhash hbreak =>
    have hdrop := h.dropWhile hgap rfl nofun
    rw [hs] at hdrop
    obtain ⟨u', hs'⟩ := List.head?_eq_some_iff.1 hdrop.head?_eq
    rw [hr'.of_lexeme hs' hhash hbreak]
    rwa [hs'] at hdrop

end Abacus.Expr
