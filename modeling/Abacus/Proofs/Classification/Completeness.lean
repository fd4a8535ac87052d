import Abacus.Numeral.Conversion
import Abacus.Proofs.Classification.Forms
import Abacus.Proofs.Numeral.Target

/-!
# Converted texts that are not taken for numerals

A text without a target that converts to an integer is taken for a numeral unless it is written in
one of five ways that conversion reads and classification overlooks: with a sign behind its first
character, with blanks outside the word form, or with low lines at three places.  These ways are
told exactly, so that all other texts without a target that convert are numerals.
-/

namespace Abacus.Classification

open Abacus.Expr (isRunOf isFigureOrLine)
open Numeral
open Radix (isDigitBelow readDigits signed splitSign)
open Text (Pattern isBlank isDecimal isLetter)

variable {s body sign u ds : Text} {c l : Char} {b : Base} {n : Numeral} {w : Spelling}

/-- The ways of writing a numeral, in a trimmed text, that no form describes. -/
inductive Overlooked (n : Numeral) (s : Text) : Prop
  /-- A sign behind the first character: `16#-ff`, `+-5`, or an arrow without a tag. -/
  | sign (h : ∃ c ∈ s.tail, isSign c)
  /-- A blank, as in `16 # ff`. -/
  | blank (hword : n.spelling ≠ .baseWord) (h : ∃ c ∈ s, isBlank c)
  /-- A low line in front of figures, not all of them octal: `_89`. -/
  | front (hfigures : n.spelling = .leadingZero ∨ n.spelling = .decimal)
    (hline : (splitSign s).2.head? = some '_') (h : ∃ c ∈ s, c = '8' ∨ c = '9')
  /-- A low line within a mark that is not binary: `0_xff`. -/
  | mark (hmarked : n.spelling = .marked) (hbase : n.base ≠ .two)
    (hline : '_' ∈ (splitSign s).2.take 2)
  /-- A low line behind a letter that is not binary: `ffh_`. -/
  | suffix (hsuffixed : n.spelling = .suffixed) (hbase : n.base ≠ .two)
    (hline : s.getLast? = some '_')

/-! ## Signs -/

/-- A text with no sign behind its first character is a sign and a text without signs. -/
theorem exists_signed (h : ∀ c ∈ s.tail, isSign c = false) : ∃ sign body, s = sign ++ body ∧
    IsSigns sign ∧ (∀ c ∈ body, isSign c = false) ∧ (splitSign s).2 = body := by
  cases s with
  | nil => exact ⟨[], [], rfl, isSigns_nil, List.forall_mem_nil _, rfl⟩
  | cons c r =>
    by_cases hc : isSign c
    · refine ⟨[c], r, rfl, ⟨by simp, by simpa using hc⟩, h, ?_⟩
      rw [isSign, Bool.or_eq_true, beq_iff_eq, beq_iff_eq] at hc
      rcases hc with rfl | rfl <;> rfl
    · refine ⟨[], c :: r, rfl, isSigns_nil, ?_, ?_⟩
      · intro d hd
        rcases List.mem_cons.1 hd with rfl | hd
        · simpa using hc
        · exact h d hd
      · rw [isSign, Bool.or_eq_true, beq_iff_eq, beq_iff_eq, not_or] at hc
        simp [splitSign, hc.1, hc.2]

/-- The sign of a text is told from what follows it. -/
theorem body_unique {sign' body' : Text} (hsign : IsSigns sign) (hsign' : IsSigns sign')
    (hbody : ∀ c ∈ body, isSign c = false) (hbody' : ∀ c ∈ body', isSign c = false)
    (h : sign ++ body = sign' ++ body') : body = body' := by
  have hdrop : ∀ {sign body : Text}, IsSigns sign → (∀ c ∈ body, isSign c = false) →
      (sign ++ body).dropWhile isSign = body := fun hsign hbody =>
    Text.dropWhile_append_eq hsign.sign fun c hc => hbody c (List.mem_of_mem_head? hc)
  rw [← hdrop hsign hbody, h, hdrop hsign' hbody']

theorem mem_of_mem_tail (hsign : IsSigns sign) (hc : c ∈ (sign ++ body).tail) : c ∈ body := by
  rcases hsign.cases with rfl | rfl | rfl
  · exact List.mem_of_mem_tail hc
  · exact hc
  · exact hc

/-- A text with a sign behind its first character is no form. -/
theorem isNumeralForm_of_sign (hs : Text.IsTrimmed s) (h : ∃ c ∈ s.tail, isSign c) :
    ¬ isNumeralForm s := by
  rw [isNumeralForm_iff hs]
  rintro ⟨sign, body, rfl, hsign, hform⟩
  obtain ⟨c, hc, hsigned⟩ := h
  simp [hform.not_isSign c (mem_of_mem_tail hsign hc)] at hsigned

theorem isNumeralForm_append (hs : Text.IsTrimmed (sign ++ body)) (hsign : IsSigns sign)
    (hbody : ∀ c ∈ body, isSign c = false) : isNumeralForm (sign ++ body) ↔ Form body := by
  rw [isNumeralForm_iff hs]
  constructor
  · rintro ⟨sign', body', heq, hsign', hform⟩
    rwa [body_unique hsign hsign' hbody hform.not_isSign heq]
  · exact fun hform => ⟨sign, body, rfl, hsign, hform⟩

/-! ## Low lines -/

theorem isRunOf_of_mem {bound : Nat} (h : ∀ c ∈ plain s, isDigitBelow bound c) :
    ∀ c ∈ s, isRunOf bound c := by
  intro c hc
  rw [isRunOf, Bool.or_eq_true, beq_iff_eq]
  by_cases hline : c = '_'
  · exact .inr hline
  · exact .inl (h c (mem_plain.2 ⟨hc, hline⟩))

theorem isBareChar_of_mem (h : ∀ c ∈ plain s, IsBareChar c) : ∀ c ∈ s, IsBareChar c := by
  intro c hc
  by_cases hline : c = '_'
  · subst hline
    decide
  · exact h c (mem_plain.2 ⟨hc, hline⟩)

/-- A letter beyond the hexadecimal digits stands in a form as that of its mark or behind its
digits. -/
theorem Form.affix (h : Form body) (hbare : ∀ c ∈ body, IsBareChar c) (hc : c ∈ body)
    (hrun : isRunOf 16 c = false) :
    (∃ l b r, (l, b) ∈ marks ∧ isLetter l c ∧ body = '0' :: c :: r ∧ ∀ d ∈ r, isRunOf b.val d) ∨
    ∃ l b r, (l, b) ∈ suffixes ∧ isLetter l c ∧ body = r ++ [c] ∧ ∀ d ∈ r, isRunOf b.val d := by
  have hmono : ∀ {bound : Nat}, bound ≤ 16 → isRunOf bound c → False := by
    intro bound hbound h
    rw [isRunOf, Bool.or_eq_true] at h
    rw [isRunOf, Bool.or_eq_false_iff] at hrun
    rcases h with h | h
    · simp [Radix.isDigitBelow_mono hbound h] at hrun
    · simp [h] at hrun
  cases h with
  | marked hm he hne hr =>
    rcases List.mem_cons.1 hc with rfl | hc
    · exact absurd (by decide) (hmono (by decide : 16 ≤ 16))
    rcases List.mem_cons.1 hc with rfl | hc
    · exact .inl ⟨_, _, _, hm, he, rfl, hr⟩
    · exact (hmono (isAffix_of_mark hm).le_sixteen (hr c hc)).elim
  | figures he hr =>
    have h : isRunOf 10 c := by
      rcases List.mem_cons.1 hc with rfl | hc
      · simp [isRunOf, isDigitBelow_of_isDigit he]
      · exact isRunOf_of_isFigureOrLine (hr c hc)
    exact (hmono (by decide) h).elim
  | suffixed hm he hne hr =>
    rcases List.mem_append.1 hc with hc | hc
    · exact (hmono (isAffix_of_suffix hm).le_sixteen (hr c hc)).elim
    · obtain rfl := List.mem_singleton.1 hc
      exact .inr ⟨_, _, _, hm, he, rfl, hr⟩
  | hash hu hne hd => exact absurd rfl (hbare '#' (by simp)).ne_hash
  | word hw h₁ hu hne₂ h₂ hne hd =>
    obtain @⟨b, a, l, e, -, -, hs, -⟩ := hw
    have := (hbare l (by simp)).not_letter
    simp [hs] at this
  | hexRun hr hletter => exact (hmono (by decide) (hr c hc)).elim
  | octalRun hne hr => exact (hmono (by decide) (hr c hc)).elim

/-! ## Forms of what is read -/

theorem isDigit_of_isDigitBelow (h : isDigitBelow 10 c) : c.isDigit :=
  Text.ascii_induction (P := fun c => isDigitBelow 10 c → c.isDigit) (by decide +kernel)
    (Radix.toNat_lt_of_isDigitBelow h) h

/-- A form of figures that starts with a low line is an octal run. -/
theorem Form.octal (h : Form body) (hrun : ∀ c ∈ body, isRunOf 10 c)
    (hline : body.head? = some '_') : ∀ c ∈ body, isRunOf 8 c := by
  have hfigure : ∀ c ∈ body, c ≠ '_' → isDigitBelow 10 c := by
    intro c hc hne
    simpa [isRunOf, hne] using hrun c hc
  cases h with
  | marked hm hc hne hr => simp at hline
  | figures hc hr =>
    obtain rfl := Option.some.inj hline
    cases hc
  | @suffixed l c _ r hm hc hne hr =>
    have hl := (isAffix_of_suffix hm).mem
    have hdigit : ∀ l ∈ affixes, isDigitBelow 10 l = false := by decide
    have := hfigure c (by simp) (ne_line_of_isLetter hl hc)
    rw [isDigitBelow_of_isLetter hl hc, hdigit _ hl] at this
    cases this
  | hash hu hne hd => exact absurd (hfigure '#' (by simp) (by decide)) (by decide)
  | word hw h₁ hu hne₂ h₂ hne hd =>
    obtain ⟨hb, -, -, -⟩ := hw
    obtain rfl := Option.some.inj hline
    exact absurd hb (by decide)
  | hexRun hr hletter =>
    obtain ⟨c, hc, hhex, hdigit⟩ := hletter
    have hne : c ≠ '_' := by
      rintro rfl
      exact absurd hhex (by decide)
    simp [isDigit_of_isDigitBelow (hfigure c hc hne)] at hdigit
  | octalRun hne hr => exact hr

/-- Figures are a form unless a low line stands in front of them and one is not octal. -/
theorem form_iff_of_figures (hne : plain body ≠ []) (h : ∀ c ∈ plain body, c.isDigit) :
    Form body ↔ ¬ (body.head? = some '_' ∧ ∃ c ∈ body, c = '8' ∨ c = '9') := by
  have hrun := isRunOf_of_mem fun c hc => isDigitBelow_of_isDigit (h c hc)
  constructor
  · rintro hform ⟨hline, e, he, hoctal⟩
    have := hform.octal hrun hline e he
    rcases hoctal with rfl | rfl <;> revert this <;> decide
  · intro hnot
    obtain ⟨c, r, rfl⟩ : ∃ c r, body = c :: r :=
      List.exists_cons_of_ne_nil (by rintro rfl; exact hne rfl)
    have hdigit : ∀ e ∈ c :: r, e ≠ '_' → e.isDigit := fun e he hline =>
      h e (mem_plain.2 ⟨he, hline⟩)
    by_cases hc : c = '_'
    · subst hc
      refine .octalRun (by simp) fun e he => ?_
      have hoctal : e ≠ '8' ∧ e ≠ '9' := by
        simp only [List.head?_cons, true_and, not_exists, not_and, not_or] at hnot
        exact hnot e he
      by_cases hline : e = '_'
      · simp [isRunOf, hline]
      · have hdigit := hdigit e he hline
        exact Text.digit_induction (P := fun e => e ≠ '8' ∧ e ≠ '9' → isRunOf 8 e) (by decide)
          hdigit hoctal
    · refine .figures (hdigit c List.mem_cons_self hc) fun e he => ?_
      rw [isFigureOrLine, Bool.or_eq_true, beq_iff_eq]
      by_cases hline : e = '_'
      · exact .inr hline
      · exact .inl (hdigit e (List.mem_cons_of_mem c he) hline)

/-- The letters that are no hexadecimal digits: all but the one that is binary. -/
theorem isRunOf_of_affix (hl : l ∈ affixes) (hb : l ≠ 'b') (hc : isLetter l c) :
    isRunOf 16 c = false := by
  have hdigit : ∀ l ∈ affixes, l ≠ 'b' → isDigitBelow 16 l = false := by decide
  rw [isRunOf, Bool.or_eq_false_iff, isDigitBelow_of_isLetter hl hc, beq_eq_false_iff_ne]
  exact ⟨hdigit l hl hb, ne_line_of_isLetter hl hc⟩

theorem not_isRunOf_of_isDigitBelow {bound : Nat} (hbound : bound ≤ 16)
    (hc : isRunOf 16 c = false) : isRunOf bound c = false := by
  rw [isRunOf, Bool.or_eq_false_iff] at hc ⊢
  refine ⟨?_, hc.2⟩
  rw [Bool.eq_false_iff]
  intro h
  simp [Radix.isDigitBelow_mono hbound h] at hc

/-- Hexadecimal digits are a form wherever low lines stand. -/
theorem form_of_bareHex (h : ∀ c ∈ plain body, isDigitBelow 16 c)
    (hletter : ∃ c ∈ plain body, c.isDigit = false) : Form body := by
  obtain ⟨c, hc, hdigit⟩ := hletter
  exact .hexRun (isRunOf_of_mem h) ⟨c, (mem_plain.1 hc).1, h c hc, hdigit⟩

/-- The letter of the binary digits is a hexadecimal digit, so it stands in a run of them. -/
theorem form_of_binary (hl : isLetter 'b' c) (hc : c ∈ plain body)
    (h : ∀ d ∈ plain body, d = c ∨ isDigitBelow 16 d) : Form body := by
  have hhex : isDigitBelow 16 c := by
    rw [isDigitBelow_of_isLetter (by decide) hl]
    decide
  refine form_of_bareHex ?_ ⟨c, hc, not_isDigit_of_isLetter (by decide) hl⟩
  intro d hd
  rcases h d hd with rfl | h
  · exact hhex
  · exact h

/-- A low line in a mark that is not binary keeps a text from being a form. -/
theorem not_form_of_mark (hm : (l, b) ∈ marks) (hc : isLetter l c) (hne : ds ≠ [])
    (hds : ∀ d ∈ ds, isDigitBelow b.val d) (hbare : ∀ c ∈ body, IsBareChar c)
    (hplain : plain body = '0' :: c :: ds) (hb : b ≠ .two) (hline : '_' ∈ body.take 2) :
    ¬ Form body := by
  intro hform
  have hl := isAffix_of_mark hm
  obtain ⟨hcbody, hcline⟩ : c ∈ body ∧ c ≠ '_' := mem_plain.1 (by simp [hplain])
  have hrun : isRunOf 16 c = false := isRunOf_of_affix hl.mem (mt hl.binary.2 hb) hc
  rcases hform.affix hbare hcbody hrun with ⟨l', b', r, -, -, rfl, -⟩ | ⟨l', b', r, -, -, rfl, -⟩
  · simp only [List.take_succ_cons, List.take_zero, List.mem_cons, List.not_mem_nil,
      or_false] at hline
    rcases hline with hline | rfl
    · exact absurd hline (by decide)
    · exact hcline rfl
  · -- the letter would stand where the last digit does
    have hlast : ds.getLast? = some c := by
      obtain ⟨d, ds, rfl⟩ := List.exists_cons_of_ne_nil hne
      rw [plain_concat_of_ne hcline] at hplain
      have := congrArg List.getLast? hplain
      rw [List.getLast?_concat, List.getLast?_cons_cons, List.getLast?_cons_cons] at this
      exact this.symm
    have hdigit := hds c (List.mem_of_getLast? hlast)
    have := not_isRunOf_of_isDigitBelow hl.le_sixteen hrun
    simp [isRunOf, hdigit] at this

/-- Without a low line the mark stands as it is. -/
theorem form_of_plain_mark (hm : (l, b) ∈ marks) (hc : isLetter l c) (hne : ds ≠ [])
    (hds : ∀ d ∈ ds, isDigitBelow b.val d) (hplain : plain body = '0' :: c :: ds)
    (hline : '_' ∉ body.take 2) : Form body := by
  obtain _ | ⟨a, _ | ⟨e, r⟩⟩ := body
  · cases hplain
  · have := congrArg List.length hplain
    have := List.length_filter_le (· != '_') [a]
    simp [plain] at *
    omega
  · have ha : a ≠ '_' := by
      rintro rfl
      simp at hline
    have he : e ≠ '_' := by
      rintro rfl
      simp at hline
    rw [plain_cons_of_ne ha, plain_cons_of_ne he] at hplain
    simp only [List.cons.injEq] at hplain
    obtain ⟨rfl, rfl, rfl⟩ := hplain
    refine .marked hm hc ?_ (isRunOf_of_mem hds)
    rintro rfl
    exact hne rfl

/-- A marked text is a form unless a low line stands in a mark that is not binary. -/
theorem form_iff_of_mark (hm : (l, b) ∈ marks) (hc : isLetter l c) (hne : ds ≠ [])
    (hds : ∀ d ∈ ds, isDigitBelow b.val d) (hbare : ∀ c ∈ body, IsBareChar c)
    (hplain : plain body = '0' :: c :: ds) :
    Form body ↔ ¬ (b ≠ .two ∧ '_' ∈ body.take 2) := by
  have hl := isAffix_of_mark hm
  refine ⟨fun hform ⟨hb, hline⟩ =>
    not_form_of_mark hm hc hne hds hbare hplain hb hline hform, fun hnot => ?_⟩
  by_cases hb : b = .two
  · obtain rfl := hl.binary.1 hb
    refine form_of_binary hc (by simp [hplain]) fun d hd => ?_
    rw [hplain] at hd
    rcases List.mem_cons.1 hd with rfl | hd
    · exact .inr (by decide)
    · exact (List.mem_cons.1 hd).imp_right fun hd =>
        Radix.isDigitBelow_mono hl.le_sixteen (hds d hd)
  · exact form_of_plain_mark hm hc hne hds hplain fun hline => hnot ⟨hb, hline⟩

/-- A low line behind a letter that is not binary keeps a text from being a form. -/
theorem not_form_of_suffix (hm : (l, b) ∈ suffixes) (hc : isLetter l c)
    (hmark : markedBase? (ds ++ [c]) = none) (hbare : ∀ c ∈ body, IsBareChar c)
    (hplain : plain body = ds ++ [c]) (hb : b ≠ .two) (hlast : body.getLast? = some '_') :
    ¬ Form body := by
  intro hform
  have hl := isAffix_of_suffix hm
  obtain ⟨hcbody, hcline⟩ : c ∈ body ∧ c ≠ '_' := mem_plain.1 (by simp [hplain])
  have hrun : isRunOf 16 c = false := isRunOf_of_affix hl.mem (mt hl.binary.2 hb) hc
  rcases hform.affix hbare hcbody hrun with
    ⟨l', b', r, hm', hc', rfl, hr⟩ | ⟨l', b', r, -, -, rfl, -⟩
  · rw [plain_cons_of_ne (by decide), plain_cons_of_ne hcline] at hplain
    rcases List.eq_nil_or_concat (plain r) with hnil | ⟨t, e, ht⟩
    · -- nothing but the mark is left, and marks are looked for first
      rw [← hplain, hnil, Option.eq_none_iff_forall_ne_some] at hmark
      exact hmark b' (markedBase?_eq_some.2 ⟨l', c, [], hm', rfl, hc'⟩)
    · -- the letter would stand among the digits
      have hmem : c ∈ plain r := by
        rw [List.concat_eq_append] at ht
        rw [ht] at hplain ⊢
        have hplain : ('0' :: c :: t) ++ [e] = ds ++ [c] := hplain
        rw [(List.append_inj' hplain rfl).2]
        simp
      have := not_isRunOf_of_isDigitBelow (isAffix_of_mark hm').le_sixteen hrun
      simp [hr c (mem_plain.1 hmem).1] at this
  · simp at hlast
    exact hcline hlast

/-- Without a low line the letter stands as it is. -/
theorem form_of_plain_suffix (hm : (l, b) ∈ suffixes) (hc : isLetter l c) (hne : ds ≠ [])
    (hds : ∀ d ∈ ds, isDigitBelow b.val d) (hplain : plain body = ds ++ [c])
    (hline : body.getLast? ≠ some '_') : Form body := by
  rcases List.eq_nil_or_concat body with rfl | ⟨r, e, rfl⟩
  · simp [plain] at hplain
  · rw [List.concat_eq_append] at *
    have he : e ≠ '_' := by
      rintro rfl
      simp at hline
    rw [plain_concat_of_ne he] at hplain
    obtain ⟨rfl, hlast⟩ := List.append_inj' hplain rfl
    obtain ⟨rfl, -⟩ := List.cons.inj hlast
    refine .suffixed hm hc ?_ (isRunOf_of_mem hds)
    rintro rfl
    exact hne rfl

/-- A text with a letter behind is a form unless a low line follows a letter that is not binary. -/
theorem form_iff_of_suffix (hm : (l, b) ∈ suffixes) (hc : isLetter l c) (hne : ds ≠ [])
    (hds : ∀ d ∈ ds, isDigitBelow b.val d) (hmark : markedBase? (ds ++ [c]) = none)
    (hbare : ∀ c ∈ body, IsBareChar c) (hplain : plain body = ds ++ [c]) :
    Form body ↔ ¬ (b ≠ .two ∧ body.getLast? = some '_') := by
  have hl := isAffix_of_suffix hm
  refine ⟨fun hform ⟨hb, hlast⟩ =>
    not_form_of_suffix hm hc hmark hbare hplain hb hlast hform, fun hnot => ?_⟩
  by_cases hb : b = .two
  · obtain rfl := hl.binary.1 hb
    refine form_of_binary hc (by simp [hplain]) fun d hd => ?_
    rw [hplain] at hd
    rcases List.mem_append.1 hd with hd | hd
    · exact .inr (Radix.isDigitBelow_mono hl.le_sixteen (hds d hd))
    · exact .inl (List.mem_singleton.1 hd)
  · exact form_of_plain_suffix hm hc hne hds hplain fun hlast => hnot ⟨hb, hlast⟩

/-! ## Forms and what is read -/

/-- What follows something in front holds no sign if none stands behind the first character. -/
theorem not_isSign_of_tail {v r : Text} (htail : ∀ c ∈ (v ++ r).tail, isSign c = false)
    (hv : v ≠ []) : ∀ c ∈ r, isSign c = false := by
  obtain ⟨e, v, rfl⟩ := List.exists_cons_of_ne_nil hv
  exact fun c hc => htail c (List.mem_append_right v hc)

theorem eq_nil_of_isSigns (hsign : IsSigns sign) (h : ∀ c ∈ sign, isSign c = false) :
    sign = [] := by
  rcases hsign.cases with rfl | rfl | rfl
  · rfl
  · exact absurd (h '+' (by simp)) (by decide)
  · exact absurd (h '-' (by simp)) (by decide)

/-- A base in front of a hash is a form where no blanks stand. -/
theorem isNumeralForm_iff_of_hash {d : Text} (hs : Text.IsTrimmed s)
    (htail : ∀ c ∈ s.tail, isSign c = false) (h : HashForm s u sign d) :
    isNumeralForm s ↔ ∀ c ∈ s, isBlank c = false := by
  rw [isNumeralForm_iff hs]
  constructor
  · rintro ⟨sign, body, rfl, hsign, hform⟩ c hc
    rcases hform.isDense_or_word with hdense | ⟨-, u', d', -, hword, -⟩
    · exact isBlank_of_mem_sign_append hsign (fun e he => isBlank_of_isDense (hdense e he)) c hc
    · -- the hash does not stand in a text with the word
      rcases List.mem_append.1 h.hash_mem with hmem | hmem
      · exact absurd (hsign.sign _ hmem) (by decide)
      · exact absurd hmem hword.hash_notMem
  · intro hblank
    obtain @⟨v₀, u, v₁, v₂, sign, d, v₃, h₀, hu, h₁, h₂, hsign, hne, hd, h₃⟩ := h
    have hnil : ∀ {v : Text}, (∀ c ∈ v, isBlank c) → (∀ c ∈ v, isBlank c = false) → v = [] :=
      fun hv hv' => List.eq_nil_iff_forall_not_mem.2 fun c hc =>
        absurd (hv c hc) (by simp [hv' c hc])
    obtain rfl := hnil h₀ fun c hc => hblank c (by simp [hc])
    obtain rfl := hnil h₁ fun c hc => hblank c (by simp [hc])
    obtain rfl := hnil h₂ fun c hc => hblank c (by simp [hc])
    obtain rfl := hnil h₃ fun c hc => hblank c (by simp [hc])
    simp only [List.nil_append, List.append_nil] at htail ⊢
    obtain rfl := eq_nil_of_isSigns hsign fun c hc =>
      not_isSign_of_tail htail (List.length_pos_iff.1 hu.pos) c (by simp [hc])
    exact ⟨[], u ++ '#' :: d, rfl, isSigns_nil, .hash hu hne fun c hc =>
      isCaselessDigitChar_of_isDigitChar (hd c hc)⟩

/-- A base behind its word is a form. -/
theorem isNumeralForm_of_word {d : Text} (hs : Text.IsTrimmed s)
    (htail : ∀ c ∈ s.tail, isSign c = false) (h : WordForm s u sign d) : isNumeralForm s := by
  rw [isNumeralForm_iff hs]
  obtain @⟨v₀, w, v₁, u, v₂, sign, d, v₃, h₀, hw, h₁, hu, hne₂, h₂, hsign, hne, hd, h₃⟩ := h
  obtain rfl := hs.eq_nil_of_front h₀
  obtain rfl : v₃ = [] := by
    refine Text.IsTrimmed.eq_nil_of_back (s := w ++ (v₁ ++ (u ++ (v₂ ++ (sign ++ d))))) ?_ h₃
    simpa using hs
  simp only [List.nil_append, List.append_nil] at htail ⊢
  have hword : w ≠ [] := by
    obtain ⟨-, -, -, -⟩ := hw
    simp
  obtain rfl := eq_nil_of_isSigns hsign fun c hc =>
    not_isSign_of_tail htail hword c (by simp [hc])
  exact ⟨[], _, rfl, isSigns_nil, .word hw h₁ hu hne₂ h₂ hne hd⟩

/-! ## Texts without a target -/

/-- The word of a target leaves a tag behind it in a trimmed text. -/
theorem exists_of_toWord {k : Nat} (hlast : ∀ c ∈ s.getLast?, isBlank c = false)
    (h : toWord.length? none s = some k) : ∃ c r, s.drop k = c :: r ∧ isBlank c = false := by
  obtain ⟨⟨segs, rest⟩, hsegs, rfl⟩ := Option.map_eq_some_iff.1 h
  have hdrop : s.drop segs.flatten.length = rest := by
    rw [← Pattern.segments?_append hsegs, List.drop_left]
  dsimp only
  rw [hdrop]
  obtain ⟨u, s₁, ⟨_, _⟩, rfl, -, -, h₁, heq⟩ := Pattern.segments?_run_eq_some hsegs
  cases heq
  obtain ⟨t, s₂, ⟨_, _⟩, rfl, -, -, h₂, heq⟩ := Pattern.segments?_run_eq_some h₁
  cases heq
  obtain ⟨o, s₃, ⟨_, rest⟩, rfl, -, -, h₃, heq⟩ := Pattern.segments?_run_eq_some h₂
  cases heq
  obtain ⟨v, rfl, hlen, hv, hrest⟩ := Pattern.segments?_last_eq_some h₃
  dsimp only at hlast hrest ⊢
  cases rest with
  | nil =>
    -- the blanks behind the word would end the text
    rcases List.eq_nil_or_concat v with rfl | ⟨v, c, rfl⟩
    · simp at hlen
    · have := hlast c (by simp)
      simp [hv c (by simp)] at this
  | cons c r => exact ⟨c, r, rfl, hrest c rfl⟩

theorem trim_cons_ne_nil (hc : isBlank c = false) (r : Text) : Text.trim (c :: r) ≠ [] := by
  intro h
  rw [Text.trim, Text.trimWhile, List.dropWhile_cons, if_neg (by simp [hc]),
    List.reverse_eq_nil_iff, List.dropWhile_eq_nil_iff] at h
  simp [h c (by simp)] at hc

/-- A text without a target is its own value, or holds an arrow behind its value. -/
theorem value_of_noTarget (hs : Text.IsTrimmed s) (h : (Request.ofText s).hasTarget = false) :
    (Request.ofText s).value = s ∨
      ∃ l r, s = l ++ '-' :: '>' :: r ∧ (Request.ofText s).value = Text.trim l := by
  rw [Request.ofText, hs.trim_eq] at h ⊢
  split at h
  · rename_i l r hsplit
    right
    obtain ⟨t, k, rfl, hk, rfl⟩ := splitSeparator?_eq_some hsplit
    rw [separatorLength?] at hk
    split at hk
    · rename_i harrow
      obtain ⟨r, rfl⟩ := List.isPrefixOf_iff_prefix.1 harrow
      exact ⟨l, r, rfl, rfl⟩
    · -- behind the word stands a tag
      have hlast : ∀ c ∈ t.getLast?, isBlank c = false := fun c hc => hs.last c (by
        rw [List.getLast?_append, hc]
        rfl)
      obtain ⟨c, r, hdrop, hc⟩ := exists_of_toWord hlast hk
      have hbreak : (c != '\n') = true := by
        rw [bne_iff_ne]
        rintro rfl
        exact absurd hc (by decide)
      rw [hdrop, Request.hasTarget, List.takeWhile_cons, if_pos hbreak] at h
      simp [trim_cons_ne_nil hc] at h
  · exact .inl rfl

/-! ## Completeness -/

/-- A text with blanks that does not name its base with a word is no form. -/
theorem not_isNumeralForm_of_blank (hs : Text.IsTrimmed s)
    (hletter : ∀ c ∈ plain s, isLetter 's' c = false) (h : ∃ c ∈ s, isBlank c) :
    ¬ isNumeralForm s := by
  rw [isNumeralForm_iff hs]
  rintro ⟨sign, body, rfl, hsign, hform⟩
  obtain ⟨c, hc, hblank⟩ := h
  rcases hform.isDense_or_word with hdense | ⟨-, u, d, -, hword, -⟩
  · have := isBlank_of_mem_sign_append hsign (fun e he => isBlank_of_isDense (hdense e he)) c hc
    simp [hblank] at this
  · obtain @⟨v₀, w, v₁, u, v₂, sign', d, v₃, -, hw, -⟩ := hword
    obtain @⟨b, a, l, e, -, -, hl, -⟩ := hw
    have hline : l ≠ '_' := by
      rintro rfl
      exact absurd hl (by decide)
    have := hletter l (mem_plain.2 ⟨by simp, hline⟩)
    simp [hl] at this

theorem exists_of_map_eq_ok {ε α β : Type} {f : α → β} {x : Except ε α} {y : β}
    (h : x.map f = .ok y) : ∃ m, x = .ok m ∧ f m = y := by
  cases x with
  | error e => cases h
  | ok m => exact ⟨m, rfl, Except.ok.inj h⟩

/-- In a text without a sign behind its first character and without blanks only low lines are
overlooked. -/
theorem overlooked_iff (hsigned : ∀ c ∈ s.tail, isSign c = false)
    (hblank : ∀ c ∈ s, isBlank c = false) : Overlooked n s ↔
      (n.spelling = .leadingZero ∨ n.spelling = .decimal) ∧ (splitSign s).2.head? = some '_' ∧
        (∃ c ∈ s, c = '8' ∨ c = '9') ∨
      n.spelling = .marked ∧ n.base ≠ .two ∧ '_' ∈ (splitSign s).2.take 2 ∨
      n.spelling = .suffixed ∧ n.base ≠ .two ∧ s.getLast? = some '_' := by
  constructor
  · rintro (⟨c, hc, hsign⟩ | ⟨-, c, hc, h⟩ | ⟨h, h', h''⟩ | ⟨h, h', h''⟩ | ⟨h, h', h''⟩)
    · simp [hsigned c hc] at hsign
    · simp [hblank c hc] at h
    · exact .inl ⟨h, h', h''⟩
    · exact .inr (.inl ⟨h, h', h''⟩)
    · exact .inr (.inr ⟨h, h', h''⟩)
  · rintro (⟨h, h', h''⟩ | ⟨h, h', h''⟩ | ⟨h, h', h''⟩)
    · exact .front h h' h''
    · exact .mark h h' h''
    · exact .suffix h h' h''

theorem isNumeralForm_iff_of_spells {m : Nat} {k : Int} (hs : Text.IsTrimmed (sign ++ body))
    (hsign : IsSigns sign) (hbody : ∀ c ∈ body, isSign c = false)
    (hsplit : (splitSign (sign ++ body)).2 = body) (hspells : Spells (plain body) w b ds)
    (hread : readDigits b.val ds = .ok m) :
    isNumeralForm (sign ++ body) ↔ ¬ Overlooked ⟨k, b, w, none⟩ (sign ++ body) := by
  have hbare := isBareChar_of_mem (hspells.isBareChar hread)
  have hblank := isBlank_of_mem_sign_append hsign fun c hc => (hbare c hc).not_blank
  have hdigits : b.val ≤ 16 → ds ≠ [] ∧ ∀ d ∈ ds, isDigitBelow b.val d := fun hb =>
    Radix.isDigitBelow_of_readDigits hb hread
  have hfigures : (∃ c ∈ sign ++ body, c = '8' ∨ c = '9') ↔ ∃ c ∈ body, c = '8' ∨ c = '9' := by
    constructor
    · rintro ⟨c, hc, hfigure⟩
      rcases List.mem_append.1 hc with hc | hc
      · rcases hfigure with rfl | rfl <;> exact absurd (hsign.sign _ hc) (by decide)
      · exact ⟨c, hc, hfigure⟩
    · exact fun ⟨c, hc, hfigure⟩ => ⟨c, List.mem_append_right sign hc, hfigure⟩
  rw [isNumeralForm_append hs hsign hbody,
    overlooked_iff (fun c hc => hbody c (mem_of_mem_tail hsign hc)) hblank, hsplit, hfigures]
  generalize hplain : plain body = p at hspells
  cases hspells with
  | leadingZero h =>
    have hdigit := isDigit_of_hasLeadingZero h
    rw [form_iff_of_figures (hplain ▸ (hdigits (by decide)).1) (hplain ▸ hdigit)]
    simp
  | marked hm hc =>
    obtain ⟨hne, hds⟩ := hdigits (isAffix_of_mark hm).le_sixteen
    rw [form_iff_of_mark hm hc hne hds hbare hplain]
    simp
  | suffixed hm hc hne hds hmark =>
    have hbody : body ≠ [] := by
      rintro rfl
      cases ds <;> cases hplain
    rw [form_iff_of_suffix hm hc hne hds hmark hbare hplain,
      List.getLast?_append_of_ne_nil sign hbody]
    simp
  | decimal hne h hzero =>
    rw [form_iff_of_figures (hplain ▸ hne) (hplain ▸ h)]
    simp
  | bareHex h hletter hmark hsuffix =>
    refine iff_of_true (form_of_bareHex (hplain ▸ h) (hplain ▸ hletter)) ?_
    simp

/-- Behind a hash only blanks are overlooked, and signs behind the first character. -/
theorem overlooked_radixHash_iff (htail : ∀ c ∈ s.tail, isSign c = false)
    (hspelling : n.spelling = .radixHash) : Overlooked n s ↔ ∃ c ∈ s, isBlank c := by
  constructor
  · rintro (⟨c, hc, hsign⟩ | ⟨-, hblank⟩ | ⟨hfigures, -, -⟩ | ⟨hmarked, -, -⟩ | ⟨hsuffixed, -, -⟩)
    · simp [htail c hc] at hsign
    · exact hblank
    · simp [hspelling] at hfigures
    · simp [hspelling] at hmarked
    · simp [hspelling] at hsuffixed
  · exact .blank (by simp [hspelling])

/-- Behind the word only signs behind the first character are overlooked. -/
theorem not_overlooked_baseWord (htail : ∀ c ∈ s.tail, isSign c = false)
    (hspelling : n.spelling = .baseWord) : ¬ Overlooked n s := by
  rintro (⟨c, hc, hsign⟩ | ⟨hword, -⟩ | ⟨hfigures, -, -⟩ | ⟨hmarked, -, -⟩ | ⟨hsuffixed, -, -⟩)
  · simp [htail c hc] at hsign
  · exact hword hspelling
  · simp [hspelling] at hfigures
  · simp [hspelling] at hmarked
  · simp [hspelling] at hsuffixed

/-- What is read of a text that names no base is a form unless overlooked. -/
theorem isNumeralForm_iff_of_bare (hs : Text.IsTrimmed (sign ++ body)) (hsign : IsSigns sign)
    (hbody : ∀ c ∈ body, isSign c = false) (hsplit : (splitSign (sign ++ body)).2 = body)
    (hexplicit : explicitBase? (sign ++ body) = none) (h : read (sign ++ body) = .ok n) :
    isNumeralForm (sign ++ body) ↔ ¬ Overlooked n (sign ++ body) := by
  rw [Numeral.read, hexplicit] at h
  dsimp only at h
  rw [readBare_append hsign hs.trim_eq fun c hc => hbody c (List.mem_of_mem_head? hc)] at h
  split at h
  · rename_i w b ds hspelled
    obtain ⟨m, hread, rfl⟩ := exists_of_map_eq_ok h
    rcases spells_of_read hspelled hread with hspells | ⟨rfl, t, ht, hspells⟩
    · exact isNumeralForm_iff_of_spells hs hsign hbody hsplit hspells hread
    · -- the line break behind the letter is a blank
      have hbreak : '\n' ∈ body := (mem_plain.1 (ht ▸ by simp)).1
      have hblank : ∃ c ∈ sign ++ body, isBlank c :=
        ⟨'\n', List.mem_append_right sign hbreak, by decide⟩
      refine iff_of_false (not_isNumeralForm_of_blank hs ?_ hblank)
        (not_not.2 (.blank (by simp) hblank))
      intro c hc
      rw [plain_append, ht] at hc
      rcases List.mem_append.1 hc with hc | hc
      · have hsigned := hsign.sign c (mem_plain.1 hc).1
        rw [isSign, Bool.or_eq_true, beq_iff_eq, beq_iff_eq] at hsigned
        rcases hsigned with rfl | rfl <;> decide
      rcases List.mem_append.1 hc with hc | hc
      · exact (hspells.isBareChar hread c hc).not_letter
      · obtain rfl := List.mem_singleton.1 hc
        decide
  · cases h

/-- What is read of a text with no sign behind its first character is a form unless overlooked. -/
theorem isNumeralForm_iff_of_read (hs : Text.IsTrimmed s) (htail : ∀ c ∈ s.tail, isSign c = false)
    (h : read s = .ok n) : isNumeralForm s ↔ ¬ Overlooked n s := by
  cases hexplicit : explicitBase? s with
  | some parts =>
    obtain ⟨way, u, ds⟩ := parts
    obtain ⟨sign, d, rfl, ⟨rfl, hform⟩ | ⟨rfl, hform⟩⟩ := explicitBase?_eq_some.1 hexplicit
    · have hspelling : n.spelling = .radixHash := by
        rw [hform.read_eq] at h
        obtain ⟨m, -, rfl⟩ := exists_of_map_eq_ok h
        rfl
      rw [isNumeralForm_iff_of_hash hs htail hform, overlooked_radixHash_iff htail hspelling]
      simp
    · have hspelling : n.spelling = .baseWord := by
        rw [hform.read_eq] at h
        obtain ⟨m, -, rfl⟩ := exists_of_map_eq_ok h
        rfl
      exact iff_of_true (isNumeralForm_of_word hs htail hform)
        (not_overlooked_baseWord htail hspelling)
  | none =>
    obtain ⟨sign, body, rfl, hsign, hbody, hsplit⟩ := exists_signed htail
    exact isNumeralForm_iff_of_bare hs hsign hbody hsplit hexplicit h

/-- A text without a target that converts is taken for a numeral unless its way of writing is one
that is overlooked. -/
theorem convertible_numeral_iff {text : Text} {c : Conversion} {cfg : Limits}
    (h : Conversion.ofText text = .ok c) (htarget : (Request.ofText text).hasTarget = false)
    (hlen : ((Text.trim text).length : Int) ≤ cfg.maxSelection) :
    ∃ n, Numeral.ofText text = .ok n ∧ c = .ofNumeral n ∧
      ((∃ r, classify cfg (Text.trim text) = .ok r ∧ r.kind = .numeral) ↔
        ¬ Overlooked n (Text.trim text)) := by
  obtain ⟨n, hn, rfl⟩ := exists_of_map_eq_ok h
  refine ⟨n, hn, rfl, ?_⟩
  have hs := Text.isTrimmed_trim text
  have hrequest : Request.ofText (Text.trim text) = Request.ofText text := by
    rw [Request.ofText, Request.ofText, hs.trim_eq]
  rw [← hrequest] at htarget
  have hread : Numeral.read (Request.ofText (Text.trim text)).value = .ok n := by
    rw [Numeral.ofText] at hn
    rw [← hrequest] at hn
    split at hn
    · cases hn
    · rename_i hvalue
      rw [htarget] at hn
      cases hn
      exact hvalue
  have hne : Text.trim text ≠ [] := by
    intro hnil
    rw [hnil] at hread
    cases hread
  rw [classify_numeral_iff hne hlen htarget]
  rcases value_of_noTarget hs htarget with hvalue | ⟨l, r, heq, hvalue⟩
  · rw [hvalue] at hread
    by_cases hsigned : ∃ c ∈ (Text.trim text).tail, isSign c
    · exact iff_of_false (isNumeralForm_of_sign hs hsigned) (not_not.2 (.sign hsigned))
    · refine isNumeralForm_iff_of_read hs ?_ hread
      intro c hc
      rw [Bool.eq_false_iff]
      exact fun hsign => hsigned ⟨c, hc, hsign⟩
  · -- an arrow without a tag leaves its sign behind the value
    have hl : l ≠ [] := by
      rintro rfl
      rw [hvalue] at hread
      cases hread
    have hsigned : ∃ c ∈ (Text.trim text).tail, isSign c := by
      obtain ⟨e, l, rfl⟩ := List.exists_cons_of_ne_nil hl
      rw [heq]
      exact ⟨'-', by simp, by decide⟩
    exact iff_of_false (isNumeralForm_of_sign hs hsigned) (not_not.2 (.sign hsigned))

/-- A marked numeral between blanks, with a sign and a low line behind its mark. -/
theorem convertible_numeral_marked :
    Conversion.ofText " -0X_fF\n".toList = .ok (.ofInt (-255) none) ∧
    (Request.ofText " -0X_fF\n".toList).hasTarget = false ∧
    ((Text.trim " -0X_fF\n".toList).length : Int) ≤ ({} : Limits).maxSelection ∧
    ¬ Overlooked ⟨-255, .sixteen, .marked, none⟩ (Text.trim " -0X_fF\n".toList) ∧
    ∃ r, classify {} (Text.trim " -0X_fF\n".toList) = .ok r ∧ r.kind = .numeral := by
  have hconv : Conversion.ofText " -0X_fF\n".toList = .ok (.ofInt (-255) none) := rfl
  have htarget : (Request.ofText " -0X_fF\n".toList).hasTarget = false := by decide +kernel
  have hlen : ((Text.trim " -0X_fF\n".toList).length : Int) ≤ ({} : Limits).maxSelection := by
    decide +kernel
  have hnumeral : Numeral.ofText " -0X_fF\n".toList = .ok ⟨-255, .sixteen, .marked, none⟩ := rfl
  have hnot : ¬ Overlooked ⟨-255, .sixteen, .marked, none⟩ (Text.trim " -0X_fF\n".toList) := by
    rintro (h | ⟨-, h⟩ | ⟨h, -, -⟩ | ⟨-, -, h⟩ | ⟨h, -, -⟩)
    · revert h
      decide +kernel
    · revert h
      decide +kernel
    · simp at h
    · revert h
      decide +kernel
    · simp at h
  obtain ⟨n, hn, -, hiff⟩ := convertible_numeral_iff hconv htarget hlen
  obtain rfl := Except.ok.inj (hnumeral.symm.trans hn)
  exact ⟨hconv, htarget, hlen, hnot, hiff.2 hnot⟩

/-- With a sign between the hash and the digits a text converts, and it is taken for an
expression. -/
theorem not_numeral_signBehindHash :
    Conversion.ofText "16#-10".toList = .ok (.ofInt (-16) none) ∧
    (Request.ofText "16#-10".toList).hasTarget = false ∧
    ((Text.trim "16#-10".toList).length : Int) ≤ ({} : Limits).maxSelection ∧
    classify {} (Text.trim "16#-10".toList) = .ok .validExpression ∧
    ¬ ∃ r, classify {} (Text.trim "16#-10".toList) = .ok r ∧ r.kind = .numeral := by
  have hclassify : classify {} (Text.trim "16#-10".toList) = .ok .validExpression := rfl
  refine ⟨rfl, by decide +kernel, by decide +kernel, hclassify, ?_⟩
  rintro ⟨r, hr, hkind⟩
  rw [hclassify] at hr
  cases hr
  cases hkind

end Abacus.Classification
