import Abacus.Proofs.Expr.Retry.Promotion
import Abacus.Proofs.Expr.Stripping.Parts
import Abacus.Proofs.Numeral.Bare
import Abacus.Proofs.Text.Tables

/-!
# What the tokens of the kinds are made of

Most tokens have a figure in front of their letters.  Only those with the letter of their base
behind them may start with another character of a name, and they end where the word ends.
-/

namespace Abacus.Expr.Stripping

open Numeral (isSign isCaselessDigitChar suffixes)
open Text (Pattern Piece isBlank isDecimal isLetter isNameChar isWord)

variable {before : Option Char} {c l : Char} {b : Base} {n : Nat} {p : Pattern}
  {r : List Text × Text} {s t : Text}

/-! ## Characters -/

/-- A sign or a blank, as they may stand in front of a numeral. -/
def isLead (c : Char) : Bool := isSign c || isBlank c

/-- A character of the words that numerals without a named base are made of. -/
def isNumeralChar (c : Char) : Bool :=
  isDecimal c || isRunOf 16 c || (Numeral.marks ++ suffixes).any fun m => isLetter m.1 c

theorem not_isWord_of_isLead (h : isLead c) : isWord c = false := by
  rcases Bool.or_eq_true_iff.1 h with h | h
  · rcases Bool.or_eq_true_iff.1 h with h | h <;> rw [beq_iff_eq.1 h] <;> decide
  · exact Text.not_isWord_of_isBlank h

theorem not_isNameChar_of_not_isWord (h : isWord c = false) : isNameChar c = false := by
  rw [isNameChar, h, Bool.false_and]

theorem isWord_of_isNameChar (h : isNameChar c) : isWord c := (Bool.and_eq_true_iff.1 h).1

theorem not_isNameChar_of_isDecimal (h : isDecimal c) : isNameChar c = false := by
  rw [isNameChar, h, Bool.not_true, Bool.and_false]

theorem isRunOf_mono {k : Nat} (hkn : k ≤ n) (h : isRunOf k c) : isRunOf n c := by
  rcases Bool.or_eq_true_iff.1 h with h | h
  · rw [isRunOf, Radix.isDigitBelow_mono hkn h, Bool.true_or]
  · rw [isRunOf, h, Bool.or_true]

/-- A character that makes part of words and of numerals. -/
structure Figures (c : Char) : Prop where
  word : isWord c
  numeral : isNumeralChar c

theorem figures_of_isRunOf (hn : n ≤ 16) (h : isRunOf n c) : Figures c where
  word := isWord_of_isRunOf (isRunOf_mono hn h)
  numeral := by rw [isNumeralChar, isRunOf_mono hn h, Bool.or_true, Bool.true_or]

theorem figures_of_isDecimal (h : isDecimal c) : Figures c where
  word := Text.isWord_of_isDecimal h
  numeral := by rw [isNumeralChar, h, Bool.true_or, Bool.true_or]

theorem figures_of_isLetter (hm : (l, b) ∈ Numeral.marks ++ suffixes) (h : isLetter l c) :
    Figures c where
  word := by
    have all : ∀ l ∈ Numeral.affixes, isWord l ∧ isWord l.toUpper := by decide
    have hl := Numeral.isAffix_of_mem _ hm
    rcases hl.cases h with rfl | rfl
    · exact (all _ hl.mem).1
    · exact (all _ hl.mem).2
  numeral := by
    rw [isNumeralChar, List.any_eq_true.2 ⟨_, hm, h⟩, Bool.or_true]

/-! ## Shapes -/

/-- Every character of a name has a character of a word in front of it. -/
def Led : Option Char → Text → Prop
  | _, [] => True
  | before, c :: s => (isNameChar c → before.any isWord) ∧ Led (some c) s

theorem led_append : Led before (s ++ t) ↔ Led before s ∧ Led (s.getLast?.or before) t := by
  induction s generalizing before with
  | nil => simp [Led]
  | cons c s ih =>
    rw [List.cons_append, Led, Led, ih, and_assoc, List.getLast?_cons, Option.some_or,
      ← Option.or_some]

theorem led_of_not_isWord (h : ∀ c ∈ s, isWord c = false) : Led before s := by
  induction s generalizing before with
  | nil => trivial
  | cons c s ih =>
    obtain ⟨hc, hs⟩ := List.forall_mem_cons.1 h
    refine ⟨fun hname => ?_, ih hs⟩
    rw [not_isNameChar_of_not_isWord hc] at hname
    cases hname

theorem led_of_isWord (h : ∀ c ∈ s, isWord c) (hbefore : before.any isWord) : Led before s := by
  induction s generalizing before with
  | nil => trivial
  | cons c s ih =>
    obtain ⟨hc, hs⟩ := List.forall_mem_cons.1 h
    exact ⟨fun _ => hbefore, ih hs hc⟩

theorem Led.mono (h : Led none s) (before : Option Char) : Led before s := by
  cases s with
  | nil => trivial
  | cons c s => exact ⟨fun hc => absurd (h.1 hc) Bool.false_ne_true, h.2⟩

/-- The text ends within a word. -/
def EndsInWord (s : Text) : Prop := ∃ c ∈ s.getLast?, isWord c

/-- Text of numerals in which figures stand in front of all letters. -/
structure FigureFirst (s : Text) : Prop where
  led : Led none s
  numeral : ∀ c ∈ s, isWord c → isNumeralChar c
  last : EndsInWord s

theorem figureFirst_append (hs : FigureFirst s) (ht : FigureFirst t) : FigureFirst (s ++ t) where
  led := led_append.2 ⟨hs.led, ht.led.mono _⟩
  numeral := List.forall_mem_append.2 ⟨hs.numeral, ht.numeral⟩
  last := by
    obtain ⟨c, hc, hword⟩ := ht.last
    exact ⟨c, by rw [List.getLast?_append, hc]; rfl, hword⟩

/-- A figure behind what belongs to no word, and in front of figures and letters. -/
theorem figureFirst_of_figure (hs : ∀ d ∈ s, isWord d = false) (hc : Figures c)
    (hname : isNameChar c = false) (ht : ∀ d ∈ t, Figures d) : FigureFirst (s ++ c :: t) where
  led := by
    have hbehind : Led (some c) t := led_of_isWord (fun d hd => (ht d hd).word) hc.word
    refine led_append.2 ⟨led_of_not_isWord hs, fun h => ?_, hbehind⟩
    rw [hname] at h
    cases h
  numeral := by
    intro d hd hword
    rcases List.mem_append.1 hd with hd | hd
    · rw [hs d hd] at hword
      cases hword
    · exact (List.forall_mem_cons.2 ⟨hc, ht⟩ d hd).numeral
  last := by
    refine ⟨(c :: t).getLast (List.cons_ne_nil c t), ?_, ?_⟩
    · rw [List.getLast?_append, List.getLast?_eq_some_getLast (List.cons_ne_nil c t)]
      rfl
    · exact (List.forall_mem_cons.2 ⟨hc, ht⟩ _ (List.getLast_mem _)).word

/-- The text starts with the mark of a base, behind signs and blanks. -/
structure Opens (s : Text) : Prop where
  exists_mark : ∃ σ l b c t, s = σ ++ '0' :: c :: t ∧ (∀ d ∈ σ, isLead d) ∧
    (l, b) ∈ Numeral.marks ∧ isLetter l c
  chars : ∀ c ∈ s, isNumeralChar c ∨ isLead c

theorem Opens.append (h : Opens s) (ht : ∀ c ∈ t, isNumeralChar c ∨ isLead c) : Opens (s ++ t) where
  exists_mark := by
    obtain ⟨σ, l, b, c, r, rfl, hσ, hm, hc⟩ := h.exists_mark
    exact ⟨σ, l, b, c, r ++ t, by rw [List.append_assoc]; rfl, hσ, hm, hc⟩
  chars := List.forall_mem_append.2 ⟨h.chars, ht⟩

/-- Digits of a base and low lines, and the letter of the base behind them. -/
structure IsSuffixedWord (s : Text) (l : Char) (b : Base) : Prop where
  suffix : (l, b) ∈ suffixes
  exists_concat : ∃ q c, s = q ++ [c] ∧ q ≠ [] ∧ (∀ d ∈ q, isRunOf b.val d) ∧ isLetter l c

theorem IsSuffixedWord.figures (h : IsSuffixedWord s l b) : ∀ c ∈ s, Figures c := by
  obtain ⟨q, c, rfl, -, hq, hc⟩ := h.exists_concat
  have hbound : b.val ≤ 16 := (Numeral.isAffix_of_suffix h.suffix).le_sixteen
  refine List.forall_mem_append.2 ⟨fun d hd => figures_of_isRunOf hbound (hq d hd), ?_⟩
  exact List.forall_mem_singleton.2 (figures_of_isLetter (List.mem_append_right _ h.suffix) hc)

/-! ## Tokens -/

/-- What every token of a kind has, with the text behind it. -/
def EveryToken (kind : List Pattern) (P : Text → Text → Prop) : Prop :=
  ∀ before u v, tokenLength? kind before (u ++ v) = some u.length → P u v

theorem everyToken {kind : List Pattern} {P : Text → Text → Prop}
    (h : ∀ p ∈ kind, ∀ before s r, p.segments? before s = some r → P r.1.flatten r.2) :
    EveryToken kind P := by
  intro before u v hu
  obtain ⟨p, hp, hn⟩ := List.exists_of_findSome?_eq_some hu
  obtain ⟨r, hr, hlen⟩ := Option.map_eq_some_iff.1 hn
  obtain ⟨rfl, rfl⟩ := List.append_inj (Pattern.segments?_append hr) hlen
  exact h p hp _ _ r hr

theorem exists_lead (h : (withSign p).segments? before s = some r) :
    ∃ σ b t r', (∀ d ∈ σ, isLead d) ∧ p.segments? b t = some r' ∧
      r.1.flatten = σ ++ r'.1.flatten ∧ r.2 = r'.2 := by
  obtain ⟨u, v, r₁, -, -, hu, h₁, rfl⟩ := Pattern.segments?_run_eq_some h
  obtain ⟨w, x, r₂, -, -, hw, h₂, rfl⟩ := Pattern.segments?_run_eq_some h₁
  refine ⟨u ++ w, _, x, r₂, ?_, h₂, ?_, rfl⟩
  · refine List.forall_mem_append.2 ⟨fun d hd => ?_, fun d hd => ?_⟩
    · rw [isLead, hu d hd, Bool.true_or]
    · rw [isLead, hw d hd, Bool.or_true]
  · simp

/-- Where a pattern ends in a boundary behind a word, no word goes on. -/
theorem not_isWord_of_boundary (hc : ∀ d ∈ before, isWord d) (hbefore : before.isSome)
    (h : Pattern.segments? [.boundary] before s = some r) :
    r = ([], s) ∧ ∀ d ∈ s.head?, isWord d = false := by
  obtain ⟨c, rfl⟩ := Option.isSome_iff_exists.1 hbefore
  obtain ⟨hboundary, hnil⟩ := Pattern.segments?_boundary_eq_some.1 h
  cases hnil
  have hhead := (isBoundary_word_left (hc c rfl) _).1 hboundary
  refine ⟨rfl, fun d hd => ?_⟩
  rw [Option.mem_def.1 hd] at hhead
  exact hhead

/-- A zero, the letter of a base and its digits. -/
theorem everyToken_marked (hm : (l, b) ∈ Numeral.marks) :
    EveryToken [markedToken l b.val] fun u _ => Opens u ∧ FigureFirst u := by
  refine everyToken fun p hp before s r h => ?_
  obtain rfl := List.mem_singleton.1 hp
  obtain ⟨σ, _, _, r₁, hσ, h₁, hflat, -⟩ := exists_lead h
  obtain ⟨d, _, r₂, -, hd, h₂, rfl⟩ := Pattern.segments?_one_eq_some h₁
  obtain ⟨c, _, r₃, -, hc, h₃, rfl⟩ := Pattern.segments?_one_eq_some h₂
  obtain ⟨w, _, r₄, -, -, hw, h₄, rfl⟩ := Pattern.segments?_run_eq_some h₃
  cases h₄
  obtain rfl : d = '0' := beq_iff_eq.1 hd
  have hbound : b.val ≤ 16 := (Numeral.isAffix_of_mark hm).le_sixteen
  have hfigures : ∀ e ∈ c :: w, Figures e := List.forall_mem_cons.2
    ⟨figures_of_isLetter (List.mem_append_left _ hm) hc,
      fun e he => figures_of_isRunOf hbound (hw e he)⟩
  have hzero : Figures '0' := figures_of_isRunOf (n := 2) (by decide) (by decide)
  have hu : r.1.flatten = σ ++ '0' :: c :: w := by simpa using hflat
  rw [hu]
  refine ⟨⟨⟨σ, l, b, c, w, rfl, hσ, hm, hc⟩, fun e he => ?_⟩,
    figureFirst_of_figure (fun e he => not_isWord_of_isLead (hσ e he)) hzero (by decide) hfigures⟩
  rcases List.mem_append.1 he with he | he
  · exact .inr (hσ e he)
  · exact .inl (List.forall_mem_cons.2 ⟨hzero, hfigures⟩ e he).numeral

/-- Digits of a base and the letter of the base, at the end of a word. -/
theorem everyToken_suffixed (hm : (l, b) ∈ suffixes) :
    EveryToken [suffixedToken l b.val] fun u v => (∃ σ t, u = σ ++ t ∧ (∀ d ∈ σ, isLead d) ∧
      IsSuffixedWord t l b) ∧ ∀ c ∈ v.head?, isWord c = false := by
  refine everyToken fun p hp before s r h => ?_
  obtain rfl := List.mem_singleton.1 hp
  obtain ⟨σ, _, _, r₁, hσ, h₁, hflat, hrest⟩ := exists_lead h
  obtain ⟨q, _, r₂, -, hne, hq, h₂, rfl⟩ := Pattern.segments?_run_eq_some h₁
  obtain ⟨c, v, r₃, -, hc, h₃, rfl⟩ := Pattern.segments?_one_eq_some h₂
  have hword : isWord c := (figures_of_isLetter (List.mem_append_right _ hm) hc).word
  obtain ⟨rfl, hv⟩ := not_isWord_of_boundary (by rintro _ ⟨⟩; exact hword) rfl h₃
  have hq' : q ≠ [] := List.ne_nil_of_length_pos hne
  refine ⟨⟨σ, q ++ [c], by simpa using hflat, hσ, hm, q, c, rfl, hq', hq, hc⟩, ?_⟩
  rw [hrest]
  exact hv

/-- A zero and digits, as a whole word. -/
theorem everyToken_leadingZero : EveryToken [leadingZeroToken] fun u v =>
    FigureFirst u ∧ ∀ c ∈ v.head?, isWord c = false := by
  refine everyToken fun p hp before s r h => ?_
  obtain rfl := List.mem_singleton.1 hp
  obtain ⟨d, _, r₁, -, hd, h₁, rfl⟩ :=
    Pattern.segments?_one_eq_some (Pattern.segments?_boundary_eq_some.1 h).2
  obtain ⟨w, v, r₂, -, hne, hw, h₂, rfl⟩ := Pattern.segments?_run_eq_some h₁
  have hfigures : ∀ e ∈ w, Figures e := fun e he => figures_of_isRunOf (by decide) (hw e he)
  have hlast := List.getLast?_eq_some_getLast (List.ne_nil_of_length_pos hne)
  rw [hlast, Option.some_or] at h₂
  obtain ⟨rfl, hv⟩ := not_isWord_of_boundary
    (by rintro _ ⟨⟩; exact (hfigures _ (List.getLast_mem _)).word) rfl h₂
  obtain rfl : d = '0' := beq_iff_eq.1 hd
  have hzero : Figures '0' := figures_of_isRunOf (n := 2) (by decide) (by decide)
  have hfirst : FigureFirst ([] ++ '0' :: w) :=
    figureFirst_of_figure nofun hzero (by decide) hfigures
  exact ⟨by simpa using hfirst, hv⟩

theorem figures_of_isFigureOrLine (h : isFigureOrLine c) : Figures c := by
  rcases Bool.or_eq_true_iff.1 h with h | h
  · exact figures_of_isRunOf (n := 16) le_rfl
      (Text.digit_induction (P := fun c => isRunOf 16 c) (by decide) h)
  · exact figures_of_isRunOf (n := 16) le_rfl (by rw [isRunOf, h, Bool.or_true])

/-- A decimal figure and further figures and low lines. -/
theorem figureFirst_of_decimal (hs : ∀ d ∈ s, isWord d = false) (hc : isDecimal c)
    (ht : ∀ d ∈ t, isFigureOrLine d) : FigureFirst (s ++ c :: t) :=
  figureFirst_of_figure hs (figures_of_isDecimal hc) (not_isNameChar_of_isDecimal hc)
    fun d hd => figures_of_isFigureOrLine (ht d hd)

theorem everyToken_decimal : EveryToken [fractionToken, wholeToken] fun u _ => FigureFirst u := by
  refine everyToken fun p hp before s r h => ?_
  have hwhole : ∀ {q : Pattern}, p = wholeToken ++ q → ∃ σ c w b t r', (∀ d ∈ σ, isWord d = false) ∧
      isDecimal c ∧ (∀ d ∈ w, isFigureOrLine d) ∧ Pattern.segments? q b t = some r' ∧
      r.1.flatten = (σ ++ c :: w) ++ r'.1.flatten := by
    rintro q rfl
    obtain ⟨σ, _, _, r₁, hσ, h₁, hflat, -⟩ := exists_lead h
    obtain ⟨c, _, r₂, -, hc, h₂, rfl⟩ := Pattern.segments?_one_eq_some h₁
    obtain ⟨w, _, r₃, -, -, hw, h₃, rfl⟩ := Pattern.segments?_run_eq_some h₂
    exact ⟨σ, c, w, _, _, r₃, fun d hd => not_isWord_of_isLead (hσ d hd), hc, hw, h₃,
      by simpa using hflat⟩
  rcases List.mem_cons.1 hp with rfl | hp
  · obtain ⟨σ, c, w, _, _, r₁, hσ, hc, hw, h₁, hflat⟩ := hwhole rfl
    obtain ⟨e, _, r₂, -, he, h₂, rfl⟩ := Pattern.segments?_one_eq_some h₁
    obtain ⟨d, _, r₃, -, hd, h₃, rfl⟩ := Pattern.segments?_one_eq_some h₂
    obtain ⟨x, _, r₄, -, -, hx, h₄, rfl⟩ := Pattern.segments?_run_eq_some h₃
    cases h₄
    obtain rfl : e = '.' := beq_iff_eq.1 he
    have hfraction : FigureFirst (['.'] ++ d :: x) := figureFirst_of_decimal (by decide) hd hx
    rw [hflat]
    simpa using figureFirst_append (figureFirst_of_decimal hσ hc hw) hfraction
  · obtain rfl := List.mem_singleton.1 hp
    obtain ⟨σ, c, w, _, _, r₁, hσ, hc, hw, h₁, hflat⟩ := hwhole (List.append_nil _).symm
    cases h₁
    rw [hflat, List.flatten_nil, List.append_nil]
    exact figureFirst_of_decimal hσ hc hw

/-- A pattern that ends in a run has taken a run at the end. -/
theorem exists_run_of_segments? {a : Char → Bool}
    (h : Pattern.segments? (p ++ [.some a]) before s = some r) :
    ∃ x w, r.1.flatten = x ++ w ∧ w ≠ [] ∧ ∀ c ∈ w, a c := by
  induction p generalizing before s r with
  | nil =>
    obtain ⟨w, _, _, -, hne, hw, h', rfl⟩ := Pattern.segments?_run_eq_some h
    cases h'
    exact ⟨[], w, by simp, List.ne_nil_of_length_pos hne, hw⟩
  | cons piece p ih =>
    cases piece with
    | boundary => exact ih (Pattern.segments?_boundary_eq_some.1 h).2
    | run least most admits =>
      obtain ⟨u, _, r', -, -, -, h', rfl⟩ := Pattern.segments?_run_eq_some h
      obtain ⟨x, w, hr, hw⟩ := ih h'
      exact ⟨u ++ x, w, by rw [List.flatten_cons, hr, List.append_assoc], hw⟩

theorem isWord_of_isCaselessDigitChar (h : isCaselessDigitChar c) : isWord c := by
  rcases Bool.or_eq_true_iff.1 h with h | h
  · have hlt : c.toNat < 128 := by
      rcases Bool.or_eq_true_iff.1 h with h | h
      · exact Radix.toNat_lt_of_isDigitBelow h
      · rw [beq_iff_eq.1 h]
        decide
    exact Text.ascii_induction (P := fun c => Numeral.isDigitChar c → isWord c)
      (by decide +kernel) hlt h
  · exact Text.isWord_of_folded? h

/-- A token that ends in a run ends within a word, if the run's characters stand in words. -/
theorem everyToken_of_run {a : Char → Bool} (ha : ∀ c, a c → isWord c) (p : Pattern) :
    EveryToken [p ++ [.some a]] fun u _ => EndsInWord u := by
  refine everyToken fun q hq before s r h => ?_
  obtain rfl := List.mem_singleton.1 hq
  obtain ⟨x, w, hr, hne, hw⟩ := exists_run_of_segments? h
  rw [hr]
  refine ⟨w.getLast hne, ?_, ha _ (hw _ (List.getLast_mem hne))⟩
  rw [List.getLast?_append, List.getLast?_eq_some_getLast hne]
  rfl

theorem everyToken_radixHash : EveryToken [radixHashToken] fun u _ => EndsInWord u :=
  everyToken_of_run (fun _ => isWord_of_isCaselessDigitChar) radixHashToken.dropLast

theorem everyToken_baseWord : EveryToken [baseWordToken] fun u _ => EndsInWord u :=
  everyToken_of_run (fun _ => isWord_of_isCaselessDigitChar) baseWordToken.dropLast

end Abacus.Expr.Stripping
