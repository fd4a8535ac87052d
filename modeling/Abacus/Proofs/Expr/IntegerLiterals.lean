import Abacus.Proofs.Binary64.Range
import Abacus.Proofs.Classification.Forms
import Abacus.Proofs.Expr.Summand.Explicit
import Abacus.Proofs.Expr.Summand.Suffixed

/-!
# Integer literals

The calculator and the numeral reader agree on figures and on digits with a mark in front: what such
a text is calculated to, if anything, is the double nearest to the integer that is read of it.
With a leading zero figures are hexadecimal for both, in the calculator by its second attempt.  That
attempt would also take the mark of binary digits for digits, but it has no value there: the first
one fails for the size of the number only, and the second one is about a greater number still.
-/

namespace Abacus.Expr

open Binary64 (isFinite ofInt?)
open Numeral (hasLeadingZero)
open Radix (isDigitBelow placeValue)
open Text (isLetter)

variable {b : Base} {c l : Char} {cfg : Settings} {ds s w : Text} {n : Nat} {x : Float}

/-! ## Words that start with a figure -/

/-- No name of a built-in starts with a figure. -/
theorem not_isAllowedName_of_isDigit (hc : c.isDigit) (w : Text) :
    isAllowedName (c :: w) = false := by
  rw [Bool.eq_false_iff]
  intro hallowed
  obtain ⟨k, hk⟩ := exists_name_of_isAllowedName hallowed
  have halpha : c.isAlpha := k.isAlpha_of_mem_head? c (by rw [← hk]; rfl)
  rw [Text.not_isDigit_of_isAlpha halpha] at hc
  cases hc

/-- The lexemes of a word are taken from the word as it stands. -/
theorem lexemes?_word {ls : List Lexeme} (hc : c.isDigit) (hw : ∀ e ∈ c :: w, isWordPart e) :
    lexemes? (Text.trim (withOwnNames (c :: w))) = some ls ↔ Lexes 0 (c :: w) ls := by
  have hpart := fun e he => wordPart (hw e he)
  have hnot : ∀ e, isNamePart e = false → e ∉ c :: w := by
    intro e he hmem
    rw [(hpart e hmem).name] at he
    cases he
  have hhash : c ≠ '#' := by
    rintro rfl
    cases hc
  rw [withOwnNames_of_word hw (not_isAllowedName_of_isDigit hc w),
    Text.trim_eq_self fun e he => (hpart e he).not_blank,
    lexemes?_of_head (hpart c List.mem_cons_self).not_blank hhash,
    unifiedBreaks_eq_self (hnot '\r' (by decide))]
  exact and_iff_right (hnot '\x00' (by decide))

/-- A word that starts with a figure has a value where all of it is a literal with this value. -/
theorem attempt_word_iff (hc : c.isDigit) (hw : ∀ e ∈ c :: w, isWordPart e) :
    attempt (c :: w) = .ok x ↔
      ∃ k, numberAt? (c :: w) = some (k, []) ∧ result (.constant k) = .ok x := by
  constructor
  · intro h
    obtain ⟨e, p, rest, hls, hp, hrest, hx⟩ := exists_spells h
    have hlexes := (lexemes?_word hc hw).1 hls
    rw [← List.append_nil (c :: w)] at hlexes
    obtain ⟨k, ls, hk, -, heq, hend⟩ :=
      Lexes.of_figure hlexes (hp.clean hrest) hc hw nofun (.inr nofun)
    obtain rfl := hend.unique (.nil _)
    obtain ⟨l, q, rfl, -⟩ := hp.exists_cons
    obtain ⟨rfl, hbehind⟩ := List.cons.inj heq
    obtain ⟨rfl, -⟩ := List.append_eq_nil_iff.1 hbehind
    obtain rfl := hp.eq_constant
    rw [List.append_nil] at hk
    exact ⟨k, hk, hx⟩
  · rintro ⟨k, hk, hx⟩
    have hstep := step?_figure hc 0 w
    rw [hk, Option.map_some] at hstep
    have hlexes : Lexes 0 (c :: w ++ []) [.number k] :=
      .lexeme (List.cons_ne_nil c w) (by rw [List.append_nil]; exact hstep) (.nil _)
    rw [List.append_nil] at hlexes
    exact (attempt_of_spells (Spells.constant k).to_sum (List.forall_mem_nil _)
      ((lexemes?_word hc hw).2 hlexes)).trans hx

theorem attempt_integer_iff (hc : c.isDigit) (hw : ∀ e ∈ c :: w, isWordPart e)
    (hn : numberAt? (c :: w) = some (.integer n, [])) :
    attempt (c :: w) = .ok x ↔ ofInt? n = some x := by
  rw [attempt_word_iff hc hw, hn, ← integerValue_eq_ok, ← evaluate_integer]
  constructor
  · rintro ⟨k, ⟨⟩, hx⟩
    exact (result_eq_ok.1 hx).1
  · intro hx
    have hvalue := Binary64.ofInt?_eq_some.1 (integerValue_eq_ok.1 (evaluate_integer.1 hx))
    exact ⟨_, rfl, result_eq_ok.2 ⟨hx, hvalue.2 ▸ hvalue.1⟩⟩

/-! ## Figures -/

theorem isWordPart_of_isDigitBelow (h : isDigitBelow 36 c) : isWordPart c := by
  rw [isWordPart, isRunOf, h]
  rfl

theorem isWordPart_of_isDigit (h : c.isDigit) : isWordPart c :=
  isWordPart_of_isDigitBelow
    (Radix.isDigitBelow_mono (by decide) (Classification.isDigitBelow_of_isDigit h))

theorem ofFigures_eq_placeValue (h : ∀ c ∈ s, c.isDigit) :
    Decimal.ofFigures s = placeValue .ten s := by
  have hdigit : ∀ c ∈ s, c.toNat - 48 = Radix.digitOf c := fun c hc =>
    Text.digit_induction (P := fun c => c.toNat - 48 = Radix.digitOf c) (by decide) (h c hc)
  rw [← digitsValue_eq_placeValue, Decimal.ofFigures, digitsValue]
  refine List.foldl_ext _ _ _ fun m c hc => ?_
  rw [hdigit c hc]
  rfl

/-- A first attempt takes figures for a number in base ten.  With a leading zero it reads nothing
but zeros. -/
theorem ofInt?_of_attempt_figures (hne : s ≠ []) (h : ∀ c ∈ s, c.isDigit) (hx : attempt s = .ok x) :
    ofInt? (placeValue .ten s) = some x ∧ (hasLeadingZero s → s.all (· == '0')) := by
  obtain ⟨c, w, rfl⟩ := List.exists_cons_of_ne_nil hne
  have hparts : ∀ e ∈ c :: w, isWordPart e := fun e he => isWordPart_of_isDigit (h e he)
  have hnumber := numberAt?_figures hne h stops_nil
  rw [List.append_nil] at hnumber
  obtain ⟨k, hk, -⟩ := (attempt_word_iff (h c List.mem_cons_self) hparts).1 hx
  rw [hnumber] at hk
  obtain ⟨k', hfigures, -⟩ := Option.map_eq_some_iff.1 hk
  obtain rfl := eq_decimalValue_of_figuresValue? h hfigures
  rw [hfigures, ← ofFigures_eq_decimalValue h, ofFigures_eq_placeValue h] at hnumber
  refine ⟨(attempt_integer_iff (h c List.mem_cons_self) hparts hnumber).1 hx, fun hzero => ?_⟩
  obtain ⟨d, r, heq, -⟩ := Numeral.hasLeadingZero_iff.1 hzero
  by_contra hall
  rw [figuresValue?, if_neg hall, heq] at hfigures
  cases hfigures

theorem placeValue_of_zeros (h : s.all (· == '0')) (b : Base) : placeValue b s = 0 := by
  rw [← digitsValue_eq_placeValue, digitsValue_zeros b.val h]

theorem not_leadingZero_of_figures (h : ∀ c ∈ s, c.isDigit) (hzero : hasLeadingZero s = false) :
    ¬ LeadingZero s := by
  intro hlong
  obtain ⟨q, rfl⟩ := hlong.exists_cons
  obtain ⟨d, r, rfl⟩ := List.exists_cons_of_ne_nil (l := q) (by
    rintro rfl
    exact absurd hlong.length (by decide))
  have hfigures : ∀ e ∈ d :: r, e.isDigit := fun e he => h e (List.mem_cons_of_mem _ he)
  rw [Numeral.hasLeadingZero_iff.2 ⟨d, r, rfl, hfigures⟩] at hzero
  cases hzero

theorem promote_of_not_leadingZero (hs : ∀ c ∈ s, isWordPart c) (h : ¬ LeadingZero s) :
    promote s = s :=
  promote_of_word (fun c hc => (wordPart (hs c hc)).word) h

/-- Figures without a leading zero are calculated to the number that they denote in base ten. -/
theorem ofInt?_of_decimal (hne : s ≠ []) (h : ∀ c ∈ s, c.isDigit) (hzero : hasLeadingZero s = false)
    (hx : calculate cfg s = .ok x) : ofInt? (placeValue .ten s) = some x := by
  have hpromote := promote_of_not_leadingZero (fun c hc => isWordPart_of_isDigit (h c hc))
    (not_leadingZero_of_figures h hzero)
  have hattempt := exists_attempt_of_calculate hx
  rw [hpromote, or_self] at hattempt
  exact (ofInt?_of_attempt_figures hne h hattempt).1

/-! ## Marks -/

/-- A word that is marked by promotion denotes its digits in base sixteen. -/
theorem attempt_marked_iff (h : LeadingZero w) (hline : '_' ∉ w) :
    attempt (marked w) = .ok x ↔ ofInt? (placeValue .sixteen w) = some x := by
  have hnumber := numberAt?_marked_append h stops_nil
  rw [List.append_nil, markedValue_eq hline] at hnumber
  exact attempt_integer_iff (by decide)
    (h.forall_mem (fun c => isWordPart_of_isRunOf (by decide)) (by decide)).2 hnumber

/-- Figures with a leading zero are calculated to the number that they denote in base sixteen. -/
theorem ofInt?_of_leadingZero (h : hasLeadingZero s) (hx : calculate cfg s = .ok x) :
    ofInt? (placeValue .sixteen s) = some x := by
  have hdigits := Numeral.isDigit_of_hasLeadingZero h
  have hne : s ≠ [] := by
    rintro rfl
    cases h
  have hfirst : attempt s = .ok x → ofInt? (placeValue .sixteen s) = some x := by
    intro hs
    obtain ⟨hvalue, hzeros⟩ := ofInt?_of_attempt_figures hne hdigits hs
    rwa [placeValue_of_zeros (hzeros h)] at hvalue ⊢
  rcases exists_attempt_of_calculate hx with hs | hs
  · exact hfirst hs
  by_cases hlong : LeadingZero s
  · have hline : '_' ∉ s := fun hmem => absurd (hdigits _ hmem) (by decide)
    rw [promote_eq_promoteToken hlong, promoteToken_eq] at hs
    split at hs
    · exact hfirst hs
    · exact (attempt_marked_iff hlong hline).1 hs
  · rw [promote_of_not_leadingZero (fun c hc => isWordPart_of_isDigit (hdigits c hc)) hlong] at hs
    exact hfirst hs

theorem literalBase?_mark (hm : (l, b) ∈ Numeral.marks) (hc : isLetter l c) (ds : Text) :
    literalBase? ('0' :: c :: ds) = some b.val := by
  have hcase := (Numeral.isAffix_of_mark hm).cases hc
  simp only [Numeral.marks, List.mem_cons, List.not_mem_nil, or_false, Prod.mk.injEq] at hm
  rcases hm with ⟨rfl, rfl⟩ | ⟨rfl, rfl⟩ | ⟨rfl, rfl⟩ <;> rcases hcase with rfl | rfl <;> rfl

theorem isDigitBelow_of_mark (hm : (l, b) ∈ Numeral.marks) (hc : isLetter l c)
    (hds : ∀ d ∈ ds, isDigitBelow b.val d) : ∀ e ∈ '0' :: c :: ds, isDigitBelow 36 e := by
  have hletters : ∀ m ∈ Numeral.marks, isDigitBelow 36 m.1 ∧ isDigitBelow 36 m.1.toUpper := by
    decide
  refine List.forall_mem_cons.2 ⟨by decide, List.forall_mem_cons.2 ⟨?_, ?_⟩⟩
  · rcases (Numeral.isAffix_of_mark hm).cases hc with rfl | rfl
    · exact (hletters _ hm).1
    · exact (hletters _ hm).2
  · exact fun d hd => Radix.isDigitBelow_mono b.le_max (hds d hd)

/-- Digits behind a mark are calculated to the number that they denote in the base of the mark. -/
theorem ofInt?_of_mark (hm : (l, b) ∈ Numeral.marks) (hc : isLetter l c) (hne : ds ≠ [])
    (hds : ∀ d ∈ ds, isDigitBelow b.val d) (hx : calculate cfg ('0' :: c :: ds) = .ok x) :
    ofInt? (placeValue b ds) = some x := by
  have hl := Numeral.isAffix_of_mark hm
  have hdigits := isDigitBelow_of_mark hm hc hds
  have hparts := fun e he => isWordPart_of_isDigitBelow (hdigits e he)
  have hnumber : numberAt? ('0' :: c :: ds) = some (.integer (placeValue b ds), []) := by
    rw [numberAt?, literalBase?_mark hm hc]
    change (markedDigits? b.val ds).map _ = _
    rw [markedDigits?_of_isDigitBelow hne hds, Option.map_some, digitsValue_eq_placeValue]
  have hfirst : ∀ y, attempt ('0' :: c :: ds) = .ok y ↔ ofInt? (placeValue b ds) = some y :=
    fun y => attempt_integer_iff (by decide) hparts hnumber
  rcases exists_attempt_of_calculate hx with hs | hs
  · exact (hfirst x).1 hs
  by_cases hlong : LeadingZero ('0' :: c :: ds)
  · -- by themselves the digits denote less than mark and digits do in base sixteen
    have hline : '_' ∉ '0' :: c :: ds := fun hmem => absurd (hdigits _ hmem) (by decide)
    have hzeros : ('0' :: c :: ds).all (· == '0') = false := by
      have hc0 : c ≠ '0' := by
        rintro rfl
        simp [Text.isLetter_of_isDigit hl.alpha] at hc
      simp [hc0]
    rw [promote_leadingZero hlong hzeros, attempt_marked_iff hlong hline] at hs
    have hle : placeValue b ds ≤ placeValue .sixteen ('0' :: c :: ds) :=
      Radix.placeValue_le_append hl.le_sixteen ['0', c] ds
    have hfinite := Binary64.isFinite_ofInt_of_le (Binary64.ofInt?_eq_some.1 hs).1 hle
    have hvalue := Binary64.ofInt?_eq_some.2 ⟨hfinite, rfl⟩
    rw [eq_of_attempt hx ((hfirst _).2 hvalue)]
    exact hvalue
  · rw [promote_of_not_leadingZero hparts hlong] at hs
    exact (hfirst x).1 hs

/-! ## Plain numerals -/

/-- Digits are read as a numeral in the way that they are spelled. -/
theorem ofText_of_spells {w : Spelling} (h : Numeral.Spells s w b ds)
    (hs : ∀ c ∈ s, isDigitBelow 36 c) (hread : Radix.readDigits b.val ds = .ok n) :
    Numeral.ofText s = .ok ⟨n, b, w, none⟩ := by
  have hnot : ∀ c, isDigitBelow 36 c = false → c ∉ s := by
    intro c hc hmem
    rw [hs c hmem] at hc
    cases hc
  have hblank : ∀ c ∈ s, Text.isBlank c = false := fun c hc =>
    (wordPart (isWordPart_of_isDigitBelow (hs c hc))).not_blank
  have hplain : Numeral.plain s = s := by
    rw [Numeral.plain, List.filter_eq_self]
    exact fun c hc => bne_iff_ne.2 fun heq => hnot '_' (by decide) (heq ▸ hc)
  have hvalue := Numeral.read_of_spells Numeral.isSigns_nil (h.isBareChar hread) (hplain.symm ▸ h)
  rw [List.nil_append, hread] at hvalue
  rw [Numeral.ofText, Numeral.request_of_plain (hnot '>' (by decide)) hblank]
  simp only [hvalue]
  rfl

/-- Figures, or a mark in either case and digits of its base behind it. -/
inductive PlainNumeral : Text → Prop
  | figures {ds : Text} (hne : ds ≠ []) (h : ∀ d ∈ ds, d.isDigit) : PlainNumeral ds
  | marked {l c : Char} {b : Base} {ds : Text} (hm : (l, b) ∈ Numeral.marks) (hc : isLetter l c)
    (hne : ds ≠ []) (h : ∀ d ∈ ds, isDigitBelow b.val d) : PlainNumeral ('0' :: c :: ds)

/-- A plain numeral is read as an integer, and it is calculated to nothing but the double nearest to
this integer. -/
theorem calculate_plainNumeral (hs : PlainNumeral s) :
    ∃ n, Numeral.ofText s = .ok n ∧ ∀ cfg x, calculate cfg s = .ok x → ofInt? n.value = some x := by
  cases hs with
  | figures hne h =>
    have hten : ∀ d ∈ s, isDigitBelow 10 d := fun d hd =>
      Classification.isDigitBelow_of_isDigit (h d hd)
    have hdigits : ∀ d ∈ s, isDigitBelow 36 d := fun d hd =>
      Radix.isDigitBelow_mono (by decide) (hten d hd)
    cases hzero : hasLeadingZero s with
    | true =>
      have hread := @Radix.readDigits_eq_placeValue .sixteen s hne fun d hd =>
        Radix.isDigitBelow_mono (by decide) (hten d hd)
      exact ⟨_, ofText_of_spells (.leadingZero hzero) hdigits hread,
        fun cfg x hx => ofInt?_of_leadingZero hzero hx⟩
    | false =>
      have hread := @Radix.readDigits_eq_placeValue .ten s hne hten
      exact ⟨_, ofText_of_spells (.decimal hne h hzero) hdigits hread,
        fun cfg x hx => ofInt?_of_decimal hne h hzero hx⟩
  | marked hm hc hne hds =>
    exact ⟨_, ofText_of_spells (.marked hm hc) (isDigitBelow_of_mark hm hc hds)
      (Radix.readDigits_eq_placeValue hne hds), fun cfg x hx => ofInt?_of_mark hm hc hne hds hx⟩

/-- Figures with a leading zero, and binary digits that promotion would take for others. -/
theorem calculate_plainNumeral_promoted :
    (PlainNumeral "0123".toList ∧ promote "0123".toList = "0x0123".toList ∧
      ∃ x, calculate {} "0123".toList = .ok x ∧ ofInt? 291 = some x) ∧
    (PlainNumeral "0B101".toList ∧ promote "0B101".toList = "0x0B101".toList ∧
      ∃ x, calculate {} "0B101".toList = .ok x ∧ ofInt? 5 = some x) := by
  have hvalue : ∀ s, PlainNumeral s → (calculate {} s).toOption.isSome → ∀ n,
      Numeral.ofText s = .ok n → ∃ x, calculate {} s = .ok x ∧ ofInt? n.value = some x := by
    intro s hs hsome n hn
    obtain ⟨n', hn', hagree⟩ := calculate_plainNumeral hs
    obtain rfl : n = n' := Except.ok.inj (hn.symm.trans hn')
    cases hx : calculate {} s with
    | error f =>
      rw [hx] at hsome
      cases hsome
    | ok x => exact ⟨x, rfl, hagree {} x hx⟩
  have hzero : PlainNumeral "0123".toList := .figures (by decide) (by decide)
  have hzero' : Numeral.ofText "0123".toList = .ok ⟨291, .sixteen, .leadingZero, none⟩ := rfl
  have hbinary : PlainNumeral "0B101".toList :=
    .marked (l := 'b') (c := 'B') (b := .two) (by decide) (by decide) (by decide) (by decide)
  have hbinary' : Numeral.ofText "0B101".toList = .ok ⟨5, .two, .marked, none⟩ := rfl
  have hx := hvalue _ hzero (by decide +kernel) _ hzero'
  have hy := hvalue _ hbinary (by decide +kernel) _ hbinary'
  exact ⟨⟨hzero, by decide +kernel, hx⟩, hbinary, by decide +kernel, hy⟩

end Abacus.Expr
