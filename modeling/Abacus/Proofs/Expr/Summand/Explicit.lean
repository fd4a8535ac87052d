import Abacus.Proofs.Expr.Summand.Trailing
import Abacus.Proofs.Numeral.Bare

/-!
# A named base in front of a sum

The hash behind a base starts a comment, so that the base is all that is read of a sum.  The word
`base` is no name, and a sum behind it is not read.
-/

namespace Abacus.Expr

open Numeral (IsRadix)
open Text (isBlank isDecimal isLetter)

variable {c : Char} {d : Nat} {s u v w y r : Text} {e : Expr} {k : Constant}
  {ls p rest : List Lexeme} {z : Float}

/-! ## Figures of a base -/

/-- Nothing is taken for a name where there are no letters. -/
theorem withOwnNames_of_not_isAlpha (h : ∀ c ∈ s, c.isAlpha = false ∧ c ≠ '^') :
    withOwnNames s = s := by
  have hnames : Text.replaceTokens nameLength? ownName s = s := by
    apply Text.replaceTokens_eq_self
    intro u c r hs
    exact nameLength?_of_not_isAlpha (h c (by simp [hs])).1 r
  rw [withOwnNames, hnames, flatMap_expandCaret_eq_self fun hmem => (h _ hmem).2 rfl]

/-- Nothing is promoted where there are fewer than three characters. -/
theorem promote_of_length_le (h : s.length ≤ 2) : promote s = s := by
  apply Text.replaceTokens_eq_self
  intro u c r hs
  rw [Option.eq_none_iff_forall_ne_some]
  intro n hn
  obtain ⟨w, v, heq, -, -, hw, -⟩ := length?_promotableToken.1 hn
  have hlen := congrArg List.length (hs.trans (congrArg (u ++ ·) heq))
  have := hw.length
  simp only [List.length_append] at hlen
  omega

theorem decimal_plain (h : isDecimal c) : c.isAlpha = false ∧ c ≠ '^' ∧ c ≠ '#' ∧ c ≠ '\r' ∧
    isBlank c = false := by
  have hblank := Numeral.isBlank_of_isDecimal h
  by_cases hlt : c.toNat < 128
  · have hclass := Text.ascii_induction (P := fun c => isDecimal c → c.isAlpha = false ∧ c ≠ '^' ∧
      c ≠ '#' ∧ c ≠ '\r') (by decide +kernel) hlt h
    exact ⟨hclass.1, hclass.2.1, hclass.2.2.1, hclass.2.2.2, hblank⟩
  · refine ⟨Bool.eq_false_iff.2 fun halpha => hlt (Text.toNat_lt_of_isAlpha halpha), ?_, ?_, ?_,
      hblank⟩ <;> rintro rfl <;> exact hlt (by decide)

theorem isDigit_of_isDecimal (h : isDecimal c) (hlt : c.toNat < 128) : c.isDigit :=
  Text.ascii_induction (P := fun c => isDecimal c → c.isDigit) (by decide +kernel) hlt h

/-- No digit of any script ends a literal. -/
theorem not_isStop_of_isDecimal (h : isDecimal c) : isStop c = false := by
  rw [Bool.eq_false_iff]
  intro hstop
  have hname := not_isNamePart_of_isStop hstop
  by_cases hlt : c.toNat < 128
  · rw [isNamePart_of_isDigit (isDigit_of_isDecimal h hlt)] at hname
    cases hname
  · rw [isNamePart, decide_eq_true (Nat.not_lt.1 hlt), Bool.or_true] at hname
    cases hname

theorem ofFigures_eq_decimalValue (h : ∀ c ∈ s, c.isDigit) :
    Decimal.ofFigures s = Numeral.decimalValue s := by
  have hvalue : ∀ c ∈ s, (Text.decimalValue? c).getD 0 = c.toNat - 48 := by
    intro c hc
    rw [Text.decimalValue?, if_pos (Text.toNat_lt_of_isDigit (h c hc)), if_pos (h c hc)]
    rfl
  rw [Decimal.ofFigures, Numeral.decimalValue]
  exact List.foldl_ext _ _ _ fun m c hc => by rw [hvalue c hc]

/-- Figures that are read as a literal denote its value. -/
theorem eq_decimalValue_of_figuresValue? (h : ∀ c ∈ s, c.isDigit) (hk : figuresValue? s = some k) :
    k = .integer (Numeral.decimalValue s) := by
  rw [← ofFigures_eq_decimalValue h]
  rw [figuresValue?] at hk
  split at hk
  · rename_i hzeros
    cases hk
    have hzero : ∀ c ∈ s, c.toNat - 48 = 0 := fun c hc => by
      rw [beq_iff_eq.1 (List.all_eq_true.1 hzeros c hc)]
      rfl
    have hfold : Decimal.ofFigures s = s.foldl (fun n _ => n * 10) 0 :=
      List.foldl_ext _ _ _ fun n c hc => by rw [hzero c hc, Nat.add_zero]
    rw [hfold, List.foldl_fixed' (by simp)]
    rfl
  split at hk
  · cases hk
  · cases hk
    rfl

/-! ## A base and a hash -/

theorem toNat_lt_of_isDecimalPart (h : isDecimalPart c) : c.toNat < 128 := by
  rw [isDecimalPart, Bool.or_eq_true, List.contains_iff_mem] at h
  rcases h with h | h
  · exact Text.toNat_lt_of_isDigit h
  · have hletters : ∀ e ∈ ['_', '.', 'e', 'E', '+', '-', 'j', 'J'], e.toNat < 128 := by decide
    exact hletters c h

/-- A literal that is taken of figures, with a blank or a hash behind them, is all of them. -/
theorem numberAt?_radix {k : Constant} {r : Text} (hu : ∀ c ∈ u, isDecimal c)
    (hv : ∀ e ∈ v.head?, isBlank e ∨ e = '#') (h : numberAt? (u ++ v) = some (k, r))
    (hstops : Stops r) : r = v ∧ ∀ c ∈ u, c.isDigit := by
  have hhead : ∀ e ∈ v.head?, isWordPart e = false ∧ isDecimalPart e = false := by
    intro e he
    rcases hv e he with hblank | rfl
    · refine ⟨Bool.eq_false_iff.2 fun hpart => by simp [(wordPart hpart).not_blank] at hblank, ?_⟩
      exact Text.blank_induction (P := fun e => isDecimalPart e = false) (by decide) hblank
    · decide
  obtain ⟨p, hp, hparts⟩ := numberAt?_parts h
  have hplain : (∀ e ∈ p, e.toNat < 128) ∧ ∀ e ∈ p, e ∉ v.head? := by
    rcases hparts with hparts | hparts
    · refine ⟨fun e he => (wordPart (hparts e he)).ascii, fun e he hmem => ?_⟩
      have hpart := hparts e he
      rw [(hhead e hmem).1] at hpart
      cases hpart
    · refine ⟨fun e he => toNat_lt_of_isDecimalPart (hparts e he), fun e he hmem => ?_⟩
      have hpart := hparts e he
      rw [(hhead e hmem).2] at hpart
      cases hpart
  have hr : r = v := by
    rcases List.append_eq_append_iff.1 hp with ⟨x, rfl, rfl⟩ | ⟨x, rfl, rfl⟩
    · -- the literal would reach over the figures
      cases x with
      | nil => rfl
      | cons e x => exact absurd rfl (hplain.2 e (by simp))
    · -- the literal would end within the figures
      cases x with
      | nil => rfl
      | cons e x =>
        have hstop := hstops e rfl
        rw [not_isStop_of_isDecimal (hu e (by simp))] at hstop
        cases hstop
  subst hr
  obtain rfl := List.append_cancel_right hp
  exact ⟨rfl, fun e he => isDigit_of_isDecimal (hu e he) (hplain.1 e he)⟩

/-- Digits beyond ASCII start no lexeme. -/
theorem Lexes.isDigit_of_isDecimal (h : Lexes d (c :: s) ls) (hclean : Clean ls)
    (hc : isDecimal c) : c.isDigit := by
  refine Expr.isDigit_of_isDecimal hc ?_
  by_contra hlt
  have hname : isNamePart c := by
    rw [isNamePart, decide_eq_true (Nat.not_lt.1 hlt), Bool.or_true]
  obtain ⟨id, -, hid, -⟩ := h.exists_name hclean hname
    (Bool.eq_false_iff.2 fun hdigit => hlt (Text.toNat_lt_of_isDigit hdigit))
  rw [List.takeWhile_cons_of_pos hname, nameLexeme?_eq_none hlt
    (Text.not_startsIdentifier (.inr hc))] at hid
  cases hid

/-- The figures of a base are a number as a whole. -/
theorem Lexes.of_radix (hu : IsRadix u) (hv : ∀ e ∈ v.head?, isBlank e ∨ e = '#')
    (h : Lexes d (u ++ v) ls) (hclean : Clean ls) :
    ∃ ls', ls = .number (.integer (Numeral.decimalValue u)) :: ls' ∧ Lexes d v ls' := by
  have hne : u ≠ [] := List.length_pos_iff.1 hu.pos
  obtain ⟨c, q, hq⟩ := List.exists_cons_of_ne_nil hne
  rw [hq, List.cons_append] at h
  have hdigit := h.isDigit_of_isDecimal hclean (hu.decimal c (by rw [hq]; exact List.mem_cons_self))
  obtain ⟨k, r, ls', hnumber, rfl, hrest⟩ := Lexes.exists_number h hdigit
  have hstops : Stops r := hrest.stops hclean
  rw [← List.cons_append, ← hq] at hnumber
  obtain ⟨rfl, hdigits⟩ := numberAt?_radix hu.decimal hv hnumber hstops
  rw [numberAt?_figures hne hdigits hstops] at hnumber
  obtain ⟨k', hk, heq⟩ := Option.map_eq_some_iff.1 hnumber
  cases heq
  rw [eq_decimalValue_of_figuresValue? hdigits hk]
  exact ⟨ls', rfl, hrest⟩

/-- Behind a hash there is nothing, or a line break. -/
theorem Lexes.of_comment (hu : ∀ c ∈ u, isBlank c) (h : Lexes 0 (u ++ '#' :: v) ls) :
    ls = [] ∨ ls.head? = some .newline := by
  obtain ⟨ns, ls', rfl, hns, hrest⟩ := Lexes.of_blanks h hu
  cases ns with
  | cons n ns =>
    obtain ⟨rfl, -⟩ := List.forall_mem_cons.1 hns
    exact .inr rfl
  | nil =>
    have hstep : step? 0 ('#' :: v) = some (none, (('#' :: v).takeWhile (· != '\n')).length) := rfl
    have hsplit := List.takeWhile_append_dropWhile (p := (· != '\n')) (l := '#' :: v)
    rw [← hsplit] at hrest
    have hline := hrest.of_skip (List.cons_ne_nil _ _) (by rw [hsplit, hstep])
    cases hdrop : ('#' :: v).dropWhile (· != '\n') with
    | nil =>
      rw [hdrop] at hline
      exact .inl (hline.unique (.nil 0))
    | cons e t =>
      have he : (e != '\n') = false :=
        @Text.not_of_mem_head?_dropWhile ('#' :: v) (· != '\n') e (by rw [hdrop]; rfl)
      obtain rfl : e = '\n' := by simpa using he
      rw [hdrop] at hline
      obtain ⟨ls', rfl, -⟩ := Lexes.of_lexeme (p := ['\n']) hline (List.cons_ne_nil _ _) rfl
      exact .inr rfl

/-- A pass works on what stands behind a hash by itself. -/
theorem IsPass.radixHash {F : Text → Text} (hF : IsPass F) (hs : ∀ c ∈ s, isBlank c) (hu : F u = u)
    (hv : ∀ c ∈ v, isBlank c) (y : Text) :
    F (s ++ (u ++ (v ++ '#' :: y))) = s ++ (u ++ (v ++ '#' :: F y)) := by
  have hcuts : ∀ c ∈ v ++ ['#'], IsCut c :=
    List.forall_mem_append.2 ⟨fun c hc => isCut_of_isBlank (hv c hc), by decide⟩
  have hhash : ∀ x : Text, v ++ '#' :: x = v ++ ['#'] ++ x := by simp
  rw [hF.append_of_cuts fun c hc => isCut_of_isBlank (hs c hc), hhash,
    hF.append_cuts_append (by simp) hcuts, hu, ← hhash]

/-- Of a sum whose first summand names its base in front of a hash, the base is all that is read. -/
theorem integerValue_of_radixHash (hs : ∀ c ∈ s, isBlank c) (hu : IsRadix u)
    (hv : ∀ c ∈ v, isBlank c)
    (hz : attempt (plusEnclosed (s ++ (u ++ (v ++ '#' :: y))) r) = .ok z) :
    integerValue (Numeral.decimalValue u) = .ok z := by
  have hplain : ∀ c ∈ u, _ := fun c hc => decimal_plain (hu.decimal c hc)
  have hown : withOwnNames u = u := withOwnNames_of_not_isAlpha fun c hc =>
    ⟨(hplain c hc).1, (hplain c hc).2.1⟩
  have hpasses := isPass_withOwnNames.radixHash hs hown hv y
  have hlines : unifiedBreaks (u ++ (v ++ '#' :: withOwnNames y)) =
      u ++ (unifiedBreaks v ++ '#' :: unifiedBreaks (withOwnNames y)) := by
    rw [unifiedBreaks_append (fun hmem => (hplain _ hmem).2.2.2.1 rfl),
      unifiedBreaks_append_cons (by decide), unifiedBreaks_cons (by decide)]
  obtain ⟨c, q, hq⟩ := List.exists_cons_of_ne_nil (List.length_pos_iff.1 hu.pos)
  obtain ⟨-, -, hne, -, hblank⟩ := hplain c (by rw [hq]; exact List.mem_cons_self)
  have hhead : u ++ (v ++ '#' :: withOwnNames y) = c :: (q ++ (v ++ '#' :: withOwnNames y)) := by
    rw [hq, List.cons_append]
  rw [hhead] at hpasses hlines
  obtain ⟨e, p, rest, -, hlexes, hp, hrest, hz⟩ := exists_lexes_of_attempt hpasses hs hblank hne hz
  have hblanks : ∀ c ∈ unifiedBreaks v, isBlank c :=
    forall_mem_unifiedBreaks rfl fun c hc => .inl (hv c hc)
  rw [hlines, plusEnclosed, List.append_assoc, List.append_assoc, List.cons_append] at hlexes
  obtain ⟨ls, heq, hcomment⟩ := Lexes.of_radix hu (by
    cases hv' : unifiedBreaks v with
    | nil =>
      rintro _ ⟨⟩
      exact .inr rfl
    | cons e x =>
      rintro _ ⟨⟩
      exact .inl (hblanks _ (by rw [hv']; exact List.mem_cons_self))) hlexes (hp.clean hrest)
  obtain ⟨l, p, rfl, -⟩ := hp.exists_cons
  obtain ⟨rfl, hbehind⟩ := List.cons.inj heq
  obtain rfl : p = [] := by
    cases p with
    | nil => rfl
    | cons l p =>
      exfalso
      rcases Lexes.of_comment hblanks hcomment with rfl | hnewline
      · cases hbehind
      · rw [← hbehind] at hnewline
        obtain rfl : l = .newline := Option.some.inj hnewline
        cases hp.isPlain .newline (by simp)
  obtain rfl := hp.eq_constant
  exact evaluate_integer.1 (result_eq_ok.1 hz).1

/-! ## The word -/

/-- No name starts with the letter. -/
theorem not_isAllowedName_of_head (hc : c ∈ ['b', 'B']) (s : Text) :
    isAllowedName (c :: s) = false := by
  rw [Bool.eq_false_iff]
  intro hallowed
  obtain ⟨k, hk⟩ := exists_name_of_isAllowedName hallowed
  have hnames : ∀ p ∈ Builtin.names, ∀ c ∈ p.1.head?, c ∉ ['b', 'B'] := by decide
  exact hnames _ k.mem_names c (by rw [← hk]; rfl) hc

theorem base_class : ∀ c ∈ ['b', 'B'], c.toNat < 128 ∧ isNamePart c ∧ c.isDigit = false ∧
    Text.isWord c ∧ bindsName c ∧ c ≠ '^' ∧ c ≠ '0' ∧ c ≠ '#' ∧ c ≠ '\r' ∧ isBlank c = false := by
  decide

/-- A name that starts with the letter in front of an ASCII letter is not read. -/
theorem Lexes.not_base {a : Char} (hc : c ∈ ['b', 'B']) (ha : a.toNat < 128) (hpart : isNamePart a)
    (h : Lexes d (c :: a :: s) ls) (hclean : Clean ls) : False := by
  obtain ⟨hascii, hname, hdigit, -⟩ := base_class c hc
  obtain ⟨id, -, hid, hallowed, -⟩ := Lexes.exists_name h hclean hname hdigit
  rw [List.takeWhile_cons_of_pos hname, List.takeWhile_cons_of_pos hpart, nameLexeme?] at hid
  split at hid
  · cases hid
  split at hid
  · cases hid
    rw [not_isAllowedName_of_head hc] at hallowed
    cases hallowed
  split at hid
  · cases hid
    have hself : Text.normalized [c] = [c] := by
      rw [Text.normalized, if_pos]
      simpa using hascii
    rw [← List.singleton_append, Text.normalized_append ha, hself, List.singleton_append,
      not_isAllowedName_of_head hc] at hallowed
    cases hallowed
  · cases hid

theorem exists_promote_base {a : Char} (hs : ∀ c ∈ s, isBlank c) (hc : c ∈ ['b', 'B'])
    (ha : a ≠ '0') (y : Text) : ∃ y', promote (s ++ c :: a :: y) = s ++ c :: a :: y' := by
  have hnone : ∀ {b : Option Char} {e : Char} {t : Text}, e ≠ '0' →
      promotableToken.length? b (e :: t) = none := by
    intro b e t he
    rw [Option.eq_none_iff_forall_ne_some]
    intro n hn
    obtain ⟨w, v, heq, -, -, hw, -⟩ := length?_promotableToken.1 hn
    obtain ⟨q, rfl⟩ := hw.exists_cons
    exact he (List.cons.inj heq).1
  obtain ⟨-, -, -, -, -, -, hzero, -⟩ := base_class c hc
  rw [isPass_promote.append_of_cuts fun c hc => isCut_of_isBlank (hs c hc), promote,
    Text.replaceTokens, Text.replaceFrom_cons_of_none (hnone hzero),
    Text.replaceFrom_cons_of_none (hnone ha)]
  exact ⟨_, rfl⟩

theorem exists_withOwnNames_base {a : Char} (hs : ∀ c ∈ s, isBlank c) (hc : c ∈ ['b', 'B'])
    (ha : a ≠ '^') (y : Text) : ∃ y', withOwnNames (s ++ c :: a :: y) = s ++ c :: a :: y' := by
  obtain ⟨-, -, -, hword, hbinds, hcaret, -⟩ := base_class c hc
  have hnone : nameLength? none (c :: a :: y) = none := by
    rw [nameLength?, List.takeWhile_cons_of_pos hword, not_isAllowedName_of_head hc]
    rfl
  have hnone' : nameLength? (some c) (a :: y) = none := by
    rw [nameLength?, Option.any_some, hbinds]
    rfl
  rw [isPass_withOwnNames.append_of_cuts fun c hc => isCut_of_isBlank (hs c hc), withOwnNames_eq,
    ownNamesFrom, Text.replaceFrom_cons_of_none hnone, Text.replaceFrom_cons_of_none hnone',
    List.flatMap_cons, List.flatMap_cons, expandCaret, expandCaret, beq_eq_false_iff_ne.2 hcaret,
    beq_eq_false_iff_ne.2 ha]
  exact ⟨_, rfl⟩

/-- A sum whose first summand starts with the word is not read. -/
theorem attempt_base_ne_ok {a : Char} (hs : ∀ c ∈ s, isBlank c) (hc : c ∈ ['b', 'B'])
    (ha : a ∈ ['a', 'A']) (y r : Text) (z : Float) :
    attempt (plusEnclosed (s ++ c :: a :: y) r) ≠ .ok z := by
  intro hz
  have hclass : ∀ a ∈ ['a', 'A'], a.toNat < 128 ∧ isNamePart a ∧ a ≠ '^' ∧ a ≠ '\r' := by
    decide
  obtain ⟨hascii, hpart, hcaret, hreturn⟩ := hclass a ha
  obtain ⟨-, -, -, -, -, -, -, hhash, hreturn', hblank⟩ := base_class c hc
  obtain ⟨y', hown⟩ := exists_withOwnNames_base hs hc hcaret y
  obtain ⟨e, p, rest, -, hlexes, hp, hrest, -⟩ := exists_lexes_of_attempt hown hs hblank hhash hz
  rw [unifiedBreaks_cons hreturn', unifiedBreaks_cons hreturn] at hlexes
  exact Lexes.not_base hc hascii hpart hlexes (hp.clean hrest)

end Abacus.Expr
