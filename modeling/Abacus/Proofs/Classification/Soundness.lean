import Abacus.Proofs.Classification.Completeness

/-!
# Texts taken for numerals that are not converted

A text that is taken for a numeral by its form converts, or a digit behind the base that it names is
at fault, unless it is written in one of six ways that its form admits and conversion misreads.
These ways are told exactly.
-/

namespace Abacus.Classification

open Abacus.Expr (isRunOf isFigureOrLine)
open Numeral
open Radix (isDigitBelow readDigits signed splitSign OutOfRange)
open Text (Pattern isBlank isDecimal isLetter)

variable {s body sign u d ds : Text} {c l : Char} {b : Base} {n : Numeral} {w : Spelling}

/-- A text that converts, or names its base with a digit behind it that is none of the base. -/
def Convertible (s : Text) : Prop :=
  (∃ c, Conversion.ofText s = .ok c) ∨
  ∃ w u d, explicitBase? s = some (w, u, d) ∧
    ∃ c ∈ Text.lower (plain d), OutOfRange (.clamp (decimalValue u)) c ∧
      Conversion.ofText s =
        .error (.numeral (.invalidDigit c (Base.clamp (decimalValue u)).val))

/-- A text without sign and low lines that is read in no way: nothing, a lone letter, or a mark
without digits of its base behind it. -/
inductive Unread (s : Text) : Prop
  /-- Nothing but low lines: `_`. -/
  | lines (h : s = [])
  /-- A letter with no digits in front of it: `_h`. -/
  | letter {l c : Char} (hl : l = 'h' ∨ l = 'o') (hc : isLetter l c) (h : s = [c])
  /-- A mark with no digits behind it, or with a character that is no digit of its base: `0x_`,
  `0b2`, `0b1h`. -/
  | mark {b : Base} (hmark : markedBase? s = some b)
    (h : s.drop 2 = [] ∨ ∃ c ∈ s.drop 2, isDigitBelow b.val c = false)

/-- The ways of writing a text in the form of a numeral in which it is not read as one. -/
inductive Misread (s : Text) : Prop
  | unread (h : Unread (plain (splitSign s).2))
  /-- A sign in front of a base: `+16#ff`. -/
  | sign (hsign : (splitSign s).2 ≠ s) (h : (explicitBase? (splitSign s).2).isSome)
  /-- Nothing but low lines behind a base: `16#_`. -/
  | digits {w : Spelling} {u d : Text} (h : explicitBase? s = some (w, u, d)) (hd : plain d = [])
  /-- A character beyond ASCII that stands for a letter behind a hash: `36#ſ`. -/
  | folded (hhash : '#' ∈ s) (h : ∃ c ∈ s, (Text.folded? c).isSome)

/-! ## What is converted -/

theorem ofText_eq (hs : Text.IsTrimmed s) (hsep : splitSeparator? s = none) :
    Numeral.ofText s = match Numeral.read s with
      | .error f => .error (.numeral f)
      | .ok n => .ok n := by
  have hrequest : Request.ofText s = ⟨s, []⟩ := by
    rw [Request.ofText, hs.trim_eq, hsep]
  rw [Numeral.ofText, hrequest]
  rfl

theorem convertible_iff (hs : Text.IsTrimmed s) (hsep : splitSeparator? s = none) :
    Convertible s ↔ (∃ n, Numeral.read s = .ok n) ∨
      ∃ w u d, explicitBase? s = some (w, u, d) ∧
        ∃ c ∈ Text.lower (plain d), OutOfRange (.clamp (decimalValue u)) c ∧
          Numeral.read s = .error (.invalidDigit c (Base.clamp (decimalValue u)).val) := by
  have hok : (∃ c, Conversion.ofText s = .ok c) ↔ ∃ n, Numeral.read s = .ok n := by
    rw [Conversion.ofText, ofText_eq hs hsep]
    cases Numeral.read s <;> simp [Except.map]
  have herror : ∀ f, Conversion.ofText s = .error (.numeral f) ↔ Numeral.read s = .error f := by
    intro f
    rw [Conversion.ofText, ofText_eq hs hsep]
    cases Numeral.read s <;> simp [Except.map]
  rw [Convertible, hok]
  simp only [herror]

theorem splitSign_append (hsign : IsSigns sign) (hbody : ∀ c ∈ body, isSign c = false) :
    (splitSign (sign ++ body)).2 = body := by
  rcases hsign.cases with rfl | rfl | rfl
  · cases body with
    | nil => rfl
    | cons c r =>
      have hc := hbody c List.mem_cons_self
      rw [isSign, Bool.or_eq_false_iff, beq_eq_false_iff_ne, beq_eq_false_iff_ne] at hc
      simp [splitSign, hc.1, hc.2]
  · rfl
  · rfl

/-- A text with a character that stands only where a base is named is not read without one. -/
theorem not_read_of_mem (hs : Text.IsTrimmed (sign ++ body)) (hsign : IsSigns sign)
    (hbody : ∀ c ∈ body, isSign c = false) (hexplicit : explicitBase? (sign ++ body) = none)
    (hc : c ∈ plain body) (hbare : ¬ IsBareChar c) (hbreak : c ≠ '\n') :
    ∀ n, Numeral.read (sign ++ body) ≠ .ok n := by
  intro n h
  rw [Numeral.read, hexplicit] at h
  dsimp only at h
  rw [readBare_append hsign hs.trim_eq fun c hc => hbody c (List.mem_of_mem_head? hc)] at h
  split at h
  · rename_i w b ds hspelled
    obtain ⟨m, hread, rfl⟩ := exists_of_map_eq_ok h
    rcases spells_of_read hspelled hread with hspells | ⟨rfl, t, ht, hspells⟩
    · exact hbare (hspells.isBareChar hread c hc)
    · rw [ht] at hc
      rcases List.mem_append.1 hc with hc | hc
      · exact hbare (hspells.isBareChar hread c hc)
      · exact hbreak (List.mem_singleton.1 hc)
  · cases h

theorem head_of_hashForm (h : HashForm s u sign d) :
    ∃ c r, s = c :: r ∧ (isBlank c ∨ isDecimal c) := by
  obtain @⟨v₀, u, v₁, v₂, sign, d, v₃, h₀, hu, -⟩ := h
  cases v₀ with
  | nil =>
    obtain ⟨c, u, rfl⟩ := List.exists_cons_of_ne_nil (List.length_pos_iff.1 hu.pos)
    exact ⟨c, _, rfl, .inr (hu.decimal c List.mem_cons_self)⟩
  | cons c v₀ => exact ⟨c, _, rfl, .inl (h₀ c List.mem_cons_self)⟩

theorem head_of_wordForm (h : WordForm s u sign d) :
    ∃ c r, s = c :: r ∧ (isBlank c ∨ isLetter 'b' c) := by
  obtain @⟨v₀, w, v₁, u, v₂, sign, d, v₃, h₀, hw, -⟩ := h
  cases v₀ with
  | nil =>
    obtain ⟨hb, -, -, -⟩ := hw
    exact ⟨_, _, rfl, .inr hb⟩
  | cons c v₀ => exact ⟨c, _, rfl, .inl (h₀ c List.mem_cons_self)⟩

/-- A text that starts with a sign does not name its base. -/
theorem explicitBase?_of_sign (hsign : IsSigns sign) (hne : sign ≠ []) :
    explicitBase? (sign ++ body) = none := by
  rw [Option.eq_none_iff_forall_ne_some]
  rintro ⟨w, u, d⟩ h
  have hsigns : ∀ c ∈ ['+', '-'], isBlank c = false ∧ isDecimal c = false ∧
      isLetter 'b' c = false := by
    decide
  obtain ⟨c, hc, r, hr⟩ : ∃ c ∈ ['+', '-'], ∃ r, sign ++ body = c :: r := by
    rcases hsign.cases with rfl | rfl | rfl
    · exact absurd rfl hne
    · exact ⟨'+', by simp, body, rfl⟩
    · exact ⟨'-', by simp, body, rfl⟩
  obtain ⟨hblank, hdecimal, hletter⟩ := hsigns c hc
  rw [hr] at h
  obtain ⟨sign, d, -, ⟨-, hform⟩ | ⟨-, hform⟩⟩ := explicitBase?_eq_some.1 h
  · obtain ⟨e, t, heq, he⟩ := head_of_hashForm hform
    cases heq
    simp [hblank, hdecimal] at he
  · obtain ⟨e, t, heq, he⟩ := head_of_wordForm hform
    cases heq
    simp [hblank, hletter] at he

/-! ## Forms without a base of their own -/

/-- A text without sign and low lines is spelled with digits that are read. -/
def IsReadable (s : Text) : Prop := ∃ w b ds, Spells s w b ds ∧ ∃ m, readDigits b.val ds = .ok m

/-- What is read of a text without a base is spelled with digits that are read. -/
theorem read_iff_of_bare (hsign : IsSigns sign) (hbare : ∀ c ∈ body, IsBareChar c) :
    (∃ n, Numeral.read (sign ++ body) = .ok n) ↔ IsReadable (plain body) := by
  constructor
  · rintro ⟨n, h⟩
    have htrim := Text.trim_eq_self (isBlank_of_mem_sign_append hsign fun c hc =>
      (hbare c hc).not_blank)
    have hbreak : Text.withoutLastBreak (plain body) = plain body :=
      Text.withoutLastBreak_eq_self fun hmem =>
        absurd (hbare _ (mem_plain.1 hmem).1).not_blank (by decide)
    rw [Numeral.read, explicitBase?_append hsign hbare] at h
    dsimp only at h
    rw [readBare_append hsign htrim fun c hc => (hbare c (List.mem_of_mem_head? hc)).not_sign] at h
    split at h
    · rename_i w b ds hspelled
      obtain ⟨m, hread, -⟩ := exists_of_map_eq_ok h
      exact ⟨w, b, ds, (spelledDigits?_eq_some hbreak).1 hspelled, m, hread⟩
    · cases h
  · rintro ⟨w, b, ds, hspells, m, hread⟩
    rw [read_of_spells hsign hbare hspells, hread]
    exact ⟨_, rfl⟩

theorem isReadable_of_spells (h : Spells s w b ds) (hne : ds ≠ [])
    (hds : ∀ c ∈ ds, isDigitBelow b.val c) : IsReadable s :=
  ⟨w, b, ds, h, _, Radix.readDigits_eq_placeValue hne hds⟩

/-- Figures are always read. -/
theorem isReadable_of_figures (hne : s ≠ []) (h : ∀ c ∈ s, c.isDigit) : IsReadable s := by
  have hten : ∀ c ∈ s, isDigitBelow 10 c := fun c hc => isDigitBelow_of_isDigit (h c hc)
  cases hzero : hasLeadingZero s with
  | true =>
    exact isReadable_of_spells (.leadingZero hzero) hne fun c hc =>
      Radix.isDigitBelow_mono (by decide) (hten c hc)
  | false => exact isReadable_of_spells (.decimal hne h hzero) hne hten

/-- Hexadecimal digits that show no mark are read, as binary ones where they end with their
letter. -/
theorem isReadable_of_hexadecimal (h : ∀ c ∈ s, isDigitBelow 16 c)
    (hletter : ∃ c ∈ s, c.isDigit = false) (hmark : markedBase? s = none) : IsReadable s := by
  cases hsuffix : splitSuffix? s with
  | some parts =>
    obtain ⟨b, ds⟩ := parts
    obtain ⟨l, c, hm, rfl, hc, hne, hds⟩ := splitSuffix?_eq_some.1 hsuffix
    exact isReadable_of_spells (.suffixed hm hc hne hds hmark) hne hds
  | none =>
    have hne : s ≠ [] := by
      obtain ⟨c, hc, -⟩ := hletter
      exact List.ne_nil_of_mem hc
    exact isReadable_of_spells (.bareHex h hletter hmark hsuffix) hne h

/-- What is spelled with a mark is read as the digits behind it. -/
theorem mark_of_spells (h : Spells s w b ds) {b' : Base} (hmark : markedBase? s = some b') :
    b' = b ∧ ds = s.drop 2 := by
  cases h with
  | leadingZero h =>
    rw [markedBase?_eq_none (isDigit_of_hasLeadingZero h)] at hmark
    cases hmark
  | @marked l c b r hm hc =>
    rw [markedBase?_eq_some.2 ⟨l, c, ds, hm, rfl, hc⟩] at hmark
    exact ⟨(Option.some.inj hmark).symm, rfl⟩
  | suffixed hm hc hne hds hnone =>
    rw [hnone] at hmark
    cases hmark
  | decimal hne h hzero =>
    rw [markedBase?_eq_none h] at hmark
    cases hmark
  | bareHex h hletter hnone hsuffix =>
    rw [hnone] at hmark
    cases hmark

/-- The letters behind hexadecimal and octal digits are no digits themselves. -/
theorem isDigitBelow_lone (hl : l = 'h' ∨ l = 'o') (hc : isLetter l c) :
    isDigitBelow 16 c = false := by
  rcases hl with rfl | rfl
  · rw [isDigitBelow_of_isLetter (by decide) hc]
    decide
  · rw [isDigitBelow_of_isLetter (by decide) hc]
    decide

theorem not_spells_of_lone (hl : l = 'h' ∨ l = 'o') (hc : isLetter l c) (h : Spells [c] w b ds) :
    False := by
  have hhex := isDigitBelow_lone hl hc
  generalize hs : [c] = s at h
  cases h with
  | leadingZero h =>
    obtain ⟨a, r, rfl, -⟩ := hasLeadingZero_iff.1 h
    cases hs
  | marked hm he => cases hs
  | suffixed hm he hne hds hmark =>
    exact hne (by simpa using congrArg List.length hs)
  | decimal hne h hzero =>
    subst hs
    have := isDigitBelow_of_isDigit (h c (List.mem_singleton_self c))
    simp [Radix.isDigitBelow_mono (by decide : 10 ≤ 16) this] at hhex
  | bareHex h hletter hmark hsuffix =>
    subst hs
    simp [h c (List.mem_singleton_self c)] at hhex

theorem not_unread_of_spells {m : Nat} (h : Spells s w b ds) (hread : readDigits b.val ds = .ok m) :
    ¬ Unread s := by
  rintro (rfl | ⟨hl, hc, rfl⟩ | ⟨hmark, hrest⟩)
  · generalize hs : ([] : Text) = s at h
    cases h with
    | leadingZero h =>
      subst hs
      cases h
    | marked hm he => cases hs
    | suffixed hm he hne hds hmark =>
      simp at hs
    | decimal hne h hzero => exact hne hs.symm
    | bareHex h hletter hmark hsuffix =>
      subst hs
      simp at hletter
  · exact not_spells_of_lone hl hc h
  · obtain ⟨rfl, rfl⟩ := mark_of_spells h hmark
    obtain ⟨l, c, r, hm, rfl, hc⟩ := markedBase?_eq_some.1 hmark
    obtain ⟨hne, hds⟩ := Radix.isDigitBelow_of_readDigits (isAffix_of_mark hm).le_sixteen hread
    rcases hrest with hnil | ⟨e, he, hout⟩
    · exact hne hnil
    · simp [hds e he] at hout

/-- A text with a mark is read unless nothing, or a character that is no digit, is behind it. -/
theorem isReadable_of_mark (hmark : markedBase? s = some b) (hread : ¬ Unread s) :
    IsReadable s := by
  obtain ⟨l, c, r, hm, rfl, hc⟩ := markedBase?_eq_some.1 hmark
  refine isReadable_of_spells (.marked hm hc) (fun hnil => hread (.mark hmark (.inl hnil))) ?_
  intro d hd
  by_contra hout
  exact hread (.mark hmark (.inr ⟨d, hd, by simpa using hout⟩))

/-- A lone letter of a base is read only if it is a digit itself. -/
theorem isReadable_of_lone (hm : (l, b) ∈ suffixes) (hc : isLetter l c) (hread : ¬ Unread [c])
    (hmark : markedBase? [c] = none) : IsReadable [c] := by
  obtain rfl : l = 'b' := by
    by_contra hb
    have : ∀ m ∈ suffixes, m.1 ≠ 'b' → m.1 = 'h' ∨ m.1 = 'o' := by decide
    exact hread (.letter (this _ hm hb) hc rfl)
  refine isReadable_of_hexadecimal ?_
    ⟨c, List.mem_singleton_self c, not_isDigit_of_isLetter (by decide) hc⟩ hmark
  intro d hd
  obtain rfl := List.mem_singleton.1 hd
  rw [isDigitBelow_of_isLetter (by decide) hc]
  decide

/-- Digits with the letter of their base behind them are read, if they show no mark. -/
theorem isReadable_of_suffix (hm : (l, b) ∈ suffixes) (hc : isLetter l c)
    (hds : ∀ d ∈ ds, isDigitBelow b.val d) (hread : ¬ Unread (ds ++ [c]))
    (hmark : markedBase? (ds ++ [c]) = none) : IsReadable (ds ++ [c]) := by
  by_cases hnil : ds = []
  · subst hnil
    exact isReadable_of_lone hm hc hread hmark
  · exact isReadable_of_spells (.suffixed hm hc hnil hds hmark) hnil hds

theorem isDigitBelow_of_mem_plain {bound : Nat} (hs : ∀ c ∈ s, isRunOf bound c) :
    ∀ c ∈ plain s, isDigitBelow bound c := by
  intro c hc
  obtain ⟨hmem, hline⟩ := mem_plain.1 hc
  simpa [isRunOf, hline] using hs c hmem

/-- Behind its sign a form without a base is read unless no rule reads it. -/
theorem isReadable_of_form (h : Form body) (hbare : ∀ c ∈ body, IsBareChar c)
    (hread : ¬ Unread (plain body)) : IsReadable (plain body) := by
  have hne : plain body ≠ [] := fun hnil => hread (.lines hnil)
  cases hmark : markedBase? (plain body) with
  | some b => exact isReadable_of_mark hmark hread
  | none =>
    cases h with
    | @marked l c b r hm hc hner hr =>
      rw [plain_cons_of_ne (by decide),
        plain_cons_of_ne (ne_line_of_isLetter (isAffix_of_mark hm).mem hc),
        markedBase?_eq_some.2 ⟨l, c, _, hm, rfl, hc⟩] at hmark
      cases hmark
    | figures hc hr =>
      refine isReadable_of_figures hne fun e he => ?_
      obtain ⟨hmem, hline⟩ := mem_plain.1 he
      rcases List.mem_cons.1 hmem with rfl | hmem
      · exact hc
      · simpa [isFigureOrLine, hline] using hr e hmem
    | @suffixed l c b r hm hc hner hr =>
      rw [plain_concat_of_ne (ne_line_of_isLetter (isAffix_of_suffix hm).mem hc)] at hread hmark ⊢
      exact isReadable_of_suffix hm hc (isDigitBelow_of_mem_plain hr) hread hmark
    | hash hu hned hd => exact absurd rfl (hbare '#' (by simp)).ne_hash
    | word hw h₁ hu hne₂ h₂ hned hd =>
      obtain @⟨b, a, l, e, -, -, hl, -⟩ := hw
      have := (hbare l (by simp)).not_letter
      simp [hl] at this
    | hexRun hr hletter =>
      obtain ⟨c, hc, hhex, hdigit⟩ := hletter
      have hline : c ≠ '_' := by
        rintro rfl
        exact absurd hhex (by decide)
      exact isReadable_of_hexadecimal (isDigitBelow_of_mem_plain hr)
        ⟨c, mem_plain.2 ⟨hc, hline⟩, hdigit⟩ hmark
    | octalRun hneb hr =>
      refine isReadable_of_figures hne fun e he => ?_
      exact isDigit_of_isDigitBelow
        (Radix.isDigitBelow_mono (by decide) (isDigitBelow_of_mem_plain hr e he))

/-! ## The three kinds of forms -/

theorem convertible_iff_of_bare (hs : Text.IsTrimmed (sign ++ body)) (hsign : IsSigns sign)
    (h : Form body) (hbare : ∀ c ∈ body, IsBareChar c) :
    Convertible (sign ++ body) ↔ ¬ Misread (sign ++ body) := by
  have hsplit := splitSign_append hsign h.not_isSign
  have hnone := explicitBase?_append hsign hbare
  have hbody : explicitBase? ([] ++ body) = none := explicitBase?_append isSigns_nil hbare
  rw [List.nil_append] at hbody
  have hread : (∃ n, Numeral.read (sign ++ body) = .ok n) ↔ ¬ Unread (plain body) := by
    rw [read_iff_of_bare hsign hbare]
    constructor
    · rintro ⟨w, b, ds, hspells, m, hread⟩
      exact not_unread_of_spells hspells hread
    · exact isReadable_of_form h hbare
  rw [convertible_iff hs (h.splitSeparator?_eq_none hsign), hread]
  constructor
  · rintro (hread | ⟨w, u, d, hexplicit, -⟩)
    · rintro (hunread | ⟨-, hsome⟩ | ⟨hexplicit, -⟩ | ⟨hhash, -⟩)
      · rw [hsplit] at hunread
        exact hread hunread
      · rw [hsplit, hbody] at hsome
        cases hsome
      · rw [hnone] at hexplicit
        cases hexplicit
      · rcases List.mem_append.1 hhash with hmem | hmem
        · exact absurd (hsign.sign _ hmem) (by decide)
        · exact (hbare _ hmem).ne_hash rfl
    · rw [hnone] at hexplicit
      cases hexplicit
  · exact fun hnot => .inl fun hunread => hnot (.unread (hsplit.symm ▸ hunread))

/-- A text that names its base converts, or one of its digits is at fault, if there are any. -/
theorem convertible_of_explicitBase (hs : Text.IsTrimmed s) (hsep : splitSeparator? s = none)
    (h : explicitBase? s = some (w, u, d)) {k : Nat → Numeral}
    (hread : Numeral.read s = (readDigits (Base.clamp (decimalValue u)).val (plain d)).map k) :
    Convertible s ↔ plain d ≠ [] := by
  rw [convertible_iff hs hsep, hread]
  constructor
  · rintro (⟨n, hn⟩ | ⟨w', u', d', hexplicit, c, hc, -⟩)
    · obtain ⟨m, hm, -⟩ := exists_of_map_eq_ok hn
      exact (Radix.readDigits_eq_ok hm).1
    · rw [h] at hexplicit
      cases hexplicit
      rintro hnil
      rw [hnil] at hc
      exact absurd hc List.not_mem_nil
  · intro hne
    cases hdigits : readDigits (Base.clamp (decimalValue u)).val (plain d) with
    | ok m => exact .inl ⟨k m, rfl⟩
    | error f =>
      rcases Radix.readDigits_eq_error hdigits with ⟨hnil, -⟩ | ⟨c, hc, hfault, hout⟩
      · exact absurd hnil hne
      · refine .inr ⟨w, u, d, h, c, hc, hout, ?_⟩
        rw [hfault]
        rfl

/-- Where a base is named without a sign in front, only nothing behind it is misread. -/
theorem convertible_iff_of_explicitBase (hs : Text.IsTrimmed s) (hsep : splitSeparator? s = none)
    (h : explicitBase? s = some (w, u, d)) {k : Nat → Numeral}
    (hread : Numeral.read s = (readDigits (Base.clamp (decimalValue u)).val (plain d)).map k)
    (hsplit : (splitSign s).2 = s) (hunread : ¬ Unread (plain s))
    (hfolded : '#' ∈ s → ¬ ∃ c ∈ s, (Text.folded? c).isSome) : Convertible s ↔ ¬ Misread s := by
  rw [convertible_of_explicitBase hs hsep h hread]
  constructor
  · rintro hplain (hunread' | ⟨hsplit', -⟩ | ⟨hexplicit, hnone⟩ | ⟨hhash, hfolded'⟩)
    · rw [hsplit] at hunread'
      exact hunread hunread'
    · exact hsplit' hsplit
    · rw [h] at hexplicit
      cases hexplicit
      exact hplain hnone
    · exact hfolded hhash hfolded'
  · exact fun hnot hplain => hnot (.digits h hplain)

/-- A form that does not name a base, with a character that stands only where one is named. -/
theorem not_convertible_of_mem (hs : Text.IsTrimmed (sign ++ body)) (hsign : IsSigns sign)
    (h : Form body) (hexplicit : explicitBase? (sign ++ body) = none) (hc : c ∈ plain body)
    (hbare : ¬ IsBareChar c) (hbreak : c ≠ '\n') : ¬ Convertible (sign ++ body) := by
  rw [convertible_iff hs (h.splitSeparator?_eq_none hsign), hexplicit]
  rintro (⟨n, hn⟩ | ⟨_, _, _, heq, -⟩)
  · exact not_read_of_mem hs hsign h.not_isSign hexplicit hc hbare hbreak n hn
  · cases heq

theorem misread_of_sign (hsign : IsSigns sign) (h : Form body) (hne : sign ≠ [])
    (hexplicit : (explicitBase? body).isSome) : Misread (sign ++ body) := by
  have hsplit := splitSign_append hsign h.not_isSign
  refine .sign ?_ (hsplit.symm ▸ hexplicit)
  rw [hsplit]
  exact fun hbody => hne (List.self_eq_append_left.1 hbody)

theorem folded_not_char (h : (Text.folded? c).isSome) : isBlank c = false ∧ isDecimal c = false ∧
    isSign c = false ∧ isDigitChar c = false ∧ c ≠ '#' := by
  have all : ∀ c ∈ Text.foldedChars, isBlank c = false ∧ isSign c = false ∧
      isDigitChar c = false ∧ c ≠ '#' := by
    decide
  obtain ⟨hblank, hsign, hdigit, hhash⟩ := all c (Text.mem_foldedChars h)
  exact ⟨hblank, Text.not_isDecimal_of_mem (.inr h), hsign, hdigit, hhash⟩

/-- No character in front of a hash or behind it stands for a letter beyond its own script. -/
theorem not_folded_of_hashForm (h : HashForm s u sign d) : ¬ ∃ c ∈ s, (Text.folded? c).isSome := by
  rintro ⟨c, hc, hfold⟩
  obtain ⟨hblank, hdecimal, hsign', hdigit, hhash⟩ := folded_not_char hfold
  obtain ⟨h₀, hu, h₁, h₂, hsign, -, hd, h₃⟩ := h
  simp only [List.mem_append, List.mem_cons] at hc
  rcases hc with hc | hc | hc | hc | hc | hc | hc | hc
  · simp [h₀ c hc] at hblank
  · simp [hu.decimal c hc] at hdecimal
  · simp [h₁ c hc] at hblank
  · exact hhash hc
  · simp [h₂ c hc] at hblank
  · simp [hsign.sign c hc] at hsign'
  · simp [hd c hc] at hdigit
  · simp [h₃ c hc] at hblank

theorem not_isDecimal_of_isLetter (hl : l ∈ affixes) (hc : isLetter l c) : isDecimal c = false :=
  Text.ascii_induction (P := fun c => ∀ l ∈ affixes, isLetter l c → isDecimal c = false)
    (by decide +kernel) (toNat_lt_of_isLetter hl hc) l hl hc

theorem plain_of_isRadix (hu : IsRadix u) : plain u = u := by
  refine List.filter_eq_self.2 fun c hc => ?_
  rw [bne_iff_ne]
  rintro rfl
  exact absurd (hu.decimal _ hc) (by decide)

/-- Digits in front of a hash are no mark. -/
theorem not_unread_of_hash (hu : IsRadix u) : ¬ Unread (u ++ '#' :: d) := by
  rintro (h | ⟨-, -, h⟩ | ⟨hmark, -⟩)
  · simp at h
  · have := congrArg List.length h
    have := hu.pos
    simp at *
    omega
  · obtain ⟨l, c, r, hm, heq, hc⟩ := markedBase?_eq_some.1 hmark
    have hl := (isAffix_of_mark hm).mem
    obtain _ | ⟨x, _ | ⟨y, t⟩⟩ := u
    · exact absurd hu.pos (by decide)
    · obtain ⟨-, rfl, -⟩ : '0' = x ∧ c = '#' ∧ r = d := by simpa [eq_comm] using heq
      exact (isBareChar_of_isLetter hl hc).ne_hash rfl
    · obtain ⟨-, rfl, -⟩ : '0' = x ∧ c = y ∧ r = t ++ '#' :: d := by simpa [eq_comm] using heq
      have := hu.decimal c (by simp)
      simp [not_isDecimal_of_isLetter hl hc] at this

/-- A character beyond ASCII is not read behind a hash. -/
theorem explicitBase?_of_folded (hhash : '#' ∈ s) (h : ∃ c ∈ s, (Text.folded? c).isSome) :
    explicitBase? s = none := by
  rw [Option.eq_none_iff_forall_ne_some]
  rintro ⟨w, u, d⟩ hexplicit
  obtain ⟨sign, e, -, ⟨-, hform⟩ | ⟨-, hword⟩⟩ := explicitBase?_eq_some.1 hexplicit
  · exact not_folded_of_hashForm hform h
  · exact hword.hash_notMem hhash

theorem convertible_iff_of_hash (hs : Text.IsTrimmed (sign ++ (u ++ '#' :: d)))
    (hsign : IsSigns sign) (hu : IsRadix u) (hne : d ≠ []) (hd : ∀ c ∈ d, isCaselessDigitChar c) :
    Convertible (sign ++ (u ++ '#' :: d)) ↔ ¬ Misread (sign ++ (u ++ '#' :: d)) := by
  have hform : Form (u ++ '#' :: d) := .hash hu hne hd
  have hmem : '#' ∈ plain (u ++ '#' :: d) := mem_plain.2 ⟨by simp, by decide⟩
  have hfails : explicitBase? (sign ++ (u ++ '#' :: d)) = none →
      ¬ Convertible (sign ++ (u ++ '#' :: d)) := fun hexplicit =>
    not_convertible_of_mem hs hsign hform hexplicit hmem (by decide) (by decide)
  by_cases hfold : ∃ c ∈ d, (Text.folded? c).isSome
  · have hfold' : ∃ c ∈ sign ++ (u ++ '#' :: d), (Text.folded? c).isSome :=
      hfold.imp fun c hc => ⟨by simp [hc.1], hc.2⟩
    exact iff_of_false (hfails (explicitBase?_of_folded (by simp) hfold'))
      (not_not.2 (.folded (by simp) hfold'))
  have hdigits : ∀ c ∈ d, isDigitChar c := by
    intro c hc
    have := hd c hc
    rw [isCaselessDigitChar, Bool.or_eq_true] at this
    exact this.resolve_right fun h => hfold ⟨c, hc, h⟩
  have hhash : HashForm (u ++ '#' :: d) u [] d := .ofDigits hu hne hdigits
  by_cases hnil : sign = []
  · subst hnil
    refine convertible_iff_of_explicitBase hs (hform.splitSeparator?_eq_none hsign)
      hhash.explicitBase?_eq hhash.read_eq (splitSign_append hsign hform.not_isSign) ?_
      fun _ => not_folded_of_hashForm hhash
    rw [List.nil_append, plain_append, plain_of_isRadix hu, plain_cons_of_ne (by decide)]
    exact not_unread_of_hash hu
  · exact iff_of_false (hfails (explicitBase?_of_sign hsign hnil))
      (not_not.2 (misread_of_sign hsign hform hnil (by rw [hhash.explicitBase?_eq]; rfl)))

theorem letter_mem_of_wordForm (h : WordForm s u sign d) : ∃ c ∈ plain s, isLetter 's' c := by
  obtain ⟨-, hw, -, -, -, -, -, -, -, -⟩ := h
  obtain @⟨b, a, l, e, -, -, hl, -⟩ := hw
  have hline : l ≠ '_' := by
    rintro rfl
    exact absurd hl (by decide)
  exact ⟨l, mem_plain.2 ⟨by simp, hline⟩, hl⟩

/-- The word is no mark. -/
theorem not_unread_of_word (h : WordForm s u sign d) : ¬ Unread (plain s) := by
  obtain ⟨c, hc, hletter⟩ := letter_mem_of_wordForm h
  rintro (hnil | ⟨hl, he, hlone⟩ | ⟨hmark, -⟩)
  · rw [hnil] at hc
    cases hc
  · rw [hlone] at hc
    obtain rfl := List.mem_singleton.1 hc
    have := (isBareChar_of_isLetter (by rcases hl with rfl | rfl <;> decide) he).not_letter
    simp [hletter] at this
  · obtain ⟨l, e, r, -, heq, -⟩ := markedBase?_eq_some.1 hmark
    obtain ⟨a, t, rfl, ha⟩ := head_of_wordForm h
    have hchars : ∀ x ∈ ['0', '_'], isBlank x = false ∧ isLetter 'b' x = false := by decide
    have hne : ∀ x ∈ ['0', '_'], a ≠ x := by
      rintro x hx rfl
      obtain ⟨hblank, hletter⟩ := hchars a hx
      simp [hblank, hletter] at ha
    rw [plain_cons_of_ne (hne '_' (by simp))] at heq
    exact hne '0' (by simp) (List.cons.inj heq).1

theorem convertible_iff_of_word (hs : Text.IsTrimmed (sign ++ body)) (hsign : IsSigns sign)
    (h : Form body) (hword : WordForm body u [] d) :
    Convertible (sign ++ body) ↔ ¬ Misread (sign ++ body) := by
  by_cases hnil : sign = []
  · subst hnil
    exact convertible_iff_of_explicitBase hs (h.splitSeparator?_eq_none hsign)
      hword.explicitBase?_eq hword.read_eq (splitSign_append hsign h.not_isSign)
      (not_unread_of_word hword) fun hhash => absurd hhash hword.hash_notMem
  · obtain ⟨c, hc, hletter⟩ := letter_mem_of_wordForm hword
    have hbare : ¬ IsBareChar c := fun hbare => by
      have := hbare.not_letter
      simp [hletter] at this
    have hbreak : c ≠ '\n' := by
      rintro rfl
      exact absurd hletter (by decide)
    exact iff_of_false
      (not_convertible_of_mem hs hsign h (explicitBase?_of_sign hsign hnil) hc hbare hbreak)
      (not_not.2 (misread_of_sign hsign h hnil (by rw [hword.explicitBase?_eq]; rfl)))

/-! ## Soundness -/

/-- A text that is taken for a numeral by its form converts, or a digit behind the base that it
names is at fault, unless it is written in one of the ways that are misread. -/
theorem convertible_iff_not_misread {text : Text} {cfg : Limits} {r : Reason}
    (h : classify cfg (Text.trim text) = .ok r) (hkind : r.kind = .numeral)
    (htarget : r ≠ .targetTag) : Convertible (Text.trim text) ↔ ¬ Misread (Text.trim text) := by
  have hs := Text.isTrimmed_trim text
  obtain ⟨sign, body, heq, hsign, hform⟩ :=
    (isNumeralForm_iff hs).1 (isNumeralForm_of_classify h hkind htarget)
  rw [heq] at hs ⊢
  rcases hform.bare_or_named with hbare | ⟨u, d, rfl, hu, hne, hd⟩ | ⟨-, u, d, -, hword, -⟩
  · exact convertible_iff_of_bare hs hsign hform fun c hc => (hbare c hc).isBareChar
  · exact convertible_iff_of_hash hs hsign hu hne hd
  · exact convertible_iff_of_word hs hsign hform hword

/-- A text that names base two with a digit behind it that is none of the base. -/
theorem convertible_digitAtFault :
    classify {} (Text.trim " 2#1_2 ".toList) = .ok .explicitForm ∧
    Reason.explicitForm.kind = .numeral ∧ Reason.explicitForm ≠ .targetTag ∧
    ¬ Misread (Text.trim " 2#1_2 ".toList) ∧
    (∀ c, Conversion.ofText (Text.trim " 2#1_2 ".toList) ≠ .ok c) ∧
    Convertible (Text.trim " 2#1_2 ".toList) := by
  have hclassify : classify {} (Text.trim " 2#1_2 ".toList) = .ok .explicitForm := rfl
  have hne : Reason.explicitForm ≠ .targetTag := nofun
  have htrim : Text.trim " 2#1_2 ".toList = "2#1_2".toList := rfl
  have hnot : ¬ Misread (Text.trim " 2#1_2 ".toList) := by
    rw [htrim]
    rintro ((h | ⟨-, -, h⟩ | ⟨h, -⟩) | ⟨h, -⟩ | ⟨h, hd⟩ | ⟨-, h⟩)
    · cases h
    · cases h
    · cases h
    · exact h rfl
    · cases h
      cases hd
    · revert h
      decide
  refine ⟨hclassify, rfl, hne, hnot, ?_, (convertible_iff_not_misread hclassify rfl hne).2 hnot⟩
  intro c h
  cases h

/-- A sign in front of a base fits the form of a numeral, and no way of writing describes it. -/
theorem not_convertible_signBeforeBase :
    classify {} (Text.trim "+16#ff".toList) = .ok .explicitForm ∧
    Reason.explicitForm.kind = .numeral ∧
    Conversion.ofText (Text.trim "+16#ff".toList) =
      .error (.numeral (.unrecognized "+16#ff".toList)) ∧
    ¬ Convertible (Text.trim "+16#ff".toList) := by
  have herror : Conversion.ofText (Text.trim "+16#ff".toList) =
      .error (.numeral (.unrecognized "+16#ff".toList)) := rfl
  refine ⟨rfl, rfl, herror, ?_⟩
  rintro (⟨c, hc⟩ | ⟨w, u, d, -, c, -, -, hc⟩)
  · rw [herror] at hc
    cases hc
  · rw [herror] at hc
    cases hc

end Abacus.Classification
