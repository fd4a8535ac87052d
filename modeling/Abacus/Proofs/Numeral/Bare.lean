import Abacus.Proofs.Numeral.Canonical
import Abacus.Proofs.Numeral.Explicit
import Abacus.Proofs.Radix.Reading
import Mathlib.Data.List.Basic

/-!
# Numerals that do not name their base

Without its sign and its low lines such a text is spelled in exactly one of five ways, and each way
says what the digits are and in which base they are read.  A mark in front is looked for before a
letter behind, so a text that shows both is taken for a marked one.
-/

namespace Abacus.Numeral

open Radix (isDigitBelow readDigits signed)
open Text (isBlank isLetter)

variable {s body sign ds : Text} {l c : Char} {b : Base} {w : Spelling}

/-! ## Signs -/

/-- An optional sign is split off a text that starts with none. -/
theorem splitSigns_append (hsign : IsSigns sign) (h : ∀ c, body.head? = some c → isSign c = false) :
    splitSigns (sign ++ body) = (sign == ['-'], body) := by
  have hne : ∀ c r, body = c :: r → c ≠ '+' ∧ c ≠ '-' := by
    rintro c r rfl
    have hc := h c rfl
    rw [isSign, Bool.or_eq_false_iff, beq_eq_false_iff_ne, beq_eq_false_iff_ne] at hc
    exact hc
  cases body with
  | nil => rcases hsign.cases with rfl | rfl | rfl <;> rfl
  | cons c r =>
    obtain ⟨hplus, hminus⟩ := hne c r rfl
    rcases hsign.cases with rfl | rfl | rfl <;> simp [splitSigns, hplus, hminus]

/-! ## Marks and letters -/

/-- The letters of the marks, with their bases. -/
def marks : List (Char × Base) := [('x', .sixteen), ('b', .two), ('o', .eight)]

/-- The letters that stand in front of digits or behind them. -/
def affixes : List Char := ['x', 'b', 'o', 'h']

/-- A letter in front of digits or behind them, and the base that it names. -/
structure IsAffix (l : Char) (b : Base) : Prop where
  mem : l ∈ affixes
  unfolded : l ∉ ['s', 'k', 'i']
  alpha : l.isAlpha
  lower : l.toLower = l
  le_sixteen : b.val ≤ 16
  binary : b = .two ↔ l = 'b'

instance (l : Char) (b : Base) : Decidable (IsAffix l b) :=
  decidable_of_iff (l ∈ affixes ∧ l ∉ ['s', 'k', 'i'] ∧ l.isAlpha ∧ l.toLower = l ∧ b.val ≤ 16 ∧
      (b = .two ↔ l = 'b'))
    ⟨fun ⟨hmem, hfolded, halpha, hlower, hb, hbinary⟩ =>
        ⟨hmem, hfolded, halpha, hlower, hb, hbinary⟩,
      fun h => ⟨h.mem, h.unfolded, h.alpha, h.lower, h.le_sixteen, h.binary⟩⟩

theorem isAffix_of_mem : ∀ m ∈ marks ++ suffixes, IsAffix m.1 m.2 := by decide

theorem isAffix_of_mark (hm : (l, b) ∈ marks) : IsAffix l b :=
  isAffix_of_mem _ (List.mem_append_left _ hm)

theorem isAffix_of_suffix (hm : (l, b) ∈ suffixes) : IsAffix l b :=
  isAffix_of_mem _ (List.mem_append_right _ hm)

/-- A letter in front of digits or behind them is no low line. -/
theorem ne_line_of_isLetter (hl : l ∈ affixes) (hc : isLetter l c) : c ≠ '_' := by
  have hline : ∀ l ∈ affixes, isLetter l '_' = false := by decide
  rintro rfl
  simp [hline l hl] at hc

theorem not_isDigit_of_isLetter (hl : l.isAlpha) (hc : isLetter l c) : c.isDigit = false := by
  rw [Bool.eq_false_iff]
  intro hdigit
  simp [Text.isLetter_of_isDigit hl hdigit] at hc

theorem toNat_lt_of_toLower (hl : c.toLower.toNat < 128) : c.toNat < 128 := by
  by_contra hc
  rw [Text.toLower_of_le (Nat.le_of_not_lt hc)] at hl
  exact hc hl

theorem toNat_lt_of_isLetter (hl : l ∈ affixes) (hc : isLetter l c) : c.toNat < 128 := by
  have hlower : ∀ l ∈ affixes, l ∉ ['s', 'k', 'i'] ∧ l.toNat < 128 := by decide
  refine toNat_lt_of_toLower ?_
  rw [(Text.isLetter_iff (hlower l hl).1).1 hc]
  exact (hlower l hl).2

/-- The two cases of a letter. -/
theorem cases_of_isLetter (hl : l ∉ ['s', 'k', 'i']) (hlt : l.toNat < 128) (hc : isLetter l c) :
    c = l ∨ c = l.toUpper := by
  have hlower : c.toLower = l := (Text.isLetter_iff hl).1 hc
  rw [← hlower] at hlt ⊢
  exact Text.ascii_induction (P := fun c => c = c.toLower ∨ c = c.toLower.toUpper)
    (by decide +kernel) (toNat_lt_of_toLower hlt)

theorem IsAffix.cases (h : IsAffix l b) (hc : isLetter l c) : c = l ∨ c = l.toUpper :=
  cases_of_isLetter h.unfolded (Text.toNat_lt_of_isAlpha h.alpha) hc

/-- A text starts with a zero and a letter in either case. -/
theorem lower_take_two (hl : ¬ Text.IsForeign l) :
    Text.lower (s.take 2) = ['0', l] ↔ ∃ c r, s = '0' :: c :: r ∧ c.toLower = l := by
  have hlt : l.toNat < 128 := Nat.lt_of_not_le fun hle => hl (.inl hle)
  constructor
  · intro h
    have hascii : ∀ c ∈ s.take 2, c.toNat < 128 := by
      refine Text.toNat_lt_of_lower ?_
      rw [h]
      rintro d hd hforeign
      rcases List.mem_cons.1 hd with rfl | hd
      · exact absurd hforeign (by decide)
      · obtain rfl := List.mem_singleton.1 hd
        exact hl hforeign
    rw [Text.lower_eq_map hascii] at h
    obtain _ | ⟨a, _ | ⟨c, r⟩⟩ := s
    · simp at h
    · simp at h
    · simp only [List.take_succ_cons, List.take_zero, List.map_cons, List.map_nil,
        List.cons.injEq, and_true] at h
      exact ⟨c, r, by rw [(Text.toLower_eq_iff rfl).1 h.1], h.2⟩
  · rintro ⟨c, r, rfl, rfl⟩
    refine (Text.lower_eq_map ?_).trans rfl
    intro d hd
    rcases List.mem_cons.1 hd with rfl | hd
    · decide
    · obtain rfl := List.mem_singleton.1 hd
      exact toNat_lt_of_toLower hlt

/-- A mark is a zero and the letter of a base in either case. -/
theorem markedBase?_eq_some : markedBase? s = some b ↔
    ∃ l c r, (l, b) ∈ marks ∧ s = '0' :: c :: r ∧ isLetter l c := by
  have htake : ∀ m ∈ marks, Text.lower (s.take 2) = ['0', m.1] ↔
      ∃ c r, s = '0' :: c :: r ∧ isLetter m.1 c := by
    intro m hm
    have hnative : ∀ m ∈ marks, ¬ Text.IsForeign m.1 := by decide
    simp only [lower_take_two (hnative m hm), Text.isLetter_iff (isAffix_of_mark hm).unfolded]
  have hx := htake ('x', .sixteen) (by decide)
  have hb := htake ('b', .two) (by decide)
  have ho := htake ('o', .eight) (by decide)
  constructor
  · intro h
    rw [markedBase?] at h
    split at h
    · rename_i hshape
      obtain ⟨c, r, rfl, hc⟩ := hx.1 hshape
      cases h
      exact ⟨'x', c, r, by decide, rfl, hc⟩
    split at h
    · rename_i hshape
      obtain ⟨c, r, rfl, hc⟩ := hb.1 hshape
      cases h
      exact ⟨'b', c, r, by decide, rfl, hc⟩
    split at h
    · rename_i hshape
      obtain ⟨c, r, rfl, hc⟩ := ho.1 hshape
      cases h
      exact ⟨'o', c, r, by decide, rfl, hc⟩
    · cases h
  · rintro ⟨l, c, r, hm, rfl, hc⟩
    have hlower := (htake (l, b) hm).2 ⟨c, r, rfl, hc⟩
    rw [markedBase?, hlower]
    simp only [marks, List.mem_cons, List.not_mem_nil, or_false, Prod.mk.injEq] at hm
    rcases hm with ⟨rfl, rfl⟩ | ⟨rfl, rfl⟩ | ⟨rfl, rfl⟩ <;> rfl

/-- A letter behind splits off the digits of its base. -/
theorem splitSuffix?_eq_some : splitSuffix? s = some (b, ds) ↔
    ∃ l c, (l, b) ∈ suffixes ∧ s = ds ++ [c] ∧ isLetter l c ∧ ds ≠ [] ∧
      ∀ d ∈ ds, isDigitBelow b.val d := by
  constructor
  · intro h
    obtain ⟨⟨l, b'⟩, hm, h⟩ := List.exists_of_findSome?_eq_some h
    dsimp only at h
    split at h
    · rename_i c hc
      split at h
      · rename_i hand
        cases h
        simp only [Bool.and_eq_true, Bool.not_eq_true', List.isEmpty_eq_false_iff,
          List.all_eq_true] at hand
        exact ⟨l, c, hm, (List.dropLast_append_getLast? c hc).symm, hand.1.1, hand.1.2, hand.2⟩
      · cases h
    · cases h
  · rintro ⟨l, c, hm, rfl, hc, hne, hds⟩
    -- the letter is that of one base only, so the rules before it do not apply
    have hother : ∀ m ∈ suffixes, m.1 ≠ l → isLetter m.1 c = false := by
      intro m hm' hml
      rw [Bool.eq_false_iff]
      intro hmc
      rw [Text.isLetter_iff (isAffix_of_suffix hm').unfolded] at hmc
      rw [Text.isLetter_iff (isAffix_of_suffix hm).unfolded] at hc
      exact hml (hmc.symm.trans hc)
    have hh := hother ('h', .sixteen) (by decide)
    have hb := hother ('b', .two) (by decide)
    dsimp only at hh hb
    simp only [suffixes, List.mem_cons, List.not_mem_nil, or_false, Prod.mk.injEq] at hm
    rcases hm with ⟨rfl, rfl⟩ | ⟨rfl, rfl⟩ | ⟨rfl, rfl⟩
    · simp [splitSuffix?, suffixes, hc, hne, if_pos hds]
    · simp [splitSuffix?, suffixes, hc, hne, if_pos hds, hh (by decide)]
    · simp [splitSuffix?, suffixes, hc, hne, if_pos hds, hh (by decide),
        hb (by decide)]

/-! ## Ways of writing -/

/-- How a text without sign and low lines is spelled, with the base and the digits to be read. -/
inductive Spells : Text → Spelling → Base → Text → Prop
  | leadingZero {s : Text} (h : hasLeadingZero s) : Spells s .leadingZero .sixteen s
  | marked {l c : Char} {b : Base} {r : Text} (hm : (l, b) ∈ marks) (hc : isLetter l c) :
    Spells ('0' :: c :: r) .marked b r
  | suffixed {l c : Char} {b : Base} {ds : Text} (hm : (l, b) ∈ suffixes) (hc : isLetter l c)
    (hne : ds ≠ []) (hds : ∀ d ∈ ds, isDigitBelow b.val d)
    (hmark : markedBase? (ds ++ [c]) = none) : Spells (ds ++ [c]) .suffixed b ds
  | decimal {s : Text} (hne : s ≠ []) (h : ∀ c ∈ s, c.isDigit) (hzero : hasLeadingZero s = false) :
    Spells s .decimal .ten s
  | bareHex {s : Text} (h : ∀ c ∈ s, isDigitBelow 16 c) (hletter : ∃ c ∈ s, c.isDigit = false)
    (hmark : markedBase? s = none) (hsuffix : splitSuffix? s = none) :
    Spells s .bareHex .sixteen s

theorem hasLeadingZero_iff :
    hasLeadingZero s ↔ ∃ c r, s = '0' :: c :: r ∧ ∀ d ∈ c :: r, d.isDigit := by
  unfold hasLeadingZero
  split
  · rename_i c r
    rw [List.all_eq_true]
    constructor
    · exact fun h => ⟨c, r, rfl, h⟩
    · rintro ⟨_, _, heq, h⟩
      cases heq
      exact h
  · rename_i hne
    constructor
    · nofun
    · rintro ⟨c, r, rfl, -⟩
      exact absurd rfl (hne c r)

theorem isDigit_of_hasLeadingZero (h : hasLeadingZero s) : ∀ c ∈ s, c.isDigit := by
  obtain ⟨c, r, rfl, hdigit⟩ := hasLeadingZero_iff.1 h
  intro d hd
  rcases List.mem_cons.1 hd with rfl | hd
  · decide
  · exact hdigit d hd

theorem hasLeadingZero_eq_false (hc : c ∈ s) (h : c.isDigit = false) :
    hasLeadingZero s = false := by
  rw [Bool.eq_false_iff]
  intro hzero
  simp [isDigit_of_hasLeadingZero hzero c hc] at h

theorem isBareHex_iff : isBareHex s ↔
    (∀ c ∈ s, isDigitBelow 16 c) ∧ ∃ c ∈ s, c.isDigit = false := by
  rw [isBareHex, Bool.and_eq_true, List.all_eq_true, List.any_eq_true]
  refine and_congr_right fun h => ?_
  constructor
  · rintro ⟨c, hc, hand⟩
    exact ⟨c, hc, by simpa [h c hc] using hand⟩
  · rintro ⟨c, hc, hdigit⟩
    exact ⟨c, hc, by simp [h c hc, hdigit]⟩

theorem isFigures_iff : isFigures s ↔ s ≠ [] ∧ ∀ c ∈ s, c.isDigit := by
  simp [isFigures]

theorem spells_of_spelledDigits? (hbreak : Text.withoutLastBreak s = s)
    (h : spelledDigits? s = some (w, b, ds)) :
    Spells s w b ds := by
  rw [spelledDigits?, hbreak] at h
  split at h
  · rename_i hzero
    cases h
    exact .leadingZero hzero
  rename_i hzero
  split at h
  · rename_i hmark
    cases h
    obtain ⟨l, c, r, hm, rfl, hc⟩ := markedBase?_eq_some.1 hmark
    exact .marked hm hc
  rename_i hmark
  split at h
  · rename_i hsuffix
    cases h
    obtain ⟨l, c, hm, rfl, hc, hne, hds⟩ := splitSuffix?_eq_some.1 hsuffix
    exact .suffixed hm hc hne hds hmark
  rename_i hsuffix
  split at h
  · rename_i hfigures
    cases h
    exact .decimal (isFigures_iff.1 hfigures).1 (isFigures_iff.1 hfigures).2 (by simpa using hzero)
  split at h
  · rename_i hhex
    cases h
    exact .bareHex (isBareHex_iff.1 hhex).1 (isBareHex_iff.1 hhex).2 hmark hsuffix
  · cases h

theorem spelledDigits?_of_spells (hbreak : Text.withoutLastBreak s = s) (h : Spells s w b ds) :
    spelledDigits? s = some (w, b, ds) := by
  rw [spelledDigits?, hbreak]
  cases h with
  | leadingZero h => simp [h]
  | @marked l c _ _ hm hc =>
    have hmem : c ∈ '0' :: c :: ds := List.mem_cons_of_mem '0' List.mem_cons_self
    have hzero := hasLeadingZero_eq_false hmem
      (not_isDigit_of_isLetter (isAffix_of_mark hm).alpha hc)
    have hmark := markedBase?_eq_some.2 ⟨l, c, ds, hm, rfl, hc⟩
    simp only [hzero, hmark, Bool.false_eq_true, if_false]
    rfl
  | @suffixed l c _ _ hm hc hne hds hmark =>
    have hmem : c ∈ ds ++ [c] := List.mem_append_right ds (List.mem_singleton_self c)
    have hzero := hasLeadingZero_eq_false hmem
      (not_isDigit_of_isLetter (isAffix_of_suffix hm).alpha hc)
    have hsuffix := splitSuffix?_eq_some.2 ⟨l, c, hm, rfl, hc, hne, hds⟩
    simp only [hzero, hmark, hsuffix, Bool.false_eq_true, if_false]
  | decimal hne h hzero =>
    simp only [hzero, markedBase?_eq_none h, splitSuffix?_eq_none h, isFigures_iff.2 ⟨hne, h⟩,
      Bool.false_eq_true, if_false, if_true]
  | bareHex h hletter hmark hsuffix =>
    obtain ⟨c, hc, hdigit⟩ := hletter
    have hfigures : isFigures s = false := by
      rw [Bool.eq_false_iff]
      intro hfigures
      simp [(isFigures_iff.1 hfigures).2 c hc] at hdigit
    simp only [hasLeadingZero_eq_false hc hdigit, hmark, hsuffix, hfigures,
      isBareHex_iff.2 ⟨h, c, hc, hdigit⟩, Bool.false_eq_true, if_false, if_true]

/-- A text that does not end with a line break is spelled in the way that is found first. -/
theorem spelledDigits?_eq_some (hbreak : Text.withoutLastBreak s = s) :
    spelledDigits? s = some (w, b, ds) ↔ Spells s w b ds :=
  ⟨spells_of_spelledDigits? hbreak, spelledDigits?_of_spells hbreak⟩

/-! ## What is read -/

/-- A sign and a text that starts with none, without blanks at the ends, is read as it is
spelled. -/
theorem readBare_append (hsign : IsSigns sign) (htrim : Text.trim (sign ++ body) = sign ++ body)
    (hhead : ∀ c, body.head? = some c → isSign c = false) :
    readBare (sign ++ body) = match spelledDigits? (plain body) with
      | some (w, b, ds) => (readDigits b.val ds).map fun m => ⟨signed (sign == ['-']) m, b, w, none⟩
      | none => .error (.unrecognized (sign ++ body)) := by
  rw [readBare, htrim, splitSigns_append hsign hhead]
  rfl

/-- A character that may stand in a text without a base of its own, behind its sign. -/
structure IsBareChar (c : Char) : Prop where
  ne_hash : c ≠ '#'
  not_letter : isLetter 's' c = false
  not_blank : isBlank c = false
  not_sign : isSign c = false

instance (c : Char) : Decidable (IsBareChar c) :=
  decidable_of_iff (c ≠ '#' ∧ isLetter 's' c = false ∧ isBlank c = false ∧ isSign c = false)
    ⟨fun h => ⟨h.1, h.2.1, h.2.2.1, h.2.2.2⟩, fun h => ⟨h.1, h.2, h.3, h.4⟩⟩

theorem isBareChar_of_isDigitBelow (h : isDigitBelow 16 c) : IsBareChar c :=
  Text.ascii_induction (P := fun c => isDigitBelow 16 c → IsBareChar c) (by decide +kernel)
    (Radix.toNat_lt_of_isDigitBelow h) h

theorem isBareChar_of_isLetter (hl : l ∈ affixes) (hc : isLetter l c) : IsBareChar c :=
  Text.ascii_induction (P := fun c => ∀ l ∈ affixes, isLetter l c → IsBareChar c)
    (by decide +kernel) (toNat_lt_of_isLetter hl hc) l hl hc

/-- A sign and such characters do not name a base. -/
theorem explicitBase?_append (hsign : IsSigns sign) (hbody : ∀ c ∈ body, IsBareChar c) :
    explicitBase? (sign ++ body) = none := by
  have hsigns : ∀ c ∈ sign, c ≠ '#' ∧ isLetter 's' c = false := by
    rcases hsign.cases with rfl | rfl | rfl <;> decide
  refine explicitBase?_eq_none ?_ ?_
  · intro hmem
    rcases List.mem_append.1 hmem with hmem | hmem
    · exact (hsigns _ hmem).1 rfl
    · exact (hbody _ hmem).ne_hash rfl
  · intro c hc
    rcases List.mem_append.1 hc with hc | hc
    · exact (hsigns c hc).2
    · exact (hbody c hc).not_letter

/-- A text without a base of its own is read as its digits are, with its sign. -/
theorem read_of_spells (hsign : IsSigns sign) (hbody : ∀ c ∈ body, IsBareChar c)
    (h : Spells (plain body) w b ds) :
    read (sign ++ body) =
      (readDigits b.val ds).map fun m => ⟨signed (sign == ['-']) m, b, w, none⟩ := by
  have hbreak : Text.withoutLastBreak (plain body) = plain body :=
    Text.withoutLastBreak_eq_self fun hmem =>
      absurd (hbody _ (mem_plain.1 hmem).1).not_blank (by decide)
  have htrim := Text.trim_eq_self (isBlank_of_mem_sign_append hsign fun c hc =>
    (hbody c hc).not_blank)
  have hhead : ∀ c, body.head? = some c → isSign c = false := fun c hc =>
    (hbody c (List.mem_of_mem_head? hc)).not_sign
  rw [read, explicitBase?_append hsign hbody]
  dsimp only
  rw [readBare_append hsign htrim hhead, (spelledDigits?_eq_some hbreak).2 h]

/-- What is read without a named base has been spelled in one of the ways. -/
theorem exists_spelledDigits?_of_readBare {n : Numeral} (h : readBare s = .ok n) :
    ∃ ds m, spelledDigits? (plain (splitSigns (Text.trim s)).2) = some (n.spelling, n.base, ds) ∧
      readDigits n.base.val ds = .ok m := by
  have hplain : plain (splitSigns (Text.trim s)).2 =
      (splitSigns (Text.trim s)).2.filter (· != '_') := rfl
  rw [readBare, ← hplain] at h
  cases hdigits : spelledDigits? (plain (splitSigns (Text.trim s)).2) with
  | none =>
    rw [hdigits] at h
    cases h
  | some x =>
    obtain ⟨w, b, ds⟩ := x
    rw [hdigits] at h
    dsimp only at h
    cases hm : readDigits b.val ds with
    | error f =>
      rw [hm] at h
      cases h
    | ok m =>
      rw [hm] at h
      cases h
      exact ⟨ds, m, rfl, hm⟩

/-- The letter of a mark is no line break, so a break at the end stands behind the mark. -/
theorem break_mem_drop_of_markedBase? (h : markedBase? s = some b)
    (hlast : s.getLast? = some '\n') : '\n' ∈ s.drop 2 := by
  obtain ⟨l, c, r, hm, rfl, hc⟩ := markedBase?_eq_some.1 h
  cases r with
  | nil =>
    obtain rfl : c = '\n' := by simpa using hlast
    have hnot : ∀ m ∈ marks, isLetter m.1 '\n' = false := by decide
    simp [hnot _ hm] at hc
  | cons e r =>
    rw [List.getLast?_cons_cons, List.getLast?_cons_cons] at hlast
    exact List.mem_of_getLast? hlast

theorem markedBase?_of_append {t v : Text} (h : markedBase? (t ++ v) = none) :
    markedBase? t = none := by
  rw [Option.eq_none_iff_forall_ne_some] at h ⊢
  intro b hb
  obtain ⟨l, c, r, hm, rfl, hc⟩ := markedBase?_eq_some.1 hb
  exact h b (markedBase?_eq_some.2 ⟨l, c, r ++ v, hm, rfl, hc⟩)

/-- Digits that are read hold no line break, so a break at the end of a text that is read stands
behind the letter of a base. -/
theorem spells_of_read {m : Nat} (h : spelledDigits? s = some (w, b, ds))
    (hread : readDigits b.val ds = .ok m) :
    Spells s w b ds ∨ w = .suffixed ∧ ∃ t, s = t ++ ['\n'] ∧ Spells t w b ds := by
  by_cases hlast : s.getLast? = some '\n'
  · right
    obtain ⟨t, rfl⟩ : ∃ t, s = t ++ ['\n'] := ⟨_, (List.dropLast_append_getLast? _ hlast).symm⟩
    have hbreak : Text.withoutLastBreak (t ++ ['\n']) = t := by simp [Text.withoutLastBreak]
    have hdigits : b.val ≤ 16 → '\n' ∉ ds := fun hb hmem =>
      absurd ((Radix.isDigitBelow_of_readDigits hb hread).2 _ hmem) Bool.false_ne_true
    rw [spelledDigits?, hbreak] at h
    split at h
    · cases h
      exact absurd (by simp) (hdigits (by decide))
    split at h
    · rename_i hmark
      cases h
      obtain ⟨l, c, r, hm, -, -⟩ := markedBase?_eq_some.1 hmark
      exact absurd (break_mem_drop_of_markedBase? hmark hlast)
        (hdigits (isAffix_of_mark hm).le_sixteen)
    rename_i hmark
    split at h
    · rename_i hsuffix
      cases h
      obtain ⟨l, c, hm, rfl, hc, hne, hds⟩ := splitSuffix?_eq_some.1 hsuffix
      exact ⟨rfl, _, rfl, .suffixed hm hc hne hds (markedBase?_of_append hmark)⟩
    split at h
    · cases h
      exact absurd (by simp) (hdigits (by decide))
    split at h
    · cases h
      exact absurd (by simp) (hdigits (by decide))
    · cases h
  · left
    refine spells_of_spelledDigits? ?_ h
    rw [Text.withoutLastBreak, if_neg hlast]

/-- Every character of a text that is read may stand in a text without a base of its own. -/
theorem Spells.isBareChar {m : Nat} (h : Spells s w b ds) (hread : readDigits b.val ds = .ok m) :
    ∀ c ∈ s, IsBareChar c := by
  have hread : b.val ≤ 16 → ∀ c ∈ ds, IsBareChar c := fun hb c hc =>
    isBareChar_of_isDigitBelow
      (Radix.isDigitBelow_mono hb ((Radix.isDigitBelow_of_readDigits hb hread).2 c hc))
  cases h with
  | leadingZero h => exact hread (by decide)
  | marked hm hc =>
    intro e he
    rcases List.mem_cons.1 he with rfl | he
    · decide
    rcases List.mem_cons.1 he with rfl | he
    · exact isBareChar_of_isLetter (isAffix_of_mark hm).mem hc
    · exact hread (isAffix_of_mark hm).le_sixteen e he
  | suffixed hm hc hne hds hmark =>
    intro e he
    rcases List.mem_append.1 he with he | he
    · exact hread (isAffix_of_suffix hm).le_sixteen e he
    · obtain rfl := List.mem_singleton.1 he
      exact isBareChar_of_isLetter (isAffix_of_suffix hm).mem hc
  | decimal hne h hzero => exact hread (by decide)
  | bareHex h hletter hmark hsuffix => exact hread (by decide)

end Abacus.Numeral
