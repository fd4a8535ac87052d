import Abacus.Proofs.Numeral.Bare

/-!
# Spellings of one integer

Digits of base two, eight or sixteen can be written with their base in front of a hash, with the
word `base`, with a mark or with a letter behind them.  The first three ways always give the signed
value of the digits.  The letter gives it unless the digits show a mark of their own together with
the letter: marks are looked for first, and what then remains is never read.
-/

namespace Abacus.Numeral

open Radix (isDigitBelow placeValue readDigits signed mark)
open Text (isBlank isDecimal isLetter)

variable {b : Base} {l c : Char} {sign d ds : Text}

/-- Digits of a base with low lines anywhere among them. -/
structure IsDigits (b : Base) (d : Text) : Prop where
  mem : ∀ c ∈ d, isDigitBelow b.val c ∨ c = '_'
  ne_nil : plain d ≠ []

/-- The decimal figures of a base. -/
def radix (b : Base) : Text := (toString b.val).toList

def hashSpelling (b : Base) (sign d : Text) : Text := radix b ++ '#' :: (sign ++ d)

def wordSpelling (b : Base) (sign d : Text) : Text :=
  "base ".toList ++ (radix b ++ ' ' :: (sign ++ d))

def markSpelling (b : Base) (sign d : Text) : Text := sign ++ (mark b ++ d)

def letterSpelling (l : Char) (sign d : Text) : Text := sign ++ (d ++ [l])

/-- The numeral that a sign and digits of a base denote. -/
def denoted (b : Base) (sign d : Text) (w : Spelling) : Numeral :=
  ⟨signed (sign == ['-']) (placeValue b (plain d)), b, w, none⟩

/-- Digits that show a mark when the letter of their base follows: hexadecimal digits that start
with `0b`, and a lone zero in front of a letter that is also the letter of a mark. -/
def IsShadowed (b : Base) (ds : Text) : Prop :=
  b = .sixteen ∧ (∃ c r, ds = '0' :: c :: r ∧ isLetter 'b' c) ∨ b ≠ .sixteen ∧ ds = ['0']

/-! ## Digits -/

theorem IsDigits.digits (hd : IsDigits b d) : ∀ c ∈ plain d, isDigitBelow b.val c := by
  intro c hc
  obtain ⟨hmem, hne⟩ := mem_plain.1 hc
  exact (hd.mem c hmem).resolve_right hne

theorem IsDigits.readDigits (hd : IsDigits b d) :
    readDigits b.val (plain d) = .ok (placeValue b (plain d)) :=
  Radix.readDigits_eq_placeValue hd.ne_nil hd.digits

theorem IsDigits.isDigitChar (hd : IsDigits b d) : ∀ c ∈ d, isDigitChar c := by
  intro c hc
  rw [Numeral.isDigitChar, Bool.or_eq_true, beq_iff_eq]
  exact (hd.mem c hc).imp_left (Radix.isDigitBelow_mono b.le_max)

theorem IsDigits.isBareChar (hb : b.val ≤ 16) (hd : IsDigits b d) : ∀ c ∈ d, IsBareChar c := by
  intro c hc
  rcases hd.mem c hc with h | rfl
  · exact isBareChar_of_isDigitBelow (Radix.isDigitBelow_mono hb h)
  · decide

theorem IsDigits.ne_nil' (hd : IsDigits b d) : d ≠ [] := by
  rintro rfl
  exact hd.ne_nil rfl

/-- A letter is a digit of a base in either case, or in none. -/
theorem isDigitBelow_of_isLetter (hl : l ∈ affixes) (hc : isLetter l c) (bound : Nat) :
    isDigitBelow bound c = isDigitBelow bound l := by
  have hlower : ∀ l ∈ affixes, l ∉ ['s', 'k', 'i'] ∧ l.toLower = l := by decide
  rw [isDigitBelow, isDigitBelow, (Text.isLetter_iff (hlower l hl).1).1 hc, (hlower l hl).2]

/-! ## A base in front -/

theorem radix_eq (b : Base) : IsRadix (radix b) ∧ Base.clamp (decimalValue (radix b)) = b := by
  have all : ∀ m ∈ List.range 37, 2 ≤ m → (1 ≤ (toString m).toList.length ∧
      (toString m).toList.length ≤ 2 ∧ ∀ c ∈ (toString m).toList, isDecimal c) ∧
      decimalValue (toString m).toList = m := by
    decide
  obtain ⟨⟨hpos, hle, hdecimal⟩, hvalue⟩ :=
    all b.val (List.mem_range.2 (Nat.lt_succ_of_le b.le_max)) b.two_le
  rw [radix, hvalue]
  exact ⟨⟨hpos, hle, hdecimal⟩, Base.clamp_val b⟩

/-- Digits behind a hash are read in every base. -/
theorem read_hashSpelling (hsign : IsSigns sign) (hd : IsDigits b d) :
    read (hashSpelling b sign d) = .ok (denoted b sign d .radixHash) := by
  obtain ⟨hradix, hclamp⟩ := radix_eq b
  have hform : HashForm (hashSpelling b sign d) (radix b) sign d := by
    have h := @HashForm.mk [] (radix b) [] [] sign d [] nofun hradix nofun nofun hsign hd.ne_nil'
      hd.isDigitChar nofun
    rw [List.append_nil] at h
    exact h
  rw [hform.read_eq, hclamp, hd.readDigits]
  rfl

theorem read_wordSpelling (hsign : IsSigns sign) (hd : IsDigits b d) :
    read (wordSpelling b sign d) = .ok (denoted b sign d .baseWord) := by
  obtain ⟨hradix, hclamp⟩ := radix_eq b
  have hspace : ∀ c ∈ [' '], isBlank c := by decide
  have hword : IsWord "base".toList := .mk (by decide) (by decide) (by decide) (by decide)
  have hform : WordForm (wordSpelling b sign d) (radix b) sign d := by
    have h := @WordForm.mk [] "base".toList [' '] (radix b) [' '] sign d [] nofun hword hspace
      hradix (by simp) hspace hsign hd.ne_nil'
      (fun c hc => isCaselessDigitChar_of_isDigitChar (hd.isDigitChar c hc)) nofun
    rw [List.append_nil] at h
    exact h
  rw [hform.read_eq, hclamp, hd.readDigits]
  rfl

/-! ## A mark in front, a letter behind -/

theorem read_markSpelling (hl : (l, b) ∈ suffixes) (hsign : IsSigns sign) (hd : IsDigits b d) :
    read (markSpelling b sign d) = .ok (denoted b sign d .marked) := by
  have all : ∀ m ∈ suffixes, ∃ n ∈ marks, n.2 = m.2 ∧ mark m.2 = ['0', n.1] ∧ n.1 ≠ '_' ∧
      isLetter n.1 n.1 ∧ ∀ c ∈ mark m.2, IsBareChar c := by
    decide
  obtain ⟨⟨x, b'⟩, hm, rfl, hmark, hline, hletter, hbare⟩ := all _ hl
  dsimp only at hmark hline hletter hbare
  have hbody : ∀ c ∈ mark b' ++ d, IsBareChar c := by
    intro c hc
    rcases List.mem_append.1 hc with hc | hc
    · exact hbare c hc
    · exact hd.isBareChar (isAffix_of_suffix hl).le_sixteen c hc
  have hplain : plain (mark b' ++ d) = '0' :: x :: plain d := by
    rw [hmark]
    exact (plain_cons_of_ne (by decide) _).trans (congrArg _ (plain_cons_of_ne hline d))
  have hspells : Spells (plain (mark b' ++ d)) .marked b' (plain d) := hplain ▸ .marked hm hletter
  rw [markSpelling, read_of_spells hsign hbody hspells, hd.readDigits]
  rfl

/-- The letters of binary and octal digits stand in marks, too. -/
theorem mem_marks_of_suffix (hl : (l, b) ∈ suffixes) (hb : b ≠ .sixteen) : (l, b) ∈ marks := by
  have all : ∀ m ∈ suffixes, m.2 ≠ .sixteen → m ∈ marks := by decide
  exact all _ hl hb

/-- A mark is found among digits and the letter behind them exactly where they are shadowed. -/
theorem markedBase?_concat (hl : (l, b) ∈ suffixes) (hc : isLetter l c) (hne : ds ≠ [])
    (hds : ∀ d ∈ ds, isDigitBelow b.val d) :
    (∃ b', markedBase? (ds ++ [c]) = some b') ↔ IsShadowed b ds := by
  simp only [markedBase?_eq_some]
  constructor
  · rintro ⟨b', x, e, r, hm, heq, he⟩
    obtain ⟨a, t, rfl⟩ := List.exists_cons_of_ne_nil hne
    obtain ⟨rfl, hrest⟩ := List.cons.inj heq
    cases t with
    | nil =>
      -- the letter behind the zero is that of the mark
      obtain ⟨rfl, -⟩ := List.cons.inj hrest
      rw [Text.isLetter_iff (isAffix_of_mark hm).unfolded] at he
      rw [Text.isLetter_iff (isAffix_of_suffix hl).unfolded, he] at hc
      subst hc
      refine .inr ⟨?_, rfl⟩
      rintro rfl
      revert hm
      have : ∀ m ∈ marks, (m.1, Base.sixteen) ∉ suffixes := by decide
      exact fun hm => this _ hm hl
    | cons e' t =>
      -- a digit is the letter of the mark, which leaves only `b` among hexadecimal digits
      obtain ⟨rfl, -⟩ := List.cons.inj hrest
      have hdigit : isDigitBelow b.val x := by
        rw [← isDigitBelow_of_isLetter (isAffix_of_mark hm).mem he]
        exact hds _ (by simp)
      have : ∀ m ∈ marks, ∀ n ∈ suffixes, isDigitBelow n.2.val m.1 →
          m.1 = 'b' ∧ n.2 = .sixteen := by
        decide
      obtain ⟨hx, hb⟩ := this _ hm _ hl hdigit
      dsimp only at hx hb
      subst hx
      exact .inl ⟨hb, e', t, rfl, he⟩
  · rintro (⟨-, e, r, rfl, he⟩ | ⟨hb, rfl⟩)
    · exact ⟨.two, 'b', e, r ++ [c], by decide, rfl, he⟩
    · exact ⟨b, l, c, [], mem_marks_of_suffix hl hb, rfl, hc⟩

theorem isLetter_self (hl : (l, b) ∈ suffixes) : isLetter l l := by
  have : ∀ m ∈ suffixes, isLetter m.1 m.1 := by decide
  exact this _ hl

theorem isBareChar_letterSpelling (hl : (l, b) ∈ suffixes) (hd : IsDigits b d) :
    ∀ c ∈ d ++ [l], IsBareChar c := by
  intro c hc
  rcases List.mem_append.1 hc with hc | hc
  · exact hd.isBareChar (isAffix_of_suffix hl).le_sixteen c hc
  · obtain rfl := List.mem_singleton.1 hc
    exact isBareChar_of_isLetter (isAffix_of_suffix hl).mem (isLetter_self hl)

theorem plain_letterSpelling (hl : (l, b) ∈ suffixes) (d : Text) :
    plain (d ++ [l]) = plain d ++ [l] :=
  plain_concat_of_ne (ne_line_of_isLetter (isAffix_of_suffix hl).mem (isLetter_self hl)) d

theorem read_letterSpelling (hl : (l, b) ∈ suffixes) (hsign : IsSigns sign) (hd : IsDigits b d)
    (hshadow : ¬ IsShadowed b (plain d)) :
    read (letterSpelling l sign d) = .ok (denoted b sign d .suffixed) := by
  have hmark : markedBase? (plain d ++ [l]) = none := by
    rw [← markedBase?_concat hl (isLetter_self hl) hd.ne_nil hd.digits, not_exists] at hshadow
    exact Option.eq_none_iff_forall_ne_some.2 hshadow
  have hspells : Spells (plain (d ++ [l])) .suffixed b (plain d) := by
    rw [plain_letterSpelling hl]
    exact .suffixed hl (isLetter_self hl) hd.ne_nil hd.digits hmark
  rw [letterSpelling, read_of_spells hsign (isBareChar_letterSpelling hl hd) hspells, hd.readDigits]
  rfl

theorem read_letterSpelling_shadowed (hl : (l, b) ∈ suffixes) (hsign : IsSigns sign)
    (hd : IsDigits b d) (hshadow : IsShadowed b (plain d)) :
    ∃ f, read (letterSpelling l sign d) = .error f := by
  have hbody := isBareChar_letterSpelling hl hd
  have hplain := plain_letterSpelling hl d
  rcases hshadow with ⟨rfl, c, r, hr, hc⟩ | ⟨hb, hzero⟩
  · -- the letter is left among the binary digits
    have hspells : Spells (plain (d ++ [l])) .marked .two (r ++ [l]) := by
      rw [hplain, hr]
      exact .marked (by decide) hc
    have hletter : isDigitBelow 2 l = false := by
      have : ∀ m ∈ suffixes, m.2 = .sixteen → isDigitBelow 2 m.1 = false := by decide
      exact this _ hl rfl
    rw [letterSpelling, read_of_spells hsign hbody hspells]
    cases hread : Radix.readDigits Base.two.val (r ++ [l]) with
    | error f => exact ⟨f, rfl⟩
    | ok m =>
      have := (Radix.isDigitBelow_of_readDigits (by decide) hread).2 l (by simp)
      rw [show Base.two.val = 2 from rfl, hletter] at this
      cases this
  · -- nothing is left behind the mark
    have hspells : Spells (plain (d ++ [l])) .marked b [] := by
      rw [hplain, hzero]
      exact .marked (mem_marks_of_suffix hl hb) (isLetter_self hl)
    rw [letterSpelling, read_of_spells hsign hbody hspells]
    exact ⟨_, rfl⟩

/-! ## Agreement -/

/-- Digits of base two, eight or sixteen, with low lines and a sign, are read as their signed value
in three spellings, whichever they are; behind them a letter gives the same value just where the
digits are not shadowed, and otherwise nothing is read. -/
theorem read_spellings (hl : (l, b) ∈ suffixes) (hsign : IsSigns sign) (hd : IsDigits b d) :
    read (hashSpelling b sign d) = .ok (denoted b sign d .radixHash) ∧
    read (wordSpelling b sign d) = .ok (denoted b sign d .baseWord) ∧
    read (markSpelling b sign d) = .ok (denoted b sign d .marked) ∧
    (¬ IsShadowed b (plain d) →
      read (letterSpelling l sign d) = .ok (denoted b sign d .suffixed)) ∧
    (IsShadowed b (plain d) → ∃ f, read (letterSpelling l sign d) = .error f) :=
  ⟨read_hashSpelling hsign hd, read_wordSpelling hsign hd, read_markSpelling hl hsign hd,
    read_letterSpelling hl hsign hd, read_letterSpelling_shadowed hl hsign hd⟩

instance (b : Base) (d : Text) : Decidable (IsDigits b d) :=
  decidable_of_iff ((∀ c ∈ d, isDigitBelow b.val c ∨ c = '_') ∧ plain d ≠ [])
    ⟨fun h => ⟨h.1, h.2⟩, fun h => ⟨h.mem, h.ne_nil⟩⟩

/-- Negative hexadecimal digits in both cases with a low line and a zero in front. -/
theorem read_spellings_mixed_case :
    ('h', Base.sixteen) ∈ suffixes ∧ IsSigns ['-'] ∧ IsDigits .sixteen "0_fF".toList ∧
    ¬ IsShadowed .sixteen (plain "0_fF".toList) ∧
    denoted .sixteen ['-'] "0_fF".toList .suffixed = ⟨-255, .sixteen, .suffixed, none⟩ ∧
    read "16#-0_fF".toList = .ok (denoted .sixteen ['-'] "0_fF".toList .radixHash) ∧
    read "base 16 -0_fF".toList = .ok (denoted .sixteen ['-'] "0_fF".toList .baseWord) ∧
    read "-0x0_fF".toList = .ok (denoted .sixteen ['-'] "0_fF".toList .marked) ∧
    read "-0_fFh".toList = .ok (denoted .sixteen ['-'] "0_fF".toList .suffixed) := by
  have hl : ('h', Base.sixteen) ∈ suffixes := by decide
  have hsign : IsSigns ['-'] := ⟨by decide, by decide⟩
  have hd : IsDigits .sixteen "0_fF".toList := by decide
  have hshadow : ¬ IsShadowed .sixteen (plain "0_fF".toList) := by
    rintro (⟨-, c, r, heq, hc⟩ | ⟨hne, -⟩)
    · cases heq
      revert hc
      decide
    · exact hne rfl
  obtain ⟨hhash, hword, hmark, hletter, -⟩ := read_spellings hl hsign hd
  exact ⟨hl, hsign, hd, hshadow, by decide, hhash, hword, hmark, hletter hshadow⟩

/-- The hexadecimal digits `0b1` are read behind a hash; with their letter behind them they show the
mark of binary digits, among which the letter is none. -/
theorem read_letterSpelling_ne_hashSpelling :
    ('h', Base.sixteen) ∈ suffixes ∧ IsSigns [] ∧ IsDigits .sixteen "0b1".toList ∧
    read (hashSpelling .sixteen [] "0b1".toList) = .ok ⟨177, .sixteen, .radixHash, none⟩ ∧
    read (letterSpelling 'h' [] "0b1".toList) = .error (.invalidDigit 'h' 2) := by
  refine ⟨by decide, ⟨by decide, nofun⟩, by decide, rfl, rfl⟩

end Abacus.Numeral
