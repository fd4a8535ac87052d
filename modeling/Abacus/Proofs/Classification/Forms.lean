import Abacus.Classification
import Abacus.Proofs.Numeral.Agreement

/-!
# Texts taken for numerals

Apart from the texts that ask for a base, a trimmed text is taken for a numeral exactly if it is an
optional sign and one of seven forms.  No form holds a sign or the arrow of a target, and blanks
stand only in the one that names its base with a word.
-/

namespace Abacus.Classification

open Abacus.Expr (isRunOf isFigureOrLine)
open Numeral
open Radix (isDigitBelow)
open Text (Pattern Piece isBlank isDecimal isLetter)
open Text.Pattern (Takes Covers)

variable {p : Pattern} {s body sign u v : Text} {c l : Char} {b : Base} {before : Option Char}
  {segs : List Text}

/-- A text that is taken for a numeral behind its sign. -/
inductive Form : Text → Prop
  | marked {l c : Char} {b : Base} {r : Text} (hm : (l, b) ∈ marks) (hc : isLetter l c)
    (hne : r ≠ []) (hr : ∀ d ∈ r, isRunOf b.val d) : Form ('0' :: c :: r)
  | figures {c : Char} {r : Text} (hc : c.isDigit) (hr : ∀ d ∈ r, isFigureOrLine d) : Form (c :: r)
  | suffixed {l c : Char} {b : Base} {r : Text} (hm : (l, b) ∈ suffixes) (hc : isLetter l c)
    (hne : r ≠ []) (hr : ∀ d ∈ r, isRunOf b.val d) : Form (r ++ [c])
  | hash {u d : Text} (hu : IsRadix u) (hne : d ≠ []) (hd : ∀ c ∈ d, isCaselessDigitChar c) :
    Form (u ++ '#' :: d)
  | word {w v₁ u v₂ d : Text} (hw : IsWord w) (h₁ : ∀ c ∈ v₁, isBlank c) (hu : IsRadix u)
    (hne₂ : v₂ ≠ []) (h₂ : ∀ c ∈ v₂, isBlank c) (hne : d ≠ [])
    (hd : ∀ c ∈ d, isCaselessDigitChar c) : Form (w ++ (v₁ ++ (u ++ (v₂ ++ d))))
  | hexRun {r : Text} (hr : ∀ d ∈ r, isRunOf 16 d)
    (hletter : ∃ c ∈ r, isDigitBelow 16 c ∧ c.isDigit = false) : Form r
  | octalRun {r : Text} (hne : r ≠ []) (hr : ∀ d ∈ r, isRunOf 8 d) : Form r

/-! ## The characters of a form -/

/-- A character that may stand in a form without blanks. -/
def isDense (c : Char) : Bool := isCaselessDigitChar c || isDecimal c || c == '#'

theorem isBlank_of_isDense (h : isDense c) : isBlank c = false := by
  rw [isDense, Bool.or_eq_true, Bool.or_eq_true, beq_iff_eq] at h
  rcases h with (h | h) | rfl
  · exact isBlank_of_isCaselessDigitChar h
  · exact isBlank_of_isDecimal h
  · exact hash_cases.2.2.2.1

theorem isDense_of_isCaselessDigitChar (h : isCaselessDigitChar c) : isDense c := by
  simp [isDense, h]

theorem isDense_of_isDecimal (h : isDecimal c) : isDense c := by simp [isDense, h]

/-- No sign and no arrow is a character of a form. -/
theorem not_sign_of_isDense (h : isDense c ∨ isBlank c) : isSign c = false ∧ c ≠ '>' := by
  have all : ∀ c ∈ ['+', '-', '>'], isDense c = false ∧ isBlank c = false := by decide
  have hne : ∀ e ∈ ['+', '-', '>'], c ≠ e := by
    rintro e he rfl
    rcases h with h | h
    · simp [(all c he).1] at h
    · simp [(all c he).2] at h
  refine ⟨?_, hne '>' (by simp)⟩
  rw [isSign, Bool.or_eq_false_iff, beq_eq_false_iff_ne, beq_eq_false_iff_ne]
  exact ⟨hne '+' (by simp), hne '-' (by simp)⟩

theorem isCaselessDigitChar_of_isRunOf {bound : Nat} (hbound : bound ≤ 36) (h : isRunOf bound c) :
    isCaselessDigitChar c := by
  refine isCaselessDigitChar_of_isDigitChar ?_
  rw [isRunOf, Bool.or_eq_true] at h
  rw [isDigitChar, Bool.or_eq_true]
  exact h.imp_left (Radix.isDigitBelow_mono hbound)

theorem isDigitBelow_of_isDigit (h : c.isDigit) : isDigitBelow 10 c :=
  Text.digit_induction (P := fun c => isDigitBelow 10 c) (by decide) h

theorem isRunOf_of_isFigureOrLine (h : isFigureOrLine c) : isRunOf 10 c := by
  rw [isFigureOrLine, Bool.or_eq_true] at h
  rw [isRunOf, Bool.or_eq_true]
  exact h.imp_left isDigitBelow_of_isDigit

theorem isCaselessDigitChar_of_isLetter (hl : isDigitBelow 36 l ∧ l.toLower = l)
    (hc : isLetter l c) : isCaselessDigitChar c := by
  rw [isLetter, Bool.or_eq_true, beq_iff_eq, beq_iff_eq] at hc
  rw [isCaselessDigitChar, Bool.or_eq_true]
  rcases hc with hc | hc
  · left
    rw [isDigitChar, Bool.or_eq_true]
    left
    rw [isDigitBelow, hc, ← hl.2]
    exact hl.1
  · right
    rw [hc]
    rfl

theorem isCaselessDigitChar_of_isWord {w : Text} (hw : IsWord w) :
    ∀ c ∈ w, isCaselessDigitChar c := by
  obtain ⟨hb, ha, hs, he⟩ := hw
  intro c hc
  simp only [List.mem_cons, List.not_mem_nil, or_false] at hc
  rcases hc with rfl | rfl | rfl | rfl
  · exact isCaselessDigitChar_of_isLetter (by decide) hb
  · exact isCaselessDigitChar_of_isLetter (by decide) ha
  · exact isCaselessDigitChar_of_isLetter (by decide) hs
  · exact isCaselessDigitChar_of_isLetter (by decide) he

theorem isLetter_o_cases (h : isLetter 'o' c) : isBlank c = false ∧ isDecimal c = false ∧
    isSign c = false ∧ ∀ l ∈ ['b', 'a', 's', 'e'], isLetter l c = false := by
  have hlt : c.toNat < 128 := toNat_lt_of_toLower <| by
    rw [(Text.isLetter_iff (by decide)).1 h]
    decide
  exact Text.ascii_induction (P := fun c => isLetter 'o' c → isBlank c = false ∧
    isDecimal c = false ∧ isSign c = false ∧ ∀ l ∈ ['b', 'a', 's', 'e'], isLetter l c = false)
    (by decide +kernel) hlt h

/-- Up to the digits, a form that names its base with a word shows no letter `o`. -/
theorem not_isLetter_o_of_word {w v₁ u v₂ : Text} (hw : IsWord w) (h₁ : ∀ c ∈ v₁, isBlank c)
    (hu : IsRadix u) (h₂ : ∀ c ∈ v₂, isBlank c) :
    ∀ c ∈ w ++ (v₁ ++ (u ++ v₂)), isLetter 'o' c = false := by
  intro c hc
  obtain ⟨hb, ha, hs, he⟩ := hw
  rw [Bool.eq_false_iff]
  intro ho
  obtain ⟨hblank, hdecimal, -, hletters⟩ := isLetter_o_cases ho
  simp only [List.mem_append, List.mem_cons, List.not_mem_nil, or_false] at hc
  rcases hc with (rfl | rfl | rfl | rfl) | hc | hc | hc
  · simp [hletters 'b' (by simp)] at hb
  · simp [hletters 'a' (by simp)] at ha
  · simp [hletters 's' (by simp)] at hs
  · simp [hletters 'e' (by simp)] at he
  · simp [h₁ c hc] at hblank
  · simp [hu.decimal c hc] at hdecimal
  · simp [h₂ c hc] at hblank

/-- A character of a form that has no base of its own. -/
def IsFormChar (c : Char) : Prop := isRunOf 16 c ∨ ∃ l b, IsAffix l b ∧ isLetter l c

theorem isFormChar_of_isRunOf {bound : Nat} (hbound : bound ≤ 16) (h : isRunOf bound c) :
    IsFormChar c := by
  left
  rw [isRunOf, Bool.or_eq_true] at h ⊢
  exact h.imp_left (Radix.isDigitBelow_mono hbound)

theorem isFormChar_of_isDigit (h : c.isDigit) : IsFormChar c :=
  isFormChar_of_isRunOf (by decide) (by simp [isRunOf, isDigitBelow_of_isDigit h] : isRunOf 10 c)

theorem IsFormChar.isDense (h : IsFormChar c) : isDense c := by
  have hdigit : ∀ l ∈ affixes, isDigitBelow 36 l := by decide
  rcases h with h | ⟨l, b, hl, hc⟩
  · exact isDense_of_isCaselessDigitChar (isCaselessDigitChar_of_isRunOf (by decide) h)
  · exact isDense_of_isCaselessDigitChar
      (isCaselessDigitChar_of_isLetter ⟨hdigit _ hl.mem, hl.lower⟩ hc)

theorem IsFormChar.isBareChar (h : IsFormChar c) : IsBareChar c := by
  rcases h with h | ⟨l, b, hl, hc⟩
  · rw [isRunOf, Bool.or_eq_true, beq_iff_eq] at h
    rcases h with h | rfl
    · exact isBareChar_of_isDigitBelow h
    · decide
  · exact isBareChar_of_isLetter hl.mem hc

/-- A form names its base in front of a hash, or behind the word, or has no base of its own. -/
theorem Form.bare_or_named (h : Form body) : (∀ c ∈ body, IsFormChar c) ∨
    (∃ u d, body = u ++ '#' :: d ∧ IsRadix u ∧ d ≠ [] ∧ ∀ c ∈ d, isCaselessDigitChar c) ∨
    ∃ v u d, body = v ++ d ∧ WordForm body u [] d ∧ (∀ c ∈ v, isLetter 'o' c = false) ∧
      ∀ c ∈ d, isCaselessDigitChar c := by
  cases h with
  | @marked l c b r hm hc hne hr =>
    have hl := isAffix_of_mark hm
    have hrun : ∀ c ∈ r, IsFormChar c := fun d hd => isFormChar_of_isRunOf hl.le_sixteen (hr d hd)
    exact .inl (List.forall_mem_cons.2 ⟨isFormChar_of_isDigit rfl,
      List.forall_mem_cons.2 ⟨.inr ⟨l, b, hl, hc⟩, hrun⟩⟩)
  | @figures c r hc hr =>
    have hrun : ∀ c ∈ r, IsFormChar c := fun d hd =>
      isFormChar_of_isRunOf (by decide) (isRunOf_of_isFigureOrLine (hr d hd))
    exact .inl (List.forall_mem_cons.2 ⟨isFormChar_of_isDigit hc, hrun⟩)
  | @suffixed l c b r hm hc hne hr =>
    have hl := isAffix_of_suffix hm
    have hrun : ∀ c ∈ r, IsFormChar c := fun d hd => isFormChar_of_isRunOf hl.le_sixteen (hr d hd)
    exact .inl (List.forall_mem_append.2 ⟨hrun, List.forall_mem_singleton.2 (.inr ⟨l, b, hl, hc⟩)⟩)
  | @hash u d hu hne hd => exact .inr (.inl ⟨u, d, rfl, hu, hne, hd⟩)
  | @word w v₁ u v₂ d hw h₁ hu hne₂ h₂ hne hd =>
    exact .inr (.inr ⟨w ++ (v₁ ++ (u ++ v₂)), u, d, by simp,
      .ofDigits hw h₁ hu hne₂ h₂ hne hd, not_isLetter_o_of_word hw h₁ hu h₂, hd⟩)
  | hexRun hr hletter => exact .inl fun c hc => .inl (hr c hc)
  | octalRun hne hr => exact .inl fun c hc => isFormChar_of_isRunOf (by decide) (hr c hc)

/-- Only a form that names its base with a word holds blanks, with no letter `o` before them. -/
theorem Form.isDense_or_word (h : Form body) : (∀ c ∈ body, isDense c) ∨
    ∃ v u d, body = v ++ d ∧ WordForm body u [] d ∧ (∀ c ∈ v, isLetter 'o' c = false) ∧
      ∀ c ∈ d, isCaselessDigitChar c := by
  rcases h.bare_or_named with hbare | ⟨u, d, rfl, hu, -, hd⟩ | hword
  · exact .inl fun c hc => (hbare c hc).isDense
  · refine .inl (List.forall_mem_append.2 ⟨fun c hc => isDense_of_isDecimal (hu.decimal c hc), ?_⟩)
    exact List.forall_mem_cons.2 ⟨by decide, fun c hc => isDense_of_isCaselessDigitChar (hd c hc)⟩
  · exact .inr hword

theorem isDense_or_isBlank_of_wordForm {d : Text} (h : WordForm s u [] d) :
    ∀ c ∈ s, isDense c ∨ isBlank c := by
  obtain ⟨h₀, hw, h₁, hu, -, h₂, -, -, hd, h₃⟩ := h
  intro c hc
  simp only [List.mem_append, List.not_mem_nil, false_or] at hc
  rcases hc with hc | hc | hc | hc | hc | hc | hc
  · exact .inr (h₀ c hc)
  · exact .inl (isDense_of_isCaselessDigitChar (isCaselessDigitChar_of_isWord hw c hc))
  · exact .inr (h₁ c hc)
  · exact .inl (isDense_of_isDecimal (hu.decimal c hc))
  · exact .inr (h₂ c hc)
  · exact .inl (isDense_of_isCaselessDigitChar (hd c hc))
  · exact .inr (h₃ c hc)

theorem Form.not_sign (h : Form body) : ∀ c ∈ body, isSign c = false ∧ c ≠ '>' := by
  intro c hc
  rcases h.isDense_or_word with hdense | ⟨v, u, d, -, hword, -, -⟩
  · exact not_sign_of_isDense (.inl (hdense c hc))
  · exact not_sign_of_isDense (isDense_or_isBlank_of_wordForm hword c hc)

theorem Form.not_isSign (h : Form body) : ∀ c ∈ body, isSign c = false := fun c hc =>
  (h.not_sign c hc).1

/-! ## Patterns for a whole text -/

/-- Blanks at the end of a pattern find nothing in a text that does not end with one. -/
theorem covers_concat_blanks (hlast : ∀ c ∈ s.getLast?, isBlank c = false) :
    Covers (p ++ [.many isBlank]) before s ↔ Covers p before s := by
  induction p generalizing before s with
  | nil =>
    constructor
    · rintro ⟨segs, h⟩
      obtain ⟨-, -, hblank⟩ := Takes.exists_last h
      rcases List.eq_nil_or_concat s with rfl | ⟨t, c, rfl⟩
      · exact Pattern.covers_nil
      · have := hlast c (by simp)
        simp [hblank c (by simp)] at this
    · rintro ⟨segs, h⟩
      obtain ⟨-, rfl⟩ := Pattern.takes_nil.1 h
      exact .skip Pattern.covers_nil nofun
  | cons piece ps ih =>
    cases piece with
    | boundary =>
      rw [List.cons_append, Pattern.covers_boundary_cons, Pattern.covers_boundary_cons, ih hlast]
    | run least most admits =>
      have hrest : ∀ c ∈ (Text.spanWithin admits most s).2.getLast?, isBlank c = false := by
        intro c hc
        refine hlast c ?_
        rw [← Text.spanWithin_append admits most s, List.getLast?_append, hc]
        rfl
      rw [List.cons_append, Pattern.covers_run_cons, Pattern.covers_run_cons, ih hrest]

/-- In a trimmed text a form in its frame is the form behind an optional sign. -/
theorem fits_framed_iff (hs : Text.IsTrimmed s) :
    (framed p).fits s ↔ Covers (.optional isSign :: p) none s := by
  have hspan : Text.spanWithin isBlank none s = ([], s) :=
    Text.spanWithin_append_eq (u := []) nofun nofun (.inl hs.head)
  have hframed :
      framed p = .run 0 none isBlank :: ((.optional isSign :: p) ++ [.many isBlank]) := rfl
  rw [← covers_concat_blanks hs.last]
  constructor
  · intro h
    have hcovers := Pattern.covers_of_fits h
    rw [hframed, Pattern.covers_run_cons, hspan] at hcovers
    exact hcovers.2
  · intro h
    refine Pattern.fits_of_covers ?_
    rw [hframed, Pattern.covers_run_cons, hspan]
    exact ⟨Nat.zero_le _, h⟩

/-! ## Forms of a whole text -/

theorem form_of_mark (hm : (l, b) ∈ marks)
    (h : Takes [.exactly '0', .one (isLetter l), .some (isRunOf b.val)] before segs body) :
    Form body := by
  obtain ⟨_, _, rfl, rfl, h₁⟩ := Takes.exists_exactly h
  obtain ⟨c, r, _, rfl, rfl, hc, h₂⟩ := Takes.exists_one h₁
  obtain ⟨rfl, hlen, hr⟩ := Takes.exists_last h₂
  exact .marked hm hc (List.length_pos_iff.1 hlen) hr

theorem form_of_suffix (hm : (l, b) ∈ suffixes)
    (h : Takes [.some (isRunOf b.val), .one (isLetter l)] before segs body) : Form body := by
  obtain ⟨r, _, _, rfl, rfl, hlen, -, hr, h₁⟩ := Takes.exists_run h
  obtain ⟨c, _, _, rfl, rfl, hc, h₂⟩ := Takes.exists_one h₁
  obtain ⟨rfl, rfl⟩ := Pattern.takes_nil.1 h₂
  exact .suffixed hm hc (List.length_pos_iff.1 hlen) hr

theorem form_of_takes (hp : p ∈ explicitForms) (h : Takes p before segs body) : Form body := by
  simp only [explicitForms, List.mem_cons, List.not_mem_nil, or_false] at hp
  rcases hp with rfl | rfl | rfl | rfl | rfl | rfl | rfl | rfl | rfl
  · exact form_of_mark (by decide : (_, Base.sixteen) ∈ _) h
  · exact form_of_mark (by decide : (_, Base.two) ∈ _) h
  · exact form_of_mark (by decide : (_, Base.eight) ∈ _) h
  · obtain ⟨c, _, _, rfl, rfl, hc, h₁⟩ := Takes.exists_one h
    obtain ⟨-, -, hr⟩ := Takes.exists_last h₁
    exact .figures hc hr
  · exact form_of_suffix (by decide : (_, Base.sixteen) ∈ _) h
  · exact form_of_suffix (by decide : (_, Base.two) ∈ _) h
  · exact form_of_suffix (by decide : (_, Base.eight) ∈ _) h
  · obtain ⟨u, _, _, rfl, rfl, hpos, htwo, hu, h₁⟩ := Takes.exists_run h
    obtain ⟨_, _, rfl, rfl, h₂⟩ := Takes.exists_exactly h₁
    obtain ⟨rfl, hlen, hd⟩ := Takes.exists_last h₂
    exact .hash ⟨hpos, htwo 2 rfl, hu⟩ (List.length_pos_iff.1 hlen) hd
  · obtain ⟨_, _, _, rfl, rfl, hb, h₁⟩ := Takes.exists_one h
    obtain ⟨_, _, _, rfl, rfl, ha, h₂⟩ := Takes.exists_one h₁
    obtain ⟨_, _, _, rfl, rfl, hl, h₃⟩ := Takes.exists_one h₂
    obtain ⟨_, _, _, rfl, rfl, he, h₄⟩ := Takes.exists_one h₃
    obtain ⟨v₁, _, _, rfl, rfl, -, -, hv₁, h₅⟩ := Takes.exists_run h₄
    obtain ⟨u, _, _, rfl, rfl, hpos, htwo, hu, h₆⟩ := Takes.exists_run h₅
    obtain ⟨v₂, _, _, rfl, rfl, hlen₂, -, hv₂, h₇⟩ := Takes.exists_run h₆
    obtain ⟨rfl, hlen, hd⟩ := Takes.exists_last h₇
    exact .word (.mk hb ha hl he) hv₁ ⟨hpos, htwo 2 rfl, hu⟩ (List.length_pos_iff.1 hlen₂) hv₂
      (List.length_pos_iff.1 hlen) hd

theorem Form.ne_nil (h : Form body) : body ≠ [] := by
  cases h with
  | marked hm hc hne hr => simp
  | figures hc hr => simp
  | suffixed hm hc hne hr => simp
  | hash hu hne hd => simp
  | word hw h₁ hu hne₂ h₂ hne hd => simp [hne]
  | hexRun hr hletter =>
    obtain ⟨c, hc, -⟩ := hletter
    exact List.ne_nil_of_mem hc
  | octalRun hne hr => exact hne

/-- A class of characters takes a whole text. -/
theorem covers_run_whole {admits : Char → Bool} (hne : body ≠ []) (h : ∀ c ∈ body, admits c) :
    Covers [.some admits] before body := by
  have hcovers : Covers [.some admits] before (body ++ []) :=
    .unbounded Pattern.covers_nil h (List.length_pos_iff.2 hne) (by simp)
  rwa [List.append_nil] at hcovers

theorem markPattern_mem (hm : (l, b) ∈ marks) :
    [.exactly '0', .one (isLetter l), .some (isRunOf b.val)] ∈ explicitForms := by
  simp only [marks, List.mem_cons, List.not_mem_nil, or_false, Prod.mk.injEq] at hm
  rcases hm with ⟨rfl, rfl⟩ | ⟨rfl, rfl⟩ | ⟨rfl, rfl⟩ <;>
    simp [explicitForms, Base.sixteen, Base.two, Base.eight]

theorem suffixPattern_mem (hm : (l, b) ∈ suffixes) :
    [.some (isRunOf b.val), .one (isLetter l)] ∈ explicitForms := by
  simp only [suffixes, List.mem_cons, List.not_mem_nil, or_false, Prod.mk.injEq] at hm
  rcases hm with ⟨rfl, rfl⟩ | ⟨rfl, rfl⟩ | ⟨rfl, rfl⟩ <;>
    simp [explicitForms, Base.sixteen, Base.two, Base.eight]

/-- No digit and no low line is the letter that may stand behind. -/
theorem isRunOf_of_isLetter (hm : (l, b) ∈ suffixes) (hc : isLetter l c) :
    isRunOf b.val c = false := by
  have hl := (isAffix_of_suffix hm).mem
  have hdigit : ∀ m ∈ suffixes, isDigitBelow m.2.val m.1 = false := by decide
  rw [isRunOf, Bool.or_eq_false_iff, isDigitBelow_of_isLetter hl hc, beq_eq_false_iff_ne]
  exact ⟨hdigit _ hm, ne_line_of_isLetter hl hc⟩

/-- A form is taken by one of the explicit patterns, or it is a run of digits. -/
theorem Form.covers (h : Form body) :
    (∃ p ∈ explicitForms, ∀ before, Covers p before body) ∨
    ((∀ c ∈ body, isRunOf 16 c) ∧ ∃ c ∈ body, isDigitBelow 16 c ∧ c.isDigit = false) ∨
    ∀ c ∈ body, isRunOf 8 c := by
  cases h with
  | marked hm hc hne hr =>
    exact .inl ⟨_, markPattern_mem hm, fun _ => .exactly (.one (covers_run_whole hne hr) hc)⟩
  | @figures c r hc hr =>
    refine .inl ⟨[.one Char.isDigit, .many isFigureOrLine], by simp [explicitForms], fun _ =>
      .one ?_ hc⟩
    rw [← List.append_nil r]
    exact .unbounded Pattern.covers_nil hr (Nat.zero_le _) (by simp)
  | suffixed hm hc hne hr =>
    refine .inl ⟨_, suffixPattern_mem hm, fun _ => .unbounded (.one Pattern.covers_nil hc) hr
      (List.length_pos_iff.2 hne) ?_⟩
    rintro _ ⟨⟩
    exact isRunOf_of_isLetter hm hc
  | hash hu hne hd =>
    refine .inl ⟨[.run 1 (some 2) isDecimal, .exactly '#', .some isCaselessDigitChar],
      by simp [explicitForms], fun _ => Covers.run (.exactly (covers_run_whole hne hd)) hu.decimal
        hu.pos ?_ (.inl ?_)⟩
    · rintro _ ⟨⟩
      exact hu.le_two
    · rintro _ ⟨⟩
      exact hash_cases.1
  | @word w v₁ u v₂ d hw h₁ hu hne₂ h₂ hne hd =>
    obtain @⟨b, a, l, e, hb, ha, hl, he⟩ := hw
    have hblanks : ∀ before, Covers [.some isBlank, .some isCaselessDigitChar] before (v₂ ++ d) :=
      fun _ => .unbounded (covers_run_whole hne hd) h₂ (List.length_pos_iff.2 hne₂)
        fun c hc => isBlank_of_isCaselessDigitChar (hd c (List.mem_of_mem_head? hc))
    have hradix : ∀ before, Covers [.run 1 (some 2) isDecimal, .some isBlank,
        .some isCaselessDigitChar] before (u ++ (v₂ ++ d)) := fun _ => by
      refine Covers.run (hblanks _) hu.decimal hu.pos ?_
        (.inl (forall_head_append hne₂ fun c hc => (blank_cases (h₂ c hc)).1))
      rintro _ ⟨⟩
      exact hu.le_two
    have hbase : ∀ before, Covers [.many isBlank, .run 1 (some 2) isDecimal, .some isBlank,
        .some isCaselessDigitChar] before (v₁ ++ (u ++ (v₂ ++ d))) := fun _ =>
      .unbounded (hradix _) h₁ (Nat.zero_le _) hu.forall_head
    exact .inl ⟨[.one (isLetter 'b'), .one (isLetter 'a'), .one (isLetter 's'), .one (isLetter 'e'),
      .many isBlank, .run 1 (some 2) isDecimal, .some isBlank, .some isCaselessDigitChar],
      by simp [explicitForms], fun _ => .one (.one (.one (.one (hbase _) he) hl) ha) hb⟩
  | hexRun hr hletter => exact .inr (.inl ⟨hr, hletter⟩)
  | octalRun hne hr => exact .inr (.inr hr)

/-! ## Numerals -/

/-- Whether a text is taken for a numeral by its form alone. -/
def isNumeralForm (s : Text) : Bool :=
  isExplicitForm s || isSignedRun 16 s && hasHexLetter s || isSignedRun 2 s || isSignedRun 8 s

/-- An optional sign in front of a form that does not start with one. -/
theorem covers_signed (hsign : IsSigns sign) (hbody : ∀ c ∈ body, isSign c = false)
    (h : ∀ before, Covers p before body) : Covers (.optional isSign :: p) none (sign ++ body) := by
  refine Covers.run (h _) hsign.sign (Nat.zero_le _) ?_ ?_
  · rintro _ ⟨⟩
    exact hsign.le_one
  · by_cases hnil : sign = []
    · exact .inl fun c hc => hbody c (List.mem_of_mem_head? hc)
    · have := hsign.le_one
      have := List.length_pos_iff.2 hnil
      exact .inr (congrArg some (by omega))

theorem isSignedRun_append {bound : Nat} (hsign : IsSigns sign)
    (hbody : ∀ c ∈ body, isSign c = false) (hne : body ≠ [])
    (h : ∀ c ∈ body, isRunOf bound c) : isSignedRun bound (sign ++ body) :=
  Pattern.fits_of_covers (covers_signed hsign hbody fun _ => covers_run_whole hne h)

theorem exists_of_isSignedRun {bound : Nat} (h : isSignedRun bound s) :
    ∃ sign body, s = sign ++ body ∧ IsSigns sign ∧ body ≠ [] ∧ ∀ c ∈ body, isRunOf bound c := by
  obtain ⟨segs, htakes⟩ := Pattern.covers_of_fits h
  obtain ⟨sign, _, _, rfl, rfl, -, hone, hsign, h₁⟩ := Takes.exists_run htakes
  obtain ⟨rfl, hlen, hr⟩ := Takes.exists_last h₁
  exact ⟨_, _, rfl, ⟨hone 1 rfl, hsign⟩, List.length_pos_iff.1 hlen, hr⟩

theorem exists_of_isExplicitForm (hs : Text.IsTrimmed s) (h : isExplicitForm s) :
    ∃ sign body, s = sign ++ body ∧ IsSigns sign ∧ Form body := by
  obtain ⟨p, hp, hfits⟩ := List.any_eq_true.1 h
  obtain ⟨segs, htakes⟩ := (fits_framed_iff hs).1 hfits
  obtain ⟨sign, _, _, rfl, rfl, -, hone, hsign, h₁⟩ := Takes.exists_run htakes
  exact ⟨_, _, rfl, ⟨hone 1 rfl, hsign⟩, form_of_takes hp h₁⟩

/-- A trimmed text is taken for a numeral exactly if it is a form behind an optional sign. -/
theorem isNumeralForm_iff (hs : Text.IsTrimmed s) :
    isNumeralForm s ↔ ∃ sign body, s = sign ++ body ∧ IsSigns sign ∧ Form body := by
  have hsigns : ∀ c, isSign c → isDigitBelow 16 c = false := by
    intro c hc
    rw [isSign, Bool.or_eq_true, beq_iff_eq, beq_iff_eq] at hc
    rcases hc with rfl | rfl <;> decide
  simp only [isNumeralForm, Bool.or_eq_true, Bool.and_eq_true]
  constructor
  · rintro (((h | ⟨h, hletter⟩) | h) | h)
    · exact exists_of_isExplicitForm hs h
    · obtain ⟨sign, body, rfl, hsign, hne, hr⟩ := exists_of_isSignedRun h
      refine ⟨sign, body, rfl, hsign, .hexRun hr ?_⟩
      obtain ⟨c, hc, hand⟩ := List.any_eq_true.1 hletter
      rw [Bool.and_eq_true, Bool.not_eq_true'] at hand
      rcases List.mem_append.1 hc with hc | hc
      · simp [hsigns c (hsign.sign c hc)] at hand
      · exact ⟨c, hc, hand⟩
    · obtain ⟨sign, body, rfl, hsign, hne, hr⟩ := exists_of_isSignedRun h
      refine ⟨sign, body, rfl, hsign, .octalRun hne fun c hc => ?_⟩
      have hrun := hr c hc
      rw [isRunOf, Bool.or_eq_true] at hrun ⊢
      exact hrun.imp_left (Radix.isDigitBelow_mono (by decide))
    · obtain ⟨sign, body, rfl, hsign, hne, hr⟩ := exists_of_isSignedRun h
      exact ⟨sign, body, rfl, hsign, .octalRun hne hr⟩
  · rintro ⟨sign, body, rfl, hsign, h⟩
    rcases h.covers with ⟨p, hp, hcovers⟩ | ⟨hr, c, hc, hletter⟩ | hr
    · have hfits := (fits_framed_iff hs).2 (covers_signed hsign h.not_isSign hcovers)
      exact .inl (.inl (.inl (List.any_eq_true.2 ⟨p, hp, hfits⟩)))
    · refine .inl (.inl (.inr ⟨isSignedRun_append hsign h.not_isSign h.ne_nil hr, ?_⟩))
      exact List.any_eq_true.2 ⟨c, List.mem_append_right sign hc, by simp [hletter.1, hletter.2]⟩
    · exact .inr (isSignedRun_append hsign h.not_isSign h.ne_nil hr)

/-! ## No separator -/

/-- A text without `>` in which no letter `o` stands before a blank has no separator. -/
theorem splitSeparator?_eq_none_of_neighbours (hgt : '>' ∉ s)
    (ho : ∀ t c d r, s = t ++ c :: d :: r → isLetter 'o' c → isBlank d = false) :
    splitSeparator? s = none := by
  induction s with
  | nil => rfl
  | cons c r ih =>
    have harrow : Text.startsWith (c :: r) ['-', '>'] = false := by
      rw [Text.startsWith, Bool.eq_false_iff]
      intro h
      exact hgt ((List.isPrefixOf_iff_prefix.1 h).subset (by simp))
    have hword : toWord.length? none (c :: r) = none := by
      rw [Pattern.length?, Option.map_eq_none_iff, Option.eq_none_iff_forall_ne_some]
      intro taken htaken
      obtain ⟨t, a, d, r', heq, ha, hd⟩ := Pattern.exists_neighbours_of_segments?
        (p := [.some isBlank, .one (isLetter 't')]) (q := []) htaken
      simp [ho t a d r' heq ha] at hd
    have hr : splitSeparator? r = none := by
      refine ih (fun h => hgt (List.mem_cons_of_mem c h)) fun t a d r' heq => ?_
      exact ho (c :: t) a d r' (congrArg (c :: ·) heq)
    rw [splitSeparator?, separatorLength?, harrow, if_neg (by simp), hword, hr]
    simp

theorem Form.splitSeparator?_eq_none (hsign : IsSigns sign) (h : Form body) :
    splitSeparator? (sign ++ body) = none := by
  refine splitSeparator?_eq_none_of_neighbours ?_ ?_
  · intro hmem
    rcases List.mem_append.1 hmem with hmem | hmem
    · exact absurd (hsign.sign _ hmem) (by decide)
    · exact (h.not_sign _ hmem).2 rfl
  · intro t c e r heq ho
    have hmem : e ∈ sign ++ body := by simp [heq]
    rcases h.isDense_or_word with hdense | ⟨v, u, d, rfl, -, hv, hd⟩
    · rcases List.mem_append.1 hmem with he | he
      · exact isBlank_of_isSign (hsign.sign e he)
      · exact isBlank_of_isDense (hdense e he)
    · -- the letter is among the digits, and so is what follows it
      have hfront : c ∉ sign ++ v := by
        intro hc
        rcases List.mem_append.1 hc with hc | hc
        · have := hsign.sign c hc
          simp [(isLetter_o_cases ho).2.2.1] at this
        · simp [hv c hc] at ho
      have hback : e ∈ d := by
        rw [← List.append_assoc] at heq
        rcases List.append_eq_append_iff.1 heq with ⟨x, -, rfl⟩ | ⟨x, hx, hd'⟩
        · simp
        · cases x with
          | nil =>
            rw [List.nil_append] at hd'
            simp [← hd']
          | cons y x =>
            obtain ⟨rfl, -⟩ := List.cons.inj hd'
            simp [hx] at hfront
      exact isBlank_of_isCaselessDigitChar (hd e hback)

/-! ## Classified texts -/

/-- The rules for texts that ask for no base, tried in their order. -/
theorem numeral_rules_iff {settings : Expr.Settings} :
    (∃ r, (if isExplicitForm s then .ok .explicitForm
      else if isSignedRun 16 s && hasHexLetter s then .ok .bareHex
      else if isSignedRun 2 s then .ok .binaryRun
      else if isSignedRun 8 s then .ok .octalRun
      else match Expr.screen settings s with
        | .error f => .ok (.refused f)
        | .ok () => .ok .validExpression : Except TagFault Reason) = .ok r ∧ r.kind = .numeral) ↔
    isNumeralForm s := by
  rw [isNumeralForm]
  cases isExplicitForm s
  case true => exact ⟨fun _ => rfl, fun _ => ⟨.explicitForm, rfl, rfl⟩⟩
  cases isSignedRun 16 s && hasHexLetter s
  case true => exact ⟨fun _ => rfl, fun _ => ⟨.bareHex, rfl, rfl⟩⟩
  cases isSignedRun 2 s
  case true => exact ⟨fun _ => rfl, fun _ => ⟨.binaryRun, rfl, rfl⟩⟩
  cases isSignedRun 8 s
  case true => exact ⟨fun _ => rfl, fun _ => ⟨.octalRun, rfl, rfl⟩⟩
  cases Expr.screen settings s <;> simp [Reason.kind]

/-- A text that is taken for a numeral without a target is one by its form. -/
theorem isNumeralForm_of_classify {cfg : Limits} {r : Reason} (h : classify cfg s = .ok r)
    (hkind : r.kind = .numeral) (htarget : r ≠ .targetTag) : isNumeralForm s := by
  rw [classify] at h
  split at h
  · cases h
    cases hkind
  split at h
  · cases h
    cases hkind
  dsimp only at h
  split at h
  · cases h
  · cases h
    exact absurd rfl htarget
  · exact numeral_rules_iff.1 ⟨r, h, hkind⟩

/-- Without a target a text that is not too long is taken for a numeral exactly by its form. -/
theorem classify_numeral_iff {cfg : Limits} (hne : s ≠ [])
    (hlen : (s.length : Int) ≤ cfg.maxSelection)
    (htarget : (Request.ofText s).hasTarget = false) :
    (∃ r, classify cfg s = .ok r ∧ r.kind = .numeral) ↔ isNumeralForm s := by
  have hempty : s.isEmpty = false := by simpa using hne
  rw [classify, hempty, if_neg (by simp), if_neg (by omega)]
  dsimp only
  rw [htarget]
  exact numeral_rules_iff

end Abacus.Classification
