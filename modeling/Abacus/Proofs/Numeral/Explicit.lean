import Abacus.Numeral.Reader
import Abacus.Proofs.Text.Ascii
import Abacus.Proofs.Text.Basic
import Abacus.Proofs.Text.Pattern
import Abacus.Proofs.Text.Tables

/-!
# Numerals that name their base

A text names its base in front of a hash or behind the word `base`, and the digits with their sign
come last.  The two ways are told apart by the hash, which no other part of such a text can be.
-/

namespace Abacus.Numeral

open Radix (readDigits readSigned signed splitSign)
open Text (Pattern isBlank isDecimal isLetter)
open Text.Pattern (Takes whole?_eq_some)

variable {s u v w d sign : Text} {c : Char}

/-! ## The parts -/

/-- One or two decimal digits of any script. -/
structure IsRadix (u : Text) : Prop where
  pos : 1 ≤ u.length
  le_two : u.length ≤ 2
  decimal : ∀ c ∈ u, isDecimal c

/-- At most one sign. -/
structure IsSigns (v : Text) : Prop where
  le_one : v.length ≤ 1
  sign : ∀ c ∈ v, isSign c

theorem isSigns_nil : IsSigns [] := ⟨by decide, List.forall_mem_nil _⟩

/-- The word `base` in any case. -/
inductive IsWord : Text → Prop
  | mk {b a s e : Char} (hb : isLetter 'b' b) (ha : isLetter 'a' a) (hs : isLetter 's' s)
    (he : isLetter 'e' e) : IsWord [b, a, s, e]

/-- A text that names its base in front of a hash, in its parts; blanks may stand between them. -/
inductive HashForm : Text → Text → Text → Text → Prop
  | mk {v₀ u v₁ v₂ sign d v₃ : Text} (h₀ : ∀ c ∈ v₀, isBlank c) (hu : IsRadix u)
    (h₁ : ∀ c ∈ v₁, isBlank c) (h₂ : ∀ c ∈ v₂, isBlank c) (hsign : IsSigns sign) (hne : d ≠ [])
    (hd : ∀ c ∈ d, isDigitChar c) (h₃ : ∀ c ∈ v₃, isBlank c) :
    HashForm (v₀ ++ (u ++ (v₁ ++ '#' :: (v₂ ++ (sign ++ (d ++ v₃)))))) u sign d

/-- Without signs and blanks. -/
theorem HashForm.ofDigits (hu : IsRadix u) (hne : d ≠ []) (hd : ∀ c ∈ d, isDigitChar c) :
    HashForm (u ++ '#' :: d) u [] d := by
  have h := @HashForm.mk [] u [] [] [] d [] (List.forall_mem_nil _) hu (List.forall_mem_nil _)
    (List.forall_mem_nil _) isSigns_nil hne hd (List.forall_mem_nil _)
  rw [List.append_nil] at h
  exact h

/-- A text that names its base behind the word `base`, in its parts. -/
inductive WordForm : Text → Text → Text → Text → Prop
  | mk {v₀ w v₁ u v₂ sign d v₃ : Text} (h₀ : ∀ c ∈ v₀, isBlank c) (hw : IsWord w)
    (h₁ : ∀ c ∈ v₁, isBlank c) (hu : IsRadix u) (hne₂ : v₂ ≠ []) (h₂ : ∀ c ∈ v₂, isBlank c)
    (hsign : IsSigns sign) (hne : d ≠ []) (hd : ∀ c ∈ d, isCaselessDigitChar c)
    (h₃ : ∀ c ∈ v₃, isBlank c) :
    WordForm (v₀ ++ (w ++ (v₁ ++ (u ++ (v₂ ++ (sign ++ (d ++ v₃))))))) u sign d

/-- Without signs, and with no blanks but those around the base. -/
theorem WordForm.ofDigits {v₁ v₂ : Text} (hw : IsWord w) (h₁ : ∀ c ∈ v₁, isBlank c) (hu : IsRadix u)
    (hne₂ : v₂ ≠ []) (h₂ : ∀ c ∈ v₂, isBlank c) (hne : d ≠ [])
    (hd : ∀ c ∈ d, isCaselessDigitChar c) : WordForm (w ++ (v₁ ++ (u ++ (v₂ ++ d)))) u [] d := by
  have h := @WordForm.mk [] w v₁ u v₂ [] d [] (List.forall_mem_nil _) hw h₁ hu hne₂ h₂ isSigns_nil
    hne hd (List.forall_mem_nil _)
  rw [List.append_nil] at h
  exact h

/-! ## Classes of characters -/

theorem blank_cases (h : isBlank c) : isDecimal c = false ∧ isSign c = false ∧
    isCaselessDigitChar c = false ∧ c ≠ '#' ∧ c ≠ '>' := by
  refine ⟨Text.not_isDecimal_of_mem (.inl h), Text.blank_induction (P := fun c => isSign c = false ∧
    isCaselessDigitChar c = false ∧ c ≠ '#' ∧ c ≠ '>') ?_ h⟩
  decide

theorem blank_letters (h : isBlank c) : isLetter 'b' c = false ∧ isLetter 's' c = false := by
  refine Text.blank_induction (P := fun c => isLetter 'b' c = false ∧ isLetter 's' c = false) ?_ h
  decide

theorem isBlank_of_isDecimal (h : isDecimal c) : isBlank c = false :=
  Bool.eq_false_iff.2 fun hblank => by simp [(blank_cases hblank).1] at h

theorem isBlank_of_isSign (h : isSign c) : isBlank c = false :=
  Bool.eq_false_iff.2 fun hblank => by simp [(blank_cases hblank).2.1] at h

theorem isBlank_of_isCaselessDigitChar (h : isCaselessDigitChar c) : isBlank c = false :=
  Bool.eq_false_iff.2 fun hblank => by simp [(blank_cases hblank).2.2.1] at h

theorem isCaselessDigitChar_of_isDigitChar (h : isDigitChar c) : isCaselessDigitChar c := by
  simp [isCaselessDigitChar, h]

theorem isSign_of_isCaselessDigitChar (h : isCaselessDigitChar c) : isSign c = false := by
  rw [Bool.eq_false_iff]
  intro hsign
  rw [isSign, Bool.or_eq_true, beq_iff_eq, beq_iff_eq] at hsign
  rcases hsign with rfl | rfl <;> revert h <;> decide

/-- A property of all characters of a part holds of the first character of the text from there. -/
theorem forall_head_append {p : Char → Prop} (hne : u ≠ []) (hu : ∀ c ∈ u, p c) :
    ∀ c, (u ++ v).head? = some c → p c := by
  obtain ⟨d, r, rfl⟩ := List.exists_cons_of_ne_nil hne
  rintro _ ⟨⟩
  exact hu d List.mem_cons_self

/-- What follows a sign starts with no blank, with or without the sign. -/
theorem IsSigns.forall_head (hsign : IsSigns sign) (hne : d ≠ [])
    (hd : ∀ c ∈ d, isCaselessDigitChar c) :
    ∀ c, (sign ++ (d ++ v)).head? = some c → isBlank c = false := by
  by_cases hnil : sign = []
  · rw [hnil, List.nil_append]
    exact forall_head_append hne fun c hc => isBlank_of_isCaselessDigitChar (hd c hc)
  · exact forall_head_append hnil fun c hc => isBlank_of_isSign (hsign.sign c hc)

/-- An optional sign is taken in front of digits. -/
theorem IsSigns.takes {p : Pattern} {before : Option Char} {segs : List Text} (hsign : IsSigns sign)
    (hne : d ≠ []) (hd : ∀ c ∈ d, isCaselessDigitChar c)
    (h : Takes p (sign.getLast?.or before) segs (d ++ v)) :
    Takes (.optional isSign :: p) before (sign :: segs) (sign ++ (d ++ v)) := by
  refine h.run hsign.sign (Nat.zero_le _) ?_ ?_
  · rintro _ ⟨⟩
    exact hsign.le_one
  · cases sign with
    | nil =>
      exact .inl (forall_head_append hne fun c hc => isSign_of_isCaselessDigitChar (hd c hc))
    | cons c r =>
      have := hsign.le_one
      refine .inr (congrArg some ?_)
      simp only [List.length_cons] at this ⊢
      omega

/-! ## What is taken for the parts -/

/-- Blanks at the end of a pattern. -/
theorem takes_blanks {before : Option Char} (hv : ∀ c ∈ v, isBlank c) :
    Takes [.many isBlank] before [v] v := by
  have hnil : Takes [] (v.getLast?.or before) [] [] := Text.Pattern.takes_nil.2 ⟨rfl, rfl⟩
  have h : Takes [.many isBlank] before [v] (v ++ []) :=
    hnil.run hv (Nat.zero_le _) nofun (.inl nofun)
  rwa [List.append_nil] at h

/-- Digits and blanks at the end of a pattern. -/
theorem takes_digits {admits : Char → Bool} {before : Option Char} (hne : d ≠ [])
    (hd : ∀ c ∈ d, admits c) (hv : ∀ c ∈ v, isBlank c)
    (hadmits : ∀ c, isBlank c → admits c = false) :
    Takes [.some admits, .many isBlank] before [d, v] (d ++ v) := by
  refine Takes.run (takes_blanks hv) hd (List.length_pos_iff.2 hne) nofun (.inl ?_)
  intro c hc
  exact hadmits c (hv c (List.mem_of_mem_head? hc))

/-- Blanks in front of something that starts with no blank. -/
theorem takes_blanks_append {p : Pattern} {before : Option Char} {segs : List Text}
    (hv : ∀ c ∈ v, isBlank c) (hs : ∀ c, s.head? = some c → isBlank c = false)
    (h : Takes p (v.getLast?.or before) segs s) :
    Takes (.many isBlank :: p) before (v :: segs) (v ++ s) :=
  h.run hv (Nat.zero_le _) nofun (.inl hs)

/-- The digits that name a base in front of something that starts with none. -/
theorem IsRadix.takes {p : Pattern} {before : Option Char} {segs : List Text} (hu : IsRadix u)
    (hs : ∀ c, s.head? = some c → isDecimal c = false)
    (h : Takes p (u.getLast?.or before) segs s) :
    Takes (.run 1 (some 2) isDecimal :: p) before (u :: segs) (u ++ s) := by
  refine h.run hu.decimal hu.pos ?_ (.inl hs)
  rintro _ ⟨⟩
  exact hu.le_two

theorem IsRadix.forall_head (hu : IsRadix u) :
    ∀ c, (u ++ v).head? = some c → isBlank c = false :=
  forall_head_append (List.length_pos_iff.1 hu.pos) fun c hc =>
    isBlank_of_isDecimal (hu.decimal c hc)

theorem takes_radixHash {v₀ u v₁ v₂ sign d v₃ : Text} (h₀ : ∀ c ∈ v₀, isBlank c) (hu : IsRadix u)
    (h₁ : ∀ c ∈ v₁, isBlank c) (h₂ : ∀ c ∈ v₂, isBlank c) (hsign : IsSigns sign) (hne : d ≠ [])
    (hd : ∀ c ∈ d, isDigitChar c) (h₃ : ∀ c ∈ v₃, isBlank c) :
    Takes radixHash none [v₀, u, v₁, ['#'], v₂, sign, d, v₃]
      (v₀ ++ (u ++ (v₁ ++ '#' :: (v₂ ++ (sign ++ (d ++ v₃)))))) := by
  have hcaseless : ∀ c ∈ d, isCaselessDigitChar c := fun c hc =>
    isCaselessDigitChar_of_isDigitChar (hd c hc)
  have hend : ∀ before, Takes [.optional isSign, .some isDigitChar, .many isBlank] before
      [sign, d, v₃] (sign ++ (d ++ v₃)) := fun before =>
    hsign.takes hne hcaseless (takes_digits hne hd h₃ fun c hc => by
      have := (blank_cases hc).2.2.1
      rw [isCaselessDigitChar, Bool.or_eq_false_iff] at this
      exact this.1)
  have hhash : ∀ before, Takes
      (.exactly '#' :: .many isBlank :: [.optional isSign, .some isDigitChar, .many isBlank])
      before (['#'] :: [v₂, sign, d, v₃]) ('#' :: (v₂ ++ (sign ++ (d ++ v₃)))) :=
    fun before => Takes.exactly
      (takes_blanks_append h₂ (hsign.forall_head hne hcaseless) (hend _))
  have hstart : ∀ c, ('#' :: (v₂ ++ (sign ++ (d ++ v₃)))).head? = some c → isBlank c = false := by
    rintro _ ⟨⟩
    decide
  refine takes_blanks_append h₀ hu.forall_head
    (hu.takes ?_ (takes_blanks_append h₁ hstart (hhash _)))
  by_cases hnil : v₁ = []
  · rw [hnil, List.nil_append]
    rintro _ ⟨⟩
    decide
  · exact forall_head_append hnil fun c hc => (blank_cases (h₁ c hc)).1

theorem takes_baseWord {v₀ w v₁ u v₂ sign d v₃ : Text} (h₀ : ∀ c ∈ v₀, isBlank c) (hw : IsWord w)
    (h₁ : ∀ c ∈ v₁, isBlank c) (hu : IsRadix u) (hne₂ : v₂ ≠ []) (h₂ : ∀ c ∈ v₂, isBlank c)
    (hsign : IsSigns sign) (hne : d ≠ []) (hd : ∀ c ∈ d, isCaselessDigitChar c)
    (h₃ : ∀ c ∈ v₃, isBlank c) :
    ∃ b a s e, w = [b, a, s, e] ∧ Takes baseWord none
      [v₀, [b], [a], [s], [e], v₁, u, v₂, sign, d, v₃]
      (v₀ ++ (w ++ (v₁ ++ (u ++ (v₂ ++ (sign ++ (d ++ v₃))))))) := by
  obtain @⟨b, a, s, e, hb, ha, hs, he⟩ := hw
  refine ⟨b, a, s, e, rfl, ?_⟩
  have hend : ∀ before, Takes [.optional isSign, .some isCaselessDigitChar, .many isBlank] before
      [sign, d, v₃] (sign ++ (d ++ v₃)) := fun before =>
    hsign.takes hne hd (takes_digits hne hd h₃ fun c hc => (blank_cases hc).2.2.1)
  have hradix : ∀ before, Takes (.run 1 (some 2) isDecimal :: .some isBlank ::
      [.optional isSign, .some isCaselessDigitChar, .many isBlank]) before
      (u :: v₂ :: [sign, d, v₃]) (u ++ (v₂ ++ (sign ++ (d ++ v₃)))) := fun before =>
    hu.takes (forall_head_append hne₂ fun c hc => (blank_cases (h₂ c hc)).1)
      (Takes.run (hend _) h₂ (List.length_pos_iff.2 hne₂) nofun
        (.inl (hsign.forall_head hne hd)))
  have hblank : isBlank b = false := by
    rw [Bool.eq_false_iff]
    intro hblank
    have := (blank_letters hblank).1
    simp [hb] at this
  refine takes_blanks_append h₀ ?_ (Takes.one (Takes.one (Takes.one (Takes.one
    (takes_blanks_append h₁ hu.forall_head (hradix _)) he) hs) ha) hb)
  rintro _ ⟨⟩
  exact hblank

/-! ## What is read off -/

theorem HashForm.explicitBase?_eq (h : HashForm s u sign d) :
    explicitBase? s = some (.radixHash, u, sign ++ d) := by
  obtain ⟨h₀, hu, h₁, h₂, hsign, hne, hd, h₃⟩ := h
  rw [explicitBase?, whole?_eq_some.2 (takes_radixHash h₀ hu h₁ h₂ hsign hne hd h₃)]

theorem hash_cases : isDecimal '#' = false ∧ isSign '#' = false ∧ isCaselessDigitChar '#' = false ∧
    isBlank '#' = false ∧ isLetter 'b' '#' = false ∧ isLetter 'a' '#' = false ∧
    isLetter 's' '#' = false ∧ isLetter 'e' '#' = false := by
  decide

theorem HashForm.hash_mem (h : HashForm s u sign d) : '#' ∈ s := by
  obtain ⟨-, -, -, -, -, -, -, -⟩ := h
  simp

theorem WordForm.hash_notMem (h : WordForm s u sign d) : '#' ∉ s := by
  obtain ⟨h₀, hw, h₁, hu, -, h₂, hsign, -, hd, h₃⟩ := h
  obtain ⟨hb, ha, hs, he⟩ := hw
  have hout : ∀ {p : Char → Bool} {v : Text}, (∀ c ∈ v, p c) → p '#' = false → '#' ∉ v :=
    fun hv hp hmem => by
      have := hv _ hmem
      simp [hp] at this
  have hletter : ∀ {l c : Char}, isLetter l c → isLetter l '#' = false → '#' ≠ c := by
    rintro l c hc hl rfl
    simp [hl] at hc
  obtain ⟨hdecimal, hsigns, hdigit, hblank, hb', ha', hs', he'⟩ := hash_cases
  simp only [List.mem_append, List.mem_cons, List.not_mem_nil, or_false, not_or]
  exact ⟨hout h₀ hblank, ⟨hletter hb hb', hletter ha ha', hletter hs hs', hletter he he'⟩,
    hout h₁ hblank, hout hu.decimal hdecimal, hout h₂ hblank, hout hsign.sign hsigns,
    hout hd hdigit, hout h₃ hblank⟩

theorem WordForm.explicitBase?_eq (h : WordForm s u sign d) :
    explicitBase? s = some (.baseWord, u, sign ++ d) := by
  have hmem : Text.Piece.run 1 (some 1) (· == '#') ∈ radixHash := by
    simp [radixHash, Text.Piece.exactly, Text.Piece.one]
  have hhash : radixHash.whole? s = none := by
    refine Text.Pattern.whole?_eq_none hmem Nat.one_pos fun c hc => ?_
    rw [beq_eq_false_iff_ne]
    rintro rfl
    exact h.hash_notMem hc
  obtain ⟨h₀, hw, h₁, hu, hne₂, h₂, hsign, hne, hd, h₃⟩ := h
  obtain ⟨b, a, s, e, rfl, htakes⟩ := takes_baseWord h₀ hw h₁ hu hne₂ h₂ hsign hne hd h₃
  rw [explicitBase?, hhash]
  dsimp only
  rw [whole?_eq_some.2 htakes]

theorem hashForm_of_takes {segs : List Text} (h : Takes radixHash none segs s) :
    ∃ v₀ u v₁ v₂ sign d v₃, segs = [v₀, u, v₁, ['#'], v₂, sign, d, v₃] ∧ HashForm s u sign d := by
  obtain ⟨v₀, _, _, rfl, rfl, -, -, h₀, k1⟩ := Takes.exists_run h
  obtain ⟨u, _, _, rfl, rfl, hpos, htwo, hu, k2⟩ := Takes.exists_run k1
  obtain ⟨v₁, _, _, rfl, rfl, -, -, h₁, k3⟩ := Takes.exists_run k2
  obtain ⟨_, _, rfl, rfl, k4⟩ := Takes.exists_exactly k3
  obtain ⟨v₂, _, _, rfl, rfl, -, -, h₂, k5⟩ := Takes.exists_run k4
  obtain ⟨sign, _, _, rfl, rfl, -, hone, hsign, k6⟩ := Takes.exists_run k5
  obtain ⟨d, v₃, _, rfl, rfl, hne, -, hd, k7⟩ := Takes.exists_run k6
  obtain ⟨rfl, -, h₃⟩ := Takes.exists_last k7
  exact ⟨v₀, u, v₁, v₂, sign, d, v₃, rfl, .mk h₀ ⟨hpos, htwo 2 rfl, hu⟩ h₁ h₂ ⟨hone 1 rfl, hsign⟩
    (List.length_pos_iff.1 hne) hd h₃⟩

theorem wordForm_of_takes {segs : List Text} (h : Takes baseWord none segs s) :
    ∃ v₀ b a l e v₁ u v₂ sign d v₃, segs = [v₀, b, a, l, e, v₁, u, v₂, sign, d, v₃] ∧
      WordForm s u sign d := by
  obtain ⟨v₀, _, _, rfl, rfl, -, -, h₀, k1⟩ := Takes.exists_run h
  obtain ⟨b, _, _, rfl, rfl, hb, k2⟩ := Takes.exists_one k1
  obtain ⟨a, _, _, rfl, rfl, ha, k3⟩ := Takes.exists_one k2
  obtain ⟨l, _, _, rfl, rfl, hl, k4⟩ := Takes.exists_one k3
  obtain ⟨e, _, _, rfl, rfl, he, k5⟩ := Takes.exists_one k4
  obtain ⟨v₁, _, _, rfl, rfl, -, -, h₁, k6⟩ := Takes.exists_run k5
  obtain ⟨u, _, _, rfl, rfl, hpos, htwo, hu, k7⟩ := Takes.exists_run k6
  obtain ⟨v₂, _, _, rfl, rfl, hne₂, -, h₂, k8⟩ := Takes.exists_run k7
  obtain ⟨sign, _, _, rfl, rfl, -, hone, hsign, k9⟩ := Takes.exists_run k8
  obtain ⟨d, v₃, _, rfl, rfl, hne, -, hd, k10⟩ := Takes.exists_run k9
  obtain ⟨rfl, -, h₃⟩ := Takes.exists_last k10
  exact ⟨v₀, [b], [a], [l], [e], v₁, u, v₂, sign, d, v₃, rfl, .mk h₀ (.mk hb ha hl he) h₁
    ⟨hpos, htwo 2 rfl, hu⟩ (List.length_pos_iff.1 hne₂) h₂ ⟨hone 1 rfl, hsign⟩
    (List.length_pos_iff.1 hne) hd h₃⟩

/-- A text names its base in one of the two ways, and what is read off are the parts of it. -/
theorem explicitBase?_eq_some {way : Spelling} {ds : Text} :
    explicitBase? s = some (way, u, ds) ↔ ∃ sign d, ds = sign ++ d ∧
      (way = .radixHash ∧ HashForm s u sign d ∨ way = .baseWord ∧ WordForm s u sign d) := by
  constructor
  · intro h
    rw [explicitBase?] at h
    split at h
    · rename_i hwhole
      cases h
      obtain ⟨_, _, _, _, _, _, _, heq, hform⟩ := hashForm_of_takes (whole?_eq_some.1 hwhole)
      cases heq
      exact ⟨_, _, rfl, .inl ⟨rfl, hform⟩⟩
    split at h
    · rename_i hwhole
      cases h
      obtain ⟨_, _, _, _, _, _, _, _, _, _, _, heq, hform⟩ :=
        wordForm_of_takes (whole?_eq_some.1 hwhole)
      cases heq
      exact ⟨_, _, rfl, .inr ⟨rfl, hform⟩⟩
    · cases h
  · rintro ⟨sign, d, rfl, ⟨rfl, h⟩ | ⟨rfl, h⟩⟩
    · exact h.explicitBase?_eq
    · exact h.explicitBase?_eq

/-! ## What is read -/

/-- A text without its low lines. -/
def plain (s : Text) : Text := s.filter (· != '_')

@[simp] theorem mem_plain : c ∈ plain s ↔ c ∈ s ∧ c ≠ '_' := by simp [plain]

@[simp] theorem plain_append (u v : Text) : plain (u ++ v) = plain u ++ plain v :=
  List.filter_append u v

theorem plain_cons_of_ne (hc : c ≠ '_') (s : Text) : plain (c :: s) = c :: plain s := by
  simp [plain, hc]

theorem plain_concat_of_ne (hc : c ≠ '_') (s : Text) : plain (s ++ [c]) = plain s ++ [c] := by
  rw [plain_append, plain_cons_of_ne hc]
  rfl

theorem IsSigns.cases (hsign : IsSigns sign) : sign = [] ∨ sign = ['+'] ∨ sign = ['-'] := by
  match sign, hsign with
  | [], _ => exact .inl rfl
  | [c], h =>
    have hc := h.sign c (List.mem_singleton_self c)
    rw [isSign, Bool.or_eq_true, beq_iff_eq, beq_iff_eq] at hc
    rcases hc with rfl | rfl
    · exact .inr (.inl rfl)
    · exact .inr (.inr rfl)
  | _ :: _ :: _, h =>
    have := h.le_one
    simp at this

theorem isBlank_of_mem_sign_append (hsign : IsSigns sign) (hd : ∀ c ∈ d, isBlank c = false) :
    ∀ c ∈ sign ++ d, isBlank c = false := by
  intro c hc
  rcases List.mem_append.1 hc with hc | hc
  · exact isBlank_of_isSign (hsign.sign c hc)
  · exact hd c hc

/-- An optional sign and digits are read as the digits with that sign. -/
theorem readSigned_append (hsign : IsSigns sign) (hd : ∀ c ∈ d, isCaselessDigitChar c)
    (base : Int) :
    readSigned base (sign ++ d) = (readDigits base (plain d)).map (signed (sign == ['-'])) := by
  have hplain : plain sign = sign := by
    rcases hsign.cases with rfl | rfl | rfl <;> rfl
  have hblank : ∀ c ∈ sign ++ plain d, isBlank c = false := isBlank_of_mem_sign_append hsign
    fun c hc => isBlank_of_isCaselessDigitChar (hd c (mem_plain.1 hc).1)
  have hsplit : splitSign (sign ++ plain d) = (sign == ['-'], plain d) := by
    rcases hsign.cases with rfl | rfl | rfl
    · cases hp : plain d with
      | nil => rfl
      | cons c r =>
        have hc : isSign c = false :=
          isSign_of_isCaselessDigitChar (hd c (mem_plain.1 (hp ▸ List.mem_cons_self)).1)
        rw [isSign, Bool.or_eq_false_iff, beq_eq_false_iff_ne, beq_eq_false_iff_ne] at hc
        simp [splitSign, hc.1, hc.2]
    · rfl
    · rfl
  rw [readSigned, show (sign ++ d).filter (· != '_') = sign ++ plain d by
    rw [← plain, plain_append, hplain], Text.trim_eq_self hblank, hsplit]

theorem HashForm.read_eq (h : HashForm s u sign d) :
    read s = (readDigits (Base.clamp (decimalValue u)).val (plain d)).map fun m =>
      ⟨signed (sign == ['-']) m, Base.clamp (decimalValue u), .radixHash, none⟩ := by
  rw [read, h.explicitBase?_eq]
  obtain ⟨-, -, -, -, hsign, -, hd, -⟩ := h
  dsimp only
  rw [readSigned_append hsign fun c hc => isCaselessDigitChar_of_isDigitChar (hd c hc)]
  cases readDigits _ _ <;> rfl

theorem WordForm.read_eq (h : WordForm s u sign d) :
    read s = (readDigits (Base.clamp (decimalValue u)).val (plain d)).map fun m =>
      ⟨signed (sign == ['-']) m, Base.clamp (decimalValue u), .baseWord, none⟩ := by
  rw [read, h.explicitBase?_eq]
  obtain ⟨-, -, -, -, -, -, hsign, -, hd, -⟩ := h
  dsimp only
  rw [readSigned_append hsign hd]
  cases readDigits _ _ <;> rfl

end Abacus.Numeral
