import Abacus.Text.Basic
import Abacus.Text.Letter
import Abacus.Text.Word

/-!
# ASCII characters and blanks

A property of the ASCII characters, or of the blanks, is checked for one after the other.  What is
needed of figures and letters elsewhere is collected here.
-/

namespace Abacus.Text

section

variable {α : Type} (p : α → Prop) [DecidablePred p] (l : List α) (o : Option α)

/-- Whether all members of a list have a property is decided by going through the list, also where
the type is finite, as characters are. -/
instance (priority := high) decidableForallMem : Decidable (∀ x ∈ l, p x) := List.decidableBAll p l

instance (priority := high) decidableExistsMem : Decidable (∃ x ∈ l, p x) := List.decidableBEx p l

instance (priority := high) decidableForallMemOption : Decidable (∀ x ∈ o, p x) :=
  Option.decidableForallMem o

end

/-- A property that holds of every ASCII character, by number, holds of an ASCII character. -/
theorem ascii_induction {P : Char → Prop} (h : ∀ n ∈ List.range 128, P (Char.ofNat n)) {c : Char}
    (hc : c.toNat < 128) : P c := by
  have := h c.toNat (List.mem_range.2 hc)
  rwa [Char.ofNat_toNat] at this

/-- A property that holds of every blank, by number, holds of a blank. -/
theorem blank_induction {P : Char → Prop} (h : ∀ n ∈ blanks, P (Char.ofNat n)) {c : Char}
    (hc : isBlank c) : P c := by
  have := h c.toNat (List.elem_iff.1 hc)
  rwa [Char.ofNat_toNat] at this

/-- A property that holds of the ten figures holds of a figure. -/
theorem digit_induction {P : Char → Prop} (h : ∀ n ∈ List.range 10, P (Char.ofNat (48 + n)))
    {c : Char} (hc : c.isDigit) : P c := by
  obtain ⟨hle, hge⟩ := Char.isDigit_iff_toNat.1 hc
  have hle : 48 ≤ c.toNat := hle
  have hge : c.toNat ≤ 57 := hge
  have := h (c.toNat - 48) (List.mem_range.2 (by omega))
  rwa [Nat.add_sub_cancel' hle, Char.ofNat_toNat] at this

theorem toNat_lt_of_isDigit {c : Char} (h : c.isDigit) : c.toNat < 128 :=
  digit_induction (P := fun c => c.toNat < 128) (by decide) h

theorem toNat_lt_of_isAlpha {c : Char} (h : c.isAlpha) : c.toNat < 128 := by
  change (decide ('A'.val ≤ c.val ∧ c.val ≤ 'Z'.val) ||
    decide ('a'.val ≤ c.val) && decide (c.val ≤ 'z'.val)) = true at h
  simp only [Bool.or_eq_true, Bool.and_eq_true, decide_eq_true_eq, UInt32.le_iff_toNat_le] at h
  have hupper : 'Z'.val.toNat = 90 := rfl
  have hlower : 'z'.val.toNat = 122 := rfl
  change c.val.toNat < 128
  omega

theorem toLower_of_isDigit {c : Char} (h : c.isDigit) : c.toLower = c :=
  digit_induction (P := fun c => c.toLower = c) (by decide) h

theorem isBlank_of_isDigit {c : Char} (h : c.isDigit) : isBlank c = false :=
  digit_induction (P := fun c => isBlank c = false) (by decide) h

theorem isWord_of_isDigit {c : Char} (h : c.isDigit) : isWord c = true :=
  digit_induction (P := fun c => isWord c = true) (by decide) h

theorem not_isDigit_of_isAlpha {c : Char} (h : c.isAlpha) : c.isDigit = false := by
  rw [Bool.eq_false_iff]
  intro hdigit
  have hnot : c.isAlpha = false :=
    digit_induction (P := fun c => c.isAlpha = false) (by decide) hdigit
  simp [hnot] at h

theorem isLetter_of_isDigit {l c : Char} (hl : l.isAlpha) (h : c.isDigit) :
    isLetter l c = false := by
  have hfold : folded? c = none := digit_induction (P := fun c => folded? c = none) (by decide) h
  rw [isLetter_toLower l c hfold, toLower_of_isDigit h, beq_eq_false_iff_ne]
  rintro rfl
  rw [not_isDigit_of_isAlpha hl] at h
  cases h

/-! ## Capitals and small letters -/

/-- Only the twenty-six capitals have a small form other than themselves. -/
theorem toLower_cases (c : Char) :
    c.toLower = c ∨ ∃ n ∈ List.range 26, c = Char.ofNat (65 + n) := by
  by_cases h : 'A'.val ≤ c.val ∧ c.val ≤ 'Z'.val
  · have hle : 65 ≤ c.toNat := UInt32.le_iff_toNat_le.1 h.1
    have hge : c.toNat ≤ 90 := UInt32.le_iff_toNat_le.1 h.2
    refine .inr ⟨c.toNat - 65, List.mem_range.2 (by omega), ?_⟩
    rw [Nat.add_sub_cancel' hle, Char.ofNat_toNat]
  · exact .inl (dif_neg h)

theorem toUpper_cases (c : Char) :
    c.toUpper = c ∨ ∃ n ∈ List.range 26, c = Char.ofNat (97 + n) := by
  by_cases h : 'a'.val ≤ c.val ∧ c.val ≤ 'z'.val
  · have hle : 97 ≤ c.toNat := UInt32.le_iff_toNat_le.1 h.1
    have hge : c.toNat ≤ 122 := UInt32.le_iff_toNat_le.1 h.2
    refine .inr ⟨c.toNat - 97, List.mem_range.2 (by omega), ?_⟩
    rw [Nat.add_sub_cancel' hle, Char.ofNat_toNat]
  · exact .inl (dif_neg h)

/-- Characters beyond ASCII are left as they are. -/
theorem toLower_of_le {c : Char} (h : 128 ≤ c.toNat) : c.toLower = c := by
  rcases toLower_cases c with hsame | ⟨n, hn, rfl⟩
  · exact hsame
  · have all : ∀ n ∈ List.range 26, (Char.ofNat (65 + n)).toNat < 128 := by decide
    exact absurd h (Nat.not_le.2 (all n hn))

/-- What is no letter is the small form of itself only. -/
theorem toLower_eq_iff {x c : Char} (hx : x.isAlpha = false) : c.toLower = x ↔ c = x := by
  rcases toLower_cases c with hsame | ⟨n, hn, rfl⟩
  · rw [hsame]
  · have all : ∀ n ∈ List.range 26, (Char.ofNat (65 + n)).isAlpha ∧
        (Char.ofNat (65 + n)).toLower.isAlpha := by decide
    obtain ⟨halpha, hlower⟩ := all n hn
    refine iff_of_false ?_ ?_
    · rintro rfl
      simp [hx] at hlower
    · rintro rfl
      simp [hx] at halpha

end Abacus.Text
