import Abacus.Proofs.Text.Ascii
import Abacus.Proofs.Text.Runs

/-!
# What the tables of code points hold

What the tables tell of blanks, of digits and of the characters that stand for letters.
-/

namespace Abacus.Text

open CodePoints (Runs words)

set_option maxRecDepth 1000000 in
theorem wordRuns_apart : apart 0 wordRuns (blanks.map fun n => (n, n)) = true := by
  unfold wordRuns Runs.ofString words
  rw [String.toList_ofList]
  decide +kernel

theorem not_isAlphanum_of_isBlank {c : Char} (h : isBlank c) : (c.isAlphanum || c == '_') = false :=
  blank_induction (P := fun c => (c.isAlphanum || c == '_') = false) (by decide) h

/-- Blanks separate words. -/
theorem not_isWord_of_isBlank {c : Char} (h : isBlank c) : isWord c = false := by
  rw [isWord]
  split
  · exact not_isAlphanum_of_isBlank h
  · rw [Runs.contains, List.any_eq_false]
    intro r hr
    have := blanks_apart wordRuns_apart hr (List.elem_iff.1 h)
    simp only [Bool.and_eq_true, decide_eq_true_eq, not_and, Nat.not_le]
    omega

set_option maxRecDepth 1000000 in
theorem digitRuns_word : (digitRuns.all fun q =>
    wordRuns.any fun r => Nat.ble r.1 q.1 && Nat.ble q.2 r.2) = true := by
  unfold digitRuns wordRuns zeros Runs.ofString words
  rw [String.toList_ofList, String.toList_ofList]
  decide +kernel

/-- Decimal digits stand in words. -/
theorem isWord_of_isDecimal {c : Char} (h : isDecimal c) : isWord c := by
  rw [isDecimal, decimalValue?] at h
  rw [isWord]
  split
  · rename_i hlt
    rw [if_pos hlt] at h
    have hdigit : c.isDigit := by
      by_contra hno
      rw [if_neg hno] at h
      cases h
    simp [Char.isAlphanum, hdigit]
  · rename_i hge
    rw [if_neg hge, Option.isSome_map] at h
    obtain ⟨z, hz⟩ := Option.isSome_iff_exists.1 h
    have hrow := List.find?_some hz
    have hword := List.all_eq_true.1 digitRuns_word (z, z + 9)
      (List.mem_map_of_mem (List.mem_of_find?_eq_some hz))
    obtain ⟨r, hr, hin⟩ := List.any_eq_true.1 hword
    refine List.any_eq_true.2 ⟨r, hr, ?_⟩
    simp only [Bool.and_eq_true, decide_eq_true_eq, Nat.ble_eq] at hrow hin ⊢
    omega

set_option maxRecDepth 1000000 in
theorem foldedChars_word :
    (foldedChars.all fun c => Nat.ble 128 c.toNat && wordRuns.contains c.toNat) = true := by
  unfold wordRuns Runs.ofString words
  rw [String.toList_ofList]
  decide +kernel

/-- The characters that stand for letters stand in words. -/
theorem isWord_of_folded? {c : Char} (h : (folded? c).isSome) : isWord c := by
  obtain ⟨hge, hword⟩ :=
    Bool.and_eq_true_iff.1 (List.all_eq_true.1 foldedChars_word c (mem_foldedChars h))
  rw [isWord, if_neg (Nat.not_lt.2 (Nat.ble_eq.mp hge))]
  exact hword

/-- Blanks and the characters that stand for letters are no decimal digits. -/
theorem not_isDecimal_of_mem {c : Char} (h : isBlank c ∨ (folded? c).isSome) :
    isDecimal c = false := by
  have hmem : c.toNat ∈ blanks ++ foldedChars.map Char.toNat := by
    rcases h with h | h
    · exact List.mem_append_left _ (List.elem_iff.1 h)
    · exact List.mem_append_right _ (List.mem_map_of_mem (mem_foldedChars h))
  rw [isDecimal, decimalValue?]
  split
  · rename_i hlt
    have hdigit : c.isDigit = false := by
      rcases h with h | h
      · exact blank_induction (P := fun c => c.isDigit = false) (by decide) h
      · have all : ∀ c ∈ foldedChars, 128 ≤ c.toNat := by decide
        exact absurd hlt (Nat.not_lt.2 (all c (mem_foldedChars h)))
    simp [hdigit]
  · have hnone : zeros.find? (fun z => z ≤ c.toNat && c.toNat < z + 10) = none := by
      rw [List.find?_eq_none]
      intro z hz
      have hall := List.all_eq_true.1 (List.all_eq_true.1 zeros_apart z hz) _ hmem
      rw [Bool.not_eq_true'] at hall
      simp [hall]
    rw [hnone]
    rfl

/-- An ASCII character that shows a digit is a decimal digit. -/
theorem showsDigit_eq_of_lt {c : Char} (h : c.toNat < 128) : showsDigit c = isDecimal c := by
  have hnone : digitSigns.contains c.toNat = false := by
    rw [Runs.contains, List.any_eq_false]
    intro r hr
    have hle := List.all_eq_true.1 digitSigns_notAscii r hr
    rw [Nat.ble_eq] at hle
    simp only [Bool.and_eq_true, decide_eq_true_eq, not_and]
    omega
  rw [showsDigit, hnone, Bool.or_false]

/-- No identifier starts with a blank or a decimal digit. -/
theorem not_startsIdentifier {c : Char} (h : isBlank c ∨ isDecimal c) :
    startsIdentifier c = false := by
  rw [startsIdentifier]
  split
  · rename_i hlt
    exact ascii_induction (P := fun c => isBlank c ∨ isDecimal c →
      (c.isAlpha || c == '_') = false) (by decide +kernel) hlt h
  · rename_i hge
    rw [Runs.contains, List.any_eq_false]
    intro r hr
    obtain ⟨hascending, hblanks, hdigits⟩ := startRuns_apart
    simp only [Bool.and_eq_true, decide_eq_true_eq, not_and, Nat.not_le]
    rcases h with h | h
    · have := blanks_apart hblanks hr (List.elem_iff.1 h)
      omega
    · rw [isDecimal, decimalValue?, if_neg hge, Option.isSome_map] at h
      obtain ⟨z, hz⟩ := Option.isSome_iff_exists.1 h
      have hrow := List.find?_some hz
      have := (of_apart hdigits hascending r hr).2 (z, z + 9)
        (List.mem_map_of_mem (List.mem_of_find?_eq_some hz))
      simp only [Bool.and_eq_true, decide_eq_true_eq] at hrow
      omega

/-- No blank stands in an identifier. -/
theorem not_continuesIdentifier_of_isBlank {c : Char} (h : isBlank c) :
    continuesIdentifier c = false := by
  rw [continuesIdentifier]
  split
  · exact not_isAlphanum_of_isBlank h
  · rw [Runs.contains, List.any_eq_false]
    intro r hr
    have hapart := blanks_apart continueRuns_apart hr (List.elem_iff.1 h)
    simp only [Bool.and_eq_true, decide_eq_true_eq, not_and, Nat.not_le]
    omega

end Abacus.Text
