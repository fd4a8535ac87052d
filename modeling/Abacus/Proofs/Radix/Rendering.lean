import Abacus.Proofs.Radix.Digits
import Abacus.Proofs.Text.Basic
import Abacus.Radix.Rendering
import Mathlib.Data.Bool.AllAny

/-!
# Renderings read back

The digits that are shown denote the magnitude again, in whatever case they are shown.  In the bases
up to sixteen a rendering is made of a few characters, none of which separates or trims anything.
-/

namespace Abacus.Radix

theorem toNat_digitChar_lt {d : Nat} (h : d < 36) :
    (digitChar d).toNat < 128 ∧ (digitChar d).toUpper.toNat < 128 := by
  have all : ∀ e ∈ List.range 36,
      (digitChar e).toNat < 128 ∧ (digitChar e).toUpper.toNat < 128 := by decide
  exact all d (List.mem_range.2 h)

theorem toLower_digitChar {d : Nat} (h : d < 36) :
    (digitChar d).toLower = digitChar d ∧ (digitChar d).toUpper.toLower = digitChar d := by
  have all : ∀ e ∈ List.range 36,
      (digitChar e).toLower = digitChar e ∧ (digitChar e).toUpper.toLower = digitChar e := by decide
  exact all d (List.mem_range.2 h)

/-- The digits of a base, in capitals for base sixteen. -/
theorem shownDigits_eq (b : Base) (m : Nat) :
    shownDigits b m = if b.val = 16 then (digits b m).map Char.toUpper else digits b m := by
  rw [shownDigits]
  split
  · rename_i h
    obtain rfl : b = .ten := by cases b; cases h; rfl
    exact figures_eq_digits m
  · rfl

/-- What is shown of a number are digits of its base, small or capital. -/
theorem exists_of_mem_shownDigits {b : Base} {m : Nat} {c : Char} (hc : c ∈ shownDigits b m) :
    ∃ d, d < b.val ∧ (c = digitChar d ∨ c = (digitChar d).toUpper) := by
  rw [shownDigits_eq] at hc
  split at hc
  · obtain ⟨c', hc', rfl⟩ := List.mem_map.1 hc
    obtain ⟨d, hd, rfl⟩ := exists_of_mem_digits hc'
    exact ⟨d, hd, .inr rfl⟩
  · obtain ⟨d, hd, rfl⟩ := exists_of_mem_digits hc
    exact ⟨d, hd, .inl rfl⟩

theorem toNat_lt_of_mem_shownDigits {b : Base} {m : Nat} {c : Char} (hc : c ∈ shownDigits b m) :
    c.toNat < 128 := by
  obtain ⟨d, hd, hcd⟩ := exists_of_mem_shownDigits hc
  have hchar := toNat_digitChar_lt (show d < 36 by have := b.le_max; omega)
  rcases hcd with rfl | rfl
  · exact hchar.1
  · exact hchar.2

/-- Digits of a number are small, and capitals of them become small again. -/
theorem toLower_of_mem_digits {b : Base} {m : Nat} {c : Char} (hc : c ∈ digits b m) :
    c.toNat < 128 ∧ c.toLower = c ∧ c.toUpper.toLower = c := by
  obtain ⟨d, hd, rfl⟩ := exists_of_mem_digits hc
  have hlt : d < 36 := by
    have := b.le_max
    omega
  exact ⟨(toNat_digitChar_lt hlt).1, toLower_digitChar hlt⟩

/-- The digits of a number are in lower case. -/
theorem lower_digits (b : Base) (m : Nat) : Text.lower (digits b m) = digits b m := by
  rw [Text.lower_eq_map fun c hc => (toLower_of_mem_digits hc).1]
  exact (List.map_congr_left fun c hc => (toLower_of_mem_digits hc).2.1).trans (List.map_id _)

/-- In lower case the digits that are shown are the digits of the number. -/
theorem lower_shownDigits (b : Base) (m : Nat) : Text.lower (shownDigits b m) = digits b m := by
  rw [Text.lower_eq_map fun c => toNat_lt_of_mem_shownDigits, shownDigits_eq]
  split
  · rw [List.map_map]
    exact (List.map_congr_left fun c hc => (toLower_of_mem_digits hc).2.2).trans (List.map_id _)
  · exact (List.map_congr_left fun c hc => (toLower_of_mem_digits hc).2.1).trans (List.map_id _)

theorem shownDigits_ne_nil (b : Base) (m : Nat) : shownDigits b m ≠ [] := by
  intro h
  have := lower_shownDigits b m
  rw [h] at this
  exact digits_ne_nil b m this.symm

/-- The digits that are shown denote the number. -/
theorem readDigits_shownDigits (b : Base) (m : Nat) :
    readDigits b.val (shownDigits b m) = .ok m := by
  rw [readDigits, if_neg (by simpa using shownDigits_ne_nil b m), lower_shownDigits,
    foldlM_readDigit_digits]

theorem signed_natAbs (n : Int) : signed (decide (n < 0)) n.natAbs = n := by
  rw [signed]
  split
  · rename_i h
    simp only [decide_eq_true_eq] at h
    omega
  · rename_i h
    simp only [decide_eq_true_eq] at h
    omega

/-! ## The parts of renderings -/

/-- The sign in front of a rendering. -/
def signOf (n : Int) : Text := if n < 0 then ['-'] else []

theorem signOf_beq (n : Int) : (signOf n == ['-']) = decide (n < 0) := by
  rw [signOf]
  split <;> simp [*]

theorem render_eq (b : Base) (n : Int) :
    render b n = signOf n ++ (mark b ++ shownDigits b n.natAbs) := List.append_assoc _ _ _

theorem render_ne_nil (b : Base) (n : Int) : render b n ≠ [] := by
  simp [render, shownDigits_ne_nil]

/-! ## The characters of renderings -/

/-- The characters of the renderings in bases up to sixteen. -/
def renderingChars : List Char := "-0123456789abcdefABCDEFxo".toList

theorem digitChar_mem_renderingChars {d : Nat} (h : d < 16) :
    digitChar d ∈ renderingChars ∧ (digitChar d).toUpper ∈ renderingChars := by
  have all : ∀ e ∈ List.range 16,
      digitChar e ∈ renderingChars ∧ (digitChar e).toUpper ∈ renderingChars := by decide
  exact all d (List.mem_range.2 h)

theorem mem_renderingChars_of_mem_shownDigits {b : Base} (hb : b.val ≤ 16) {m : Nat} {c : Char}
    (hc : c ∈ shownDigits b m) : c ∈ renderingChars := by
  obtain ⟨d, hd, hcd⟩ := exists_of_mem_shownDigits hc
  have hchar := digitChar_mem_renderingChars (show d < 16 by omega)
  rcases hcd with rfl | rfl
  · exact hchar.1
  · exact hchar.2

theorem mem_renderingChars_of_mem_mark {b : Base} {c : Char} (hc : c ∈ mark b) :
    c ∈ renderingChars := by
  have all : ∀ c ∈ ['0', 'x', 'b', 'o'], c ∈ renderingChars :=
    List.all_iff_forall_prop.1 (by decide)
  apply all
  simp only [mark] at hc
  grind

theorem mem_renderingChars_of_mem_render {b : Base} (hb : b.val ≤ 16) {n : Int} {c : Char}
    (hc : c ∈ render b n) : c ∈ renderingChars := by
  rw [render, List.mem_append, List.mem_append] at hc
  rcases hc with (hc | hc) | hc
  · split at hc
    · obtain rfl : c = '-' := by simpa using hc
      decide
    · cases hc
  · exact mem_renderingChars_of_mem_mark hc
  · exact mem_renderingChars_of_mem_shownDigits hb hc

end Abacus.Radix
