import Abacus.Proofs.Text.Ascii
import Abacus.Radix.Digits
import Mathlib.Tactic.Ring

/-!
# The digits of a number denote it

The digits of a natural number in a base are the digits of its quotient by the base, followed by the
digit of the remainder.  From this equation come the facts that readers of digits need: there is a
digit, all digits are below the base, and the first one is a zero for zero only.  The figures that
are made block by block are the digits in base ten.
-/

namespace Abacus.Radix

/-! ## The equation of digits -/

theorem digitsOnto_of_lt {b : Base} {m : Nat} (h : m < b.val) (rest : Text) :
    digitsOnto b m rest = digitChar m :: rest := by
  rw [digitsOnto, if_pos h]

theorem digitsOnto_of_le {b : Base} {m : Nat} (h : b.val ≤ m) (rest : Text) :
    digitsOnto b m rest = digitsOnto b (m / b.val) (digitChar (m % b.val) :: rest) := by
  rw [digitsOnto, if_neg (by omega)]

theorem div_base_lt {b : Base} {m : Nat} (h : b.val ≤ m) : m / b.val < m :=
  Nat.div_lt_self (by have := b.two_le; omega) (by have := b.two_le; omega)

/-- Induction along the digits of a number, from the most significant one on. -/
theorem digits_induction (b : Base) {motive : Nat → Prop}
    (single : ∀ m, m < b.val → motive m)
    (more : ∀ m, b.val ≤ m → motive (m / b.val) → motive m) (m : Nat) : motive m := by
  induction m using Nat.strong_induction_on with
  | _ m ih =>
    rcases Nat.lt_or_ge m b.val with h | h
    · exact single m h
    · exact more m h (ih _ (div_base_lt h))

theorem digitsOnto_eq_append (b : Base) (m : Nat) (rest : Text) :
    digitsOnto b m rest = digits b m ++ rest := by
  induction m using digits_induction b generalizing rest with
  | single m h => rw [digits, digitsOnto_of_lt h, digitsOnto_of_lt h, List.singleton_append]
  | more m h ih =>
    calc
      digitsOnto b m rest = digits b (m / b.val) ++ ([digitChar (m % b.val)] ++ rest) := by
          rw [digitsOnto_of_le h, ih, List.singleton_append]
      _ = digitsOnto b (m / b.val) [digitChar (m % b.val)] ++ rest := by
          rw [ih, List.append_assoc]
      _ = digits b m ++ rest := by rw [digits, digitsOnto_of_le h []]

theorem digits_of_lt {b : Base} {m : Nat} (h : m < b.val) : digits b m = [digitChar m] :=
  digitsOnto_of_lt h []

theorem digits_of_le {b : Base} {m : Nat} (h : b.val ≤ m) :
    digits b m = digits b (m / b.val) ++ [digitChar (m % b.val)] := by
  rw [digits, digitsOnto_of_le h, digitsOnto_eq_append]

theorem digits_ne_nil (b : Base) (m : Nat) : digits b m ≠ [] := by
  rcases Nat.lt_or_ge m b.val with h | h
  · simp [digits_of_lt h]
  · simp [digits_of_le h]

/-- Every digit is the digit of a value below the base. -/
theorem exists_of_mem_digits {b : Base} {m : Nat} {c : Char} (hc : c ∈ digits b m) :
    ∃ d, d < b.val ∧ c = digitChar d := by
  induction m using digits_induction b with
  | single m h =>
    rw [digits_of_lt h, List.mem_singleton] at hc
    exact ⟨m, h, hc⟩
  | more m h ih =>
    rw [digits_of_le h, List.mem_append, List.mem_singleton] at hc
    rcases hc with hc | hc
    · exact ih hc
    · exact ⟨m % b.val, Nat.mod_lt _ (by have := b.two_le; omega), hc⟩

/-- The digits in base ten are figures. -/
theorem isDigit_of_mem_digits {m : Nat} {c : Char} (hc : c ∈ digits .ten m) : c.isDigit := by
  have all : ∀ d ∈ List.range 10, (digitChar d).isDigit := by decide
  obtain ⟨d, hd, rfl⟩ := exists_of_mem_digits hc
  exact all d (List.mem_range.2 hd)

theorem digitChar_ne_zero {d : Nat} (h : d < 36) (hd : d ≠ 0) : digitChar d ≠ '0' := by
  have all : ∀ e ∈ List.range 36, e ≠ 0 → digitChar e ≠ '0' := by decide
  exact all d (List.mem_range.2 h) hd

/-- The first digit of a number other than zero is not a zero. -/
theorem head?_digits_ne_zero (b : Base) {m : Nat} (hm : m ≠ 0) :
    (digits b m).head? ≠ some '0' := by
  induction m using digits_induction b with
  | single m h =>
    have := b.le_max
    simp [digits_of_lt h, digitChar_ne_zero (show m < 36 by omega) hm]
  | more m h ih =>
    have hq : m / b.val ≠ 0 := (Nat.div_pos h (by have := b.two_le; omega)).ne'
    rw [digits_of_le h, List.head?_append,
      Option.or_of_isSome (by simp [List.isSome_head?, digits_ne_nil])]
    exact ih hq

theorem digits_zero (b : Base) : digits b 0 = ['0'] :=
  digits_of_lt (by have := b.two_le; omega)

/-! ## Reading -/

theorem readDigit_digitChar {b : Base} {d : Nat} (m : Nat) (h : d < b.val) :
    readDigit b.val m (digitChar d) = .ok (m * b.val + d) := by
  have := b.le_max
  rw [readDigit, digitValue?_digitChar (by omega)]
  simp [h]

/-- A fold over the digits of a number comes to the number. -/
theorem foldlM_readDigit_digits (b : Base) (m : Nat) :
    (digits b m).foldlM (readDigit b.val) 0 = .ok m := by
  induction m using digits_induction b with
  | single m h =>
    rw [digits_of_lt h, List.foldlM_cons, readDigit_digitChar 0 h]
    simp [pure, Except.pure, bind, Except.bind]
  | more m h ih =>
    have hr : m % b.val < b.val := Nat.mod_lt _ (by have := b.two_le; omega)
    rw [digits_of_le h, List.foldlM_append, ih]
    simp only [bind, Except.bind, List.foldlM_cons, List.foldlM_nil, pure, Except.pure,
      readDigit_digitChar _ hr]
    rw [Nat.div_add_mod']

/-! ## Figures in blocks -/

/-- A given number of last digits, zeros in front included. -/
def lastDigits (b : Base) : Nat → Nat → Text
  | 0, _ => []
  | k + 1, m => lastDigits b k (m / b.val) ++ [digitChar (m % b.val)]

@[simp] theorem lastDigits_zero_right (b : Base) (k : Nat) :
    lastDigits b k 0 = List.replicate k '0' := by
  induction k with
  | zero => rfl
  | succ k ih => simp [lastDigits, ih, digitChar, alphabet, List.replicate_succ']

/-- Digits filled with zeros are the last digits of a number that has no more of them. -/
theorem replicate_append_digits (b : Base) {k m : Nat} (h : m < b.val ^ (k + 1)) :
    List.replicate (k + 1 - (digits b m).length) '0' ++ digits b m = lastDigits b (k + 1) m := by
  induction k generalizing m with
  | zero =>
    rw [Nat.zero_add, Nat.pow_one] at h
    simp [digits_of_lt h, lastDigits, Nat.mod_eq_of_lt h]
  | succ k ih =>
    rcases Nat.lt_or_ge m b.val with hm | hm
    · rw [lastDigits, Nat.div_eq_of_lt hm, Nat.mod_eq_of_lt hm, lastDigits_zero_right,
        digits_of_lt hm]
      simp
    · have hq : m / b.val < b.val ^ (k + 1) := by
        rw [Nat.div_lt_iff_lt_mul (by have := b.two_le; omega), ← Nat.pow_succ]
        exact h
      rw [lastDigits, ← ih hq, digits_of_le hm, List.append_assoc]
      simp

/-- The digits of a number that is put together from a number and its last digits. -/
theorem digits_mul_pow_add (b : Base) {k q r : Nat} (hq : q ≠ 0) (hr : r < b.val ^ k) :
    digits b (q * b.val ^ k + r) = digits b q ++ lastDigits b k r := by
  have hb := b.two_le
  induction k generalizing r with
  | zero =>
    have : r = 0 := by simpa using hr
    simp [this, lastDigits]
  | succ k ih =>
    have hsplit : q * b.val ^ (k + 1) + r = b.val * (q * b.val ^ k) + r := by ring
    have hpos : 0 < q * b.val ^ k := Nat.mul_pos (Nat.pos_of_ne_zero hq) (Nat.pow_pos (by omega))
    have hle : b.val ≤ q * b.val ^ (k + 1) + r := by
      rw [hsplit]
      exact Nat.le_add_right_of_le (Nat.le_mul_of_pos_right _ hpos)
    have hr' : r / b.val < b.val ^ k := by
      rw [Nat.div_lt_iff_lt_mul (by omega), ← Nat.pow_succ]
      exact hr
    rw [digits_of_le hle, hsplit, Nat.mul_add_div (by omega), Nat.mul_add_mod, ih hr', lastDigits,
      List.append_assoc]

/-- A block is the last digits of its number. -/
theorem block_eq_lastDigits {m : Nat} (h : m < 10 ^ blockLength) :
    block m = lastDigits .ten blockLength m :=
  replicate_append_digits .ten h

theorem figuresOnto_eq_append (m : Nat) (rest : Text) :
    figuresOnto m rest = digits .ten m ++ rest := by
  have hB : 0 < 10 ^ blockLength := by decide
  induction m using Nat.strong_induction_on generalizing rest with
  | _ m ih =>
    rw [figuresOnto, Nat.pow_eq]
    split
    · rfl
    · rename_i hm
      have hlt : m / 10 ^ blockLength < m := Nat.div_lt_self (by omega) (by decide)
      have hq : m / 10 ^ blockLength ≠ 0 := (Nat.div_pos (by omega) hB).ne'
      have hr : m % 10 ^ blockLength < 10 ^ blockLength := Nat.mod_lt _ hB
      have hm : digits .ten m = digits .ten (m / 10 ^ blockLength) ++
          lastDigits .ten blockLength (m % 10 ^ blockLength) := by
        conv_lhs => rw [← Nat.div_add_mod' m (10 ^ blockLength)]
        exact digits_mul_pow_add .ten hq hr
      rw [ih _ hlt, block_eq_lastDigits hr, ← List.append_assoc, hm]

/-- Figures made in blocks are the digits in base ten. -/
theorem figures_eq_digits (m : Nat) : figures m = digits .ten m := by
  rw [figures, figuresOnto_eq_append, List.append_nil]

/-! ## Digits in either case -/

theorem isDigitBelow_mono {k m : Nat} (hkm : k ≤ m) {c : Char} (h : isDigitBelow k c) :
    isDigitBelow m c := by
  rw [isDigitBelow, Option.any_eq_true] at h ⊢
  obtain ⟨d, hd, hlt⟩ := h
  exact ⟨d, hd, decide_eq_true (Nat.lt_of_lt_of_le (of_decide_eq_true hlt) hkm)⟩

theorem toNat_lt_of_isDigitBelow {bound : Nat} {c : Char} (h : isDigitBelow bound c) :
    c.toNat < 128 := by
  refine Nat.lt_of_not_le fun hc => ?_
  rw [isDigitBelow, Text.toLower_of_le hc, digitValue?, if_neg (by omega), if_neg (by omega)] at h
  cases h

end Abacus.Radix
