import Abacus.Binary64.Basic
import Mathlib

/-!
# The integers among the finite doubles

An integer rounds to a finite double as long as it lies less than half a unit above the greatest
one.  From there on it counts as infinite: the tie itself goes to the even significand, which is the
one that is out of range.
-/

namespace Abacus.Binary64

open Float.Model (Format)
open Float.Model.UnpackedFloat (isNaNBits pack_unpack unpackExponent unpackExponent_def)

variable {d den j k l m n num : Nat} {x : Float}

/-! ## Magnitudes -/

/-- A word whose exponent field does not consist of ones is kept by the double made of it. -/
theorem toBits_ofBits {b : UInt64} (h : b.toNat / 2 ^ 52 % 2 ^ 11 ≠ 2047) :
    (Float.ofBits b).toBits = b := by
  have hexponent : @unpackExponent Format.binary64 b.toBitVec ≠ -1#_ := by
    rw [unpackExponent_def]
    intro heq
    have hnat := congrArg BitVec.toNat heq
    rw [BitVec.extractLsb'_toNat, Nat.shiftRight_eq_div_pow] at hnat
    exact h hnat
  have hnan : @isNaNBits Format.binary64 b.toBitVec = false :=
    decide_eq_false fun hbits => hexponent hbits.1
  have hpack := @pack_unpack Format.binary64 b.toBitVec (by decide)
  rw [hnan, if_neg Bool.false_ne_true] at hpack
  exact UInt64.toBitVec_inj.1 hpack

theorem isFinite_ofMagnitude (h : m < 2047 * 2 ^ 52) : isFinite (ofMagnitude false m) := by
  have hword : (UInt64.ofNat m).toNat = m := UInt64.toNat_ofNat_of_lt' (by
    rw [UInt64.size]
    omega)
  have hbits : (ofMagnitude false m).toBits = UInt64.ofNat m := by
    refine @toBits_ofBits (UInt64.ofNat m) ?_
    rw [hword]
    omega
  have hfield : field (ofMagnitude false m) = m / 2 ^ 52 % 2 ^ 11 := by
    rw [field, hbits, hword]
    rfl
  rw [isFinite, hfield, bne_iff_ne]
  omega

/-- A magnitude that is cut at infinity is finite if it did not reach it. -/
theorem isFinite_ofMagnitude_min (m : Nat) :
    isFinite (ofMagnitude false (min m (2047 * 2 ^ 52))) ↔ m < 2047 * 2 ^ 52 := by
  rcases Nat.lt_or_ge m (2047 * 2 ^ 52) with h | h
  · rw [Nat.min_eq_left h.le]
    exact iff_of_true (isFinite_ofMagnitude h) h
  · have hinfinite : ¬ isFinite (infinity false) := by decide
    rw [Nat.min_eq_right h]
    exact iff_of_false hinfinite (Nat.not_lt.2 h)

/-! ## Rounding -/

theorem le_roundDiv (hd : 0 < d) (h : k * d ≤ n) : k ≤ roundDiv n d := by
  have hquotient : k ≤ n / d := (Nat.le_div_iff_mul_le hd).2 h
  rw [roundDiv]
  split
  · exact hquotient
  split <;> omega

theorem roundDiv_le (hd : 0 < d) (h : n < k * d) : roundDiv n d ≤ k := by
  have hquotient : n / d < k := (Nat.div_lt_iff_lt_mul hd).2 h
  rw [roundDiv]
  split
  · exact hquotient.le
  split <;> omega

/-- What rounds to less than an even number lies more than half a unit below it, since a tie goes to
the even number. -/
theorem roundDiv_lt_iff (hd : 0 < d) (hk : k % 2 = 0) :
    roundDiv n d < k ↔ 2 * n + d < 2 * (k * d) := by
  have hdiv : n / d * d + n % d = n := Nat.div_add_mod' n d
  have hlt : n % d < d := Nat.mod_lt n hd
  have hbelow : n / d + 2 ≤ k → n / d * d + 2 * d ≤ k * d := fun h => by
    rw [← Nat.add_mul]
    exact Nat.mul_le_mul_right d h
  have hnext : n / d + 1 = k → n / d * d + d = k * d := by
    rintro rfl
    rw [Nat.succ_mul]
  have habove : k ≤ n / d → k * d ≤ n / d * d := Nat.mul_le_mul_right d
  rw [roundDiv]
  split
  · omega
  split <;> omega

/-! ## Integers -/

theorem scaledRatio_of_le (h : l + j = 52) : scaledRatio n 1 ((l : Int) - 52) = (n * 2 ^ j, 1) := by
  by_cases hj : j = 0
  · obtain rfl : l = 52 := by omega
    subst hj
    rw [scaledRatio, if_neg (by omega), Nat.pow_zero, Nat.mul_one]
    rfl
  · have hexponent : (-((l : Int) - 52)).toNat = j := by omega
    rw [scaledRatio, if_pos (by omega), hexponent]
    rfl

theorem scaledRatio_of_ge (h : l = 52 + j) : scaledRatio n 1 ((l : Int) - 52) = (n, 2 ^ j) := by
  have hexponent : ((l : Int) - 52).toNat = j := by omega
  rw [scaledRatio, if_neg (by omega), hexponent, Nat.one_mul]
  rfl

/-- With the exponent that its size asks for, an integer has a significand of 53 bits. -/
theorem scaledRatio_log2 (hn : n ≠ 0) (h : scaledRatio n 1 ((Nat.log2 n : Int) - 52) = (num, den)) :
    0 < den ∧ 2 ^ 52 * den ≤ num ∧ num < 2 ^ 53 * den := by
  have hle : 2 ^ Nat.log2 n ≤ n := Nat.log2_self_le hn
  have hlt : n < 2 ^ (Nat.log2 n + 1) := Nat.lt_log2_self
  rcases Nat.le_total (Nat.log2 n) 52 with hl | hl
  · obtain ⟨j, hj⟩ := Nat.exists_eq_add_of_le hl
    rw [scaledRatio_of_le hj.symm, Prod.mk.injEq] at h
    obtain ⟨rfl, rfl⟩ := h
    refine ⟨Nat.one_pos, ?_, ?_⟩
    · calc
        2 ^ 52 * 1 = 2 ^ Nat.log2 n * 2 ^ j := by rw [← Nat.pow_add, ← hj, Nat.mul_one]
        _ ≤ n * 2 ^ j := Nat.mul_le_mul_right _ hle
    · calc
        n * 2 ^ j < 2 ^ (Nat.log2 n + 1) * 2 ^ j :=
          Nat.mul_lt_mul_of_pos_right hlt (Nat.two_pow_pos j)
        _ = 2 ^ 53 * 1 := by rw [← Nat.pow_add, Nat.add_right_comm, ← hj, Nat.mul_one]
  · obtain ⟨j, hj⟩ := Nat.exists_eq_add_of_le hl
    rw [scaledRatio_of_ge hj, Prod.mk.injEq] at h
    obtain ⟨rfl, rfl⟩ := h
    rw [hj] at hle hlt
    rw [Nat.add_right_comm] at hlt
    rw [← Nat.pow_add, ← Nat.pow_add]
    exact ⟨Nat.two_pow_pos j, hle, hlt⟩

theorem ratioExponent_one (hn : n ≠ 0) : ratioExponent n 1 = (Nat.log2 n : Int) - 52 := by
  have hone : Nat.log2 1 = 0 := by decide
  rw [ratioExponent, hone]
  simp only [Int.natCast_zero, Int.sub_zero]
  cases hs : scaledRatio n 1 ((Nat.log2 n : Int) - 52) with
  | mk num den =>
    have hle : Nat.pow 2 52 * den ≤ num := (scaledRatio_log2 hn hs).2.1
    rw [if_neg (Nat.not_lt.2 hle)]
    omega

theorem ofInt_natCast (hn : n ≠ 0) (h : scaledRatio n 1 ((Nat.log2 n : Int) - 52) = (num, den)) :
    ofInt n = ofMagnitude false
      (min ((Nat.log2 n + 1022) * 2 ^ 52 + roundDiv num den) (2047 * 2 ^ 52)) := by
  have hexponent : ((Nat.log2 n : Int) - 52 + 1074).toNat = Nat.log2 n + 1022 := by omega
  have hnonneg : decide ((n : Int) < 0) = false := by simp
  rw [ofInt, hnonneg, Int.natAbs_natCast, ofRatio, if_neg hn, ratioExponent_one hn]
  dsimp only
  rw [hexponent, h]
  rfl

/-- The integers that round to finite doubles. -/
theorem isFinite_ofInt_iff : isFinite (ofInt n) ↔ n < 2 ^ 1024 - 2 ^ 970 := by
  -- the exponent is kept a variable, so that the power is not computed
  obtain ⟨e, he⟩ : ∃ e, e = 970 := ⟨970, rfl⟩
  have hall : 1024 = 54 + e := by omega
  have hunit : 0 < 2 ^ e := Nat.two_pow_pos e
  rw [hall, ← he, Nat.pow_add]
  by_cases hn : n = 0
  · subst hn
    exact iff_of_true (by decide) (by omega)
  have hle : 2 ^ Nat.log2 n ≤ n := Nat.log2_self_le hn
  have hlt : n < 2 ^ (Nat.log2 n + 1) := Nat.lt_log2_self
  cases hs : scaledRatio n 1 ((Nat.log2 n : Int) - 52) with
  | mk num den =>
    obtain ⟨hden, hmin, hmax⟩ := scaledRatio_log2 hn hs
    rw [ofInt_natCast hn hs, isFinite_ofMagnitude_min]
    rcases Nat.lt_trichotomy (Nat.log2 n) 1023 with hl | hl | hl
    · have hround := roundDiv_le hden hmax
      have hpow : 2 ^ (Nat.log2 n + 1) ≤ 2 ^ (53 + e) := Nat.pow_le_pow_right Nat.two_pos (by omega)
      rw [Nat.pow_add 2 53] at hpow
      exact iff_of_true (by omega) (by omega)
    · -- only integers of 1024 bits may be rounded out of the range
      rw [scaledRatio_of_ge (j := 1 + e) (by omega), Prod.mk.injEq] at hs
      obtain ⟨rfl, rfl⟩ := hs
      have hround : roundDiv n (2 ^ (1 + e)) < 2 ^ 53 ↔ _ := roundDiv_lt_iff hden (by decide)
      rw [Nat.pow_add 2 1] at hround ⊢
      omega
    · have hround := le_roundDiv hden hmin
      have hpow : 2 ^ (54 + e) ≤ 2 ^ Nat.log2 n := Nat.pow_le_pow_right Nat.two_pos (by omega)
      rw [Nat.pow_add] at hpow
      exact iff_of_false (by omega) (by omega)

/-- What is below an integer that is a finite double is one, too. -/
theorem isFinite_ofInt_of_le (h : isFinite (ofInt n)) (hm : m ≤ n) : isFinite (ofInt m) :=
  isFinite_ofInt_iff.2 (Nat.lt_of_le_of_lt hm (isFinite_ofInt_iff.1 h))

/-- An integer that is a finite double has at most 1024 bits. -/
theorem log2_lt_of_isFinite_ofInt (h : isFinite (ofInt n)) : Nat.log2 n < 1024 := by
  have hlt := isFinite_ofInt_iff.1 h
  obtain ⟨e, he⟩ : ∃ e, e = 1024 := ⟨1024, rfl⟩
  rw [← he] at hlt ⊢
  by_cases hn : n = 0
  · subst hn
    rw [he]
    decide
  · rw [Nat.log2_lt hn]
    exact Nat.lt_of_lt_of_le hlt (Nat.sub_le _ _)

theorem ofInt?_eq_some : ofInt? n = some x ↔ isFinite (ofInt n) ∧ ofInt n = x := by
  rw [ofInt?]
  split <;> simp [*]

end Abacus.Binary64
