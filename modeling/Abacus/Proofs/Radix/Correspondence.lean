import Abacus.Proofs.Radix.Reading
import Abacus.Proofs.Radix.Rendering

/-!
# Digits and naturals correspond

A natural number has one text of digits without needless zeros in front, the one that is made of it.
Whatever else is read as the number differs from that text by case and by zeros in front only.
-/

namespace Abacus.Radix

open Numeral (Fault)

variable {b : Base} {s : Text} {m : Nat}

/-- Digits without the zeros in front of them; of zeros alone the last one is kept. -/
def withoutZeros : Text → Text
  | '0' :: c :: r => withoutZeros (c :: r)
  | s => s

theorem withoutZeros_zero_cons (hs : s ≠ []) : withoutZeros ('0' :: s) = withoutZeros s := by
  obtain ⟨c, r, rfl⟩ := List.exists_cons_of_ne_nil hs
  rfl

theorem withoutZeros_eq_self (h : s.head? = some '0' → s = ['0']) : withoutZeros s = s := by
  unfold withoutZeros
  split
  · cases h rfl
  · rfl

/-- One zero after the other is dropped, up to a text with no needless zero in front. -/
theorem withoutZeros_induction {P : Text → Prop}
    (zero : ∀ c r, P (c :: r) → P ('0' :: c :: r))
    (stop : ∀ s : Text, (s.head? = some '0' → s = ['0']) → P s) (s : Text) : P s := by
  induction s with
  | nil => exact stop [] nofun
  | cons d r ih =>
    cases r with
    | nil => exact stop [d] fun h => by rw [Option.some.inj h]
    | cons c r =>
      by_cases hd : d = '0'
      · rw [hd]
        exact zero c r ih
      · exact stop _ fun h => absurd (Option.some.inj h) hd

/-- What is left starts with a zero only if it is that zero. -/
theorem head?_withoutZeros (h : (withoutZeros s).head? = some '0') : withoutZeros s = ['0'] := by
  induction s using withoutZeros_induction with
  | zero c r ih => exact ih h
  | stop s hs =>
    rw [withoutZeros_eq_self hs] at h ⊢
    exact hs h

theorem withoutZeros_ne_nil (h : s ≠ []) : withoutZeros s ≠ [] := by
  induction s using withoutZeros_induction with
  | zero c r ih => exact ih (List.cons_ne_nil c r)
  | stop s hs => rwa [withoutZeros_eq_self hs]

theorem mem_of_mem_withoutZeros {c : Char} (h : c ∈ withoutZeros s) : c ∈ s := by
  induction s using withoutZeros_induction with
  | zero d r ih => exact List.mem_cons_of_mem _ (ih h)
  | stop s hs => rwa [withoutZeros_eq_self hs] at h

/-- Zeros in front do not count. -/
theorem foldlM_withoutZeros (b : Base) (s : Text) :
    (withoutZeros s).foldlM (readDigit b.val) 0 = s.foldlM (readDigit b.val) 0 := by
  have hzero : readDigit b.val 0 '0' = .ok 0 := by
    have := readDigit_digitChar (b := b) 0 (show 0 < b.val by have := b.two_le; omega)
    rwa [Nat.zero_mul] at this
  induction s using withoutZeros_induction with
  | zero c r ih =>
    have hcons : ('0' :: c :: r).foldlM (readDigit b.val) 0 =
        (c :: r).foldlM (readDigit b.val) 0 := by
      rw [List.foldlM_cons, hzero]
      rfl
    rw [withoutZeros_zero_cons (List.cons_ne_nil c r), ih, hcons]
  | stop s hs => rw [withoutZeros_eq_self hs]

/-- Digits without a needless zero in front are the digits of the number they denote. -/
theorem digits_of_foldlM (hs : s ≠ []) (hhead : s.head? = some '0' → s = ['0'])
    (hdigit : ∀ c ∈ s, IsDigitOf b c) (h : s.foldlM (readDigit b.val) 0 = .ok m) :
    digits b m = s := by
  induction s using List.reverseRecOn generalizing m with
  | nil => exact absurd rfl hs
  | append_singleton u c ih =>
    obtain ⟨d, hd, rfl⟩ := isDigitOf_iff.1 (hdigit c (by simp))
    have hu : ∀ e ∈ u, IsDigitOf b e := fun e he => hdigit e (by simp [he])
    obtain ⟨k, hk⟩ := exists_foldlM_readDigit hu 0
    have hm : m = k * b.val + d := by
      rw [List.foldlM_append, hk] at h
      change (List.foldlM (readDigit b.val) k [digitChar d]) = .ok m at h
      rw [List.foldlM_cons, readDigit_digitChar k hd] at h
      cases h
      rfl
    by_cases hnil : u = []
    · subst hnil
      cases hk
      rw [hm, Nat.zero_mul, Nat.zero_add, digits_of_lt hd, List.nil_append]
    · -- the digits in front start with no zero, so that they denote a number other than zero
      have hne : u.head? ≠ some '0' := by
        intro hzero
        have hlone := hhead (by rw [List.head?_append, hzero]; rfl)
        have hlength := congrArg List.length hlone
        have := List.length_pos_iff.2 hnil
        rw [List.length_append, List.length_singleton, List.length_singleton] at hlength
        omega
      have hdigits : digits b k = u := ih hnil (fun hzero => absurd hzero hne) hu hk
      have hpos : k ≠ 0 := by
        rintro rfl
        rw [digits_zero] at hdigits
        exact hne (by rw [← hdigits]; rfl)
      have hle : b.val ≤ m := by
        rw [hm]
        exact Nat.le_add_right_of_le (Nat.le_mul_of_pos_left _ (Nat.pos_of_ne_zero hpos))
      have hdiv : m / b.val = k := by
        rw [hm, Nat.mul_comm, Nat.mul_add_div (by omega), Nat.div_eq_of_lt hd, Nat.add_zero]
      have hmod : m % b.val = d := by
        rw [hm, Nat.mul_comm, Nat.mul_add_mod, Nat.mod_eq_of_lt hd]
      rw [digits_of_le hle, hdiv, hmod, hdigits]

theorem lower_ne_nil (h : s ≠ []) : Text.lower s ≠ [] := by
  obtain ⟨c, r, rfl⟩ := List.exists_cons_of_ne_nil h
  rw [Text.lower, Text.lowerFrom]
  refine List.append_ne_nil_of_left_ne_nil ?_ _
  by_cases hc : c.toNat < 128
  · rw [Text.lowerChar, if_pos hc]
    exact List.cons_ne_nil _ _
  · obtain ⟨d, hd, -⟩ := Text.exists_isForeign_of_lowerChar (Nat.le_of_not_lt hc) [] r
    exact List.ne_nil_of_mem hd

/-- A text is read as a number if and only if in lower case and without zeros in front it is the
digits of the number. -/
theorem readDigits_eq_ok_iff :
    readDigits b.val s = .ok m ↔ withoutZeros (Text.lower s) = digits b m := by
  constructor
  · intro h
    obtain ⟨hne, hdigit⟩ := exists_readDigits_eq_ok_iff.1 ⟨m, h⟩
    rw [readDigits, if_neg (by simpa using hne), ← foldlM_withoutZeros] at h
    exact (digits_of_foldlM (withoutZeros_ne_nil (lower_ne_nil hne)) head?_withoutZeros
      (fun c hc => hdigit c (mem_of_mem_withoutZeros hc)) h).symm
  · intro h
    have hne : s ≠ [] := by
      rintro rfl
      exact digits_ne_nil b m h.symm
    rw [readDigits, if_neg (by simpa using hne), ← foldlM_withoutZeros, h, foldlM_readDigit_digits]

theorem head?_digits_iff (b : Base) (m : Nat) : (digits b m).head? = some '0' ↔ m = 0 := by
  constructor
  · exact fun h => Decidable.not_not.1 fun hm => head?_digits_ne_zero b hm h
  · rintro rfl
    rw [digits_zero]
    rfl

theorem withoutZeros_digits (b : Base) (m : Nat) : withoutZeros (digits b m) = digits b m := by
  refine withoutZeros_eq_self fun h => ?_
  rw [(head?_digits_iff b m).1 h, digits_zero]

/-- The digits of a number are digits of the base without a needless zero in front, they are what is
shown of the number, in capitals for base sixteen, and they denote it.  A text denotes a number if
and only if it is not empty and its lower case consists of digits of the base; the number is the one
whose digits are left without the zeros in front.  Any other text is at fault for being empty, or
over the first character of its lower case that is no digit of the base. -/
theorem digits_bijection (b : Base) :
    (∀ m, digits b m ≠ [] ∧ (∀ c ∈ digits b m, IsDigitOf b c) ∧
      ((digits b m).head? = some '0' ↔ m = 0) ∧
      shownDigits b m = (if b.val = 16 then (digits b m).map Char.toUpper else digits b m) ∧
      readDigits b.val (digits b m) = .ok m) ∧
    ∀ s : Text,
      ((∃ m, readDigits b.val s = .ok m) ↔ s ≠ [] ∧ ∀ c ∈ Text.lower s, IsDigitOf b c) ∧
      (∀ m, readDigits b.val s = .ok m ↔ withoutZeros (Text.lower s) = digits b m) ∧
      ∀ f, readDigits b.val s = .error f ↔ s = [] ∧ f = .unrecognized [] ∨
        ∃ c, FirstOutOfRange b (Text.lower s) c ∧ f = .invalidDigit c b.val := by
  constructor
  · intro m
    refine ⟨digits_ne_nil b m, fun c hc => isDigitOf_iff.2 (exists_of_mem_digits hc),
      head?_digits_iff b m, shownDigits_eq b m, readDigits_eq_ok_iff.2 ?_⟩
    rw [lower_digits, withoutZeros_digits]
  · intro s
    exact ⟨exists_readDigits_eq_ok_iff, fun m => readDigits_eq_ok_iff,
      fun f => readDigits_eq_error_iff⟩

/-- A number of two blocks of figures, of which the last one is zeros but for its end, and texts
around it: with zeros in front, and with a letter too great. -/
theorem digits_bijection_blocks :
    shownDigits .ten (10 ^ 18 + 7) = "1000000000000000007".toList ∧
    readDigits 10 "001000000000000000007".toList = .ok (10 ^ 18 + 7) ∧
    readDigits 16 "1fGz".toList = .error (.invalidDigit 'g' 16) := by
  obtain ⟨-, -, -, hshown, -⟩ := (digits_bijection .ten).1 (10 ^ 18 + 7)
  have hdigits : digits .ten (10 ^ 18 + 7) = "1000000000000000007".toList := by decide +kernel
  refine ⟨hshown.trans hdigits, ?_, ?_⟩
  · refine (((digits_bijection .ten).2 _).2.1 _).2 ?_
    rw [hdigits]
    decide
  · refine (((digits_bijection .sixteen).2 _).2.2 _).2 (.inr ⟨'g', ⟨['1', 'f'], ['z'], ?_⟩, rfl⟩)
    decide

end Abacus.Radix
