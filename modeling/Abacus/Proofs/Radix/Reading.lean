import Abacus.Proofs.Radix.Digits
import Abacus.Proofs.Text.Ascii
import Abacus.Proofs.Text.Case
import Mathlib.Data.List.GetD
import Mathlib.Data.List.Induction
import Mathlib.Data.Nat.Digits.Defs

/-!
# What digits denote

Digits that are all below their base denote the sum of their values by place, in either case.  What
is not read as a number is at fault: it is empty, or some character of its lower case is the first
that is no digit of the base.  In a base up to sixteen nothing is read but digits of the base.
-/

namespace Abacus.Radix

open Numeral (Fault)

variable {b : Base} {s : Text} {m : Nat}

/-- The value of a digit in either case; zero for any other character. -/
def digitOf (c : Char) : Nat := (digitValue? c.toLower).getD 0

/-- The number that digits denote by their places, the last one counting ones. -/
def placeValue (b : Base) (s : Text) : Nat := Nat.ofDigits b.val (s.reverse.map digitOf)

@[simp] theorem placeValue_nil (b : Base) : placeValue b [] = 0 := rfl

@[simp] theorem placeValue_concat (b : Base) (s : Text) (c : Char) :
    placeValue b (s ++ [c]) = placeValue b s * b.val + digitOf c := by
  simp [placeValue, Nat.ofDigits_cons, Nat.add_comm, Nat.mul_comm]

/-- With more digits in front and in a greater base, digits denote no less. -/
theorem placeValue_le_append {b' : Base} (h : b.val ≤ b'.val) (t s : Text) :
    placeValue b s ≤ placeValue b' (t ++ s) := by
  induction s using List.reverseRecOn with
  | nil => exact Nat.zero_le _
  | append_singleton s c ih =>
    rw [← List.append_assoc, placeValue_concat, placeValue_concat]
    exact Nat.add_le_add_right (Nat.mul_le_mul ih h) (digitOf c)

theorem digitValue?_of_isDigitBelow {bound : Nat} {c : Char} (h : isDigitBelow bound c) :
    digitValue? c.toLower = some (digitOf c) ∧ digitOf c < bound := by
  obtain ⟨d, hd, hlt⟩ := (Option.any_eq_true _ _).1 h
  rw [digitOf, hd]
  exact ⟨rfl, of_decide_eq_true hlt⟩

/-- Digits of a base denote their place value. -/
theorem readDigits_eq_placeValue (hs : s ≠ []) (h : ∀ c ∈ s, isDigitBelow b.val c) :
    readDigits b.val s = .ok (placeValue b s) := by
  have hfold : (s.map Char.toLower).foldlM (readDigit b.val) 0 = .ok (placeValue b s) := by
    clear hs
    induction s using List.reverseRecOn with
    | nil => rfl
    | append_singleton s c ih =>
      obtain ⟨hvalue, hlt⟩ := digitValue?_of_isDigitBelow (h c (by simp))
      rw [List.map_append, List.foldlM_append, ih fun d hd => h d (by simp [hd]), placeValue_concat]
      have hlt' : (digitOf c : Int) < b.val := by exact_mod_cast hlt
      simp [bind, Except.bind, pure, Except.pure, readDigit, hvalue, hlt']
  rw [readDigits, if_neg (by simpa using hs),
    Text.lower_eq_map fun c hc => toNat_lt_of_isDigitBelow (h c hc), hfold]

/-! ## What is not read -/

/-- A digit of a base: one of the first characters of the alphabet, as many as the base says. -/
def IsDigitOf (b : Base) (c : Char) : Prop := c ∈ alphabet.take b.val

instance (b : Base) (c : Char) : Decidable (IsDigitOf b c) :=
  inferInstanceAs (Decidable (c ∈ alphabet.take b.val))

/-- A character that is no digit of the base. -/
def OutOfRange (b : Base) (c : Char) : Prop := ∀ d, digitValue? c = some d → b.val ≤ d

theorem isDigitOf_iff {c : Char} : IsDigitOf b c ↔ ∃ d, d < b.val ∧ c = digitChar d := by
  have hlength : alphabet.length = 36 := rfl
  have := b.le_max
  rw [IsDigitOf, List.mem_take_iff_getElem]
  constructor
  · rintro ⟨d, hd, rfl⟩
    refine ⟨d, by omega, ?_⟩
    rw [digitChar, List.getD_eq_getElem _ _ (by omega)]
  · rintro ⟨d, hd, rfl⟩
    refine ⟨d, by omega, ?_⟩
    rw [digitChar, List.getD_eq_getElem _ _ (by omega)]

theorem digitChar_of_digitValue? {c : Char} {d : Nat} (h : digitValue? c = some d) :
    d < 36 ∧ c = digitChar d := by
  have hlt : c.toNat < 128 := by
    rw [digitValue?] at h
    split at h
    · omega
    split at h
    · omega
    · cases h
  exact Text.ascii_induction
    (P := fun c => ∀ d ∈ digitValue? c, d < 36 ∧ c = digitChar d) (by decide +kernel) hlt d h

theorem outOfRange_iff {c : Char} : OutOfRange b c ↔ ¬ IsDigitOf b c := by
  rw [isDigitOf_iff]
  constructor
  · rintro hout ⟨d, hd, rfl⟩
    have := hout d (digitValue?_digitChar (by have := b.le_max; omega))
    omega
  · intro hnot d hd
    refine Nat.le_of_not_lt fun hlt => hnot ⟨d, hlt, ?_⟩
    exact (digitChar_of_digitValue? hd).2

theorem readDigit_of_outOfRange {c : Char} (h : OutOfRange b c) (m : Nat) :
    readDigit b.val m c = .error (.invalidDigit c b.val) := by
  rw [readDigit]
  split
  · rename_i d hd
    rw [if_neg (by have := h d hd; omega)]
  · rfl

/-- The first character of a text that is no digit of the base. -/
def FirstOutOfRange (b : Base) (s : Text) (c : Char) : Prop :=
  ∃ u v, s = u ++ c :: v ∧ (∀ d ∈ u, IsDigitOf b d) ∧ ¬ IsDigitOf b c

/-- A text consists of digits of the base or has a first character that is none. -/
theorem forall_or_firstOutOfRange (b : Base) (s : Text) :
    (∀ c ∈ s, IsDigitOf b c) ∨ ∃ c, FirstOutOfRange b s c := by
  induction s with
  | nil => exact .inl nofun
  | cons c r ih =>
    by_cases hc : IsDigitOf b c
    · rcases ih with hall | ⟨d, u, v, rfl, hu, hd⟩
      · exact .inl (List.forall_mem_cons.2 ⟨hc, hall⟩)
      · exact .inr ⟨d, c :: u, v, rfl, List.forall_mem_cons.2 ⟨hc, hu⟩, hd⟩
    · exact .inr ⟨c, [], r, rfl, nofun, hc⟩

theorem exists_foldlM_readDigit (h : ∀ c ∈ s, IsDigitOf b c) (m : Nat) :
    ∃ k, s.foldlM (readDigit b.val) m = .ok k := by
  induction s generalizing m with
  | nil => exact ⟨m, rfl⟩
  | cons c r ih =>
    obtain ⟨d, hd, rfl⟩ := isDigitOf_iff.1 (h c List.mem_cons_self)
    rw [List.foldlM_cons, readDigit_digitChar m hd]
    exact ih (fun e he => h e (List.mem_cons_of_mem _ he)) _

theorem FirstOutOfRange.foldlM_readDigit {c : Char} (h : FirstOutOfRange b s c) (m : Nat) :
    s.foldlM (readDigit b.val) m = .error (.invalidDigit c b.val) := by
  obtain ⟨u, v, rfl, hu, hc⟩ := h
  obtain ⟨k, hk⟩ := exists_foldlM_readDigit hu m
  rw [List.foldlM_append, hk]
  change (c :: v).foldlM (readDigit b.val) k = _
  rw [List.foldlM_cons, readDigit_of_outOfRange (outOfRange_iff.2 hc)]
  rfl

/-- Reading fails over the empty text, or over the first character that is no digit of the base. -/
theorem readDigits_eq_error_iff {f : Fault} : readDigits b.val s = .error f ↔
    s = [] ∧ f = .unrecognized [] ∨
      ∃ c, FirstOutOfRange b (Text.lower s) c ∧ f = .invalidDigit c b.val := by
  by_cases hnil : s = []
  · subst hnil
    have hnone : ∀ c, ¬ FirstOutOfRange b (Text.lower []) c := by
      rintro c ⟨u, v, heq, -, -⟩
      exact List.append_ne_nil_of_right_ne_nil u (List.cons_ne_nil c v) heq.symm
    constructor
    · rintro ⟨⟩
      exact .inl ⟨rfl, rfl⟩
    · rintro (⟨-, rfl⟩ | ⟨c, hc, -⟩)
      · rfl
      · exact absurd hc (hnone c)
  rw [readDigits, if_neg (by simpa using hnil)]
  simp only [hnil, false_and, false_or]
  rcases forall_or_firstOutOfRange b (Text.lower s) with hall | ⟨c, hc⟩
  · obtain ⟨k, hk⟩ := exists_foldlM_readDigit hall 0
    rw [hk]
    refine iff_of_false nofun ?_
    rintro ⟨c, ⟨u, v, heq, -, hc⟩, -⟩
    exact hc (hall c (by simp [heq]))
  · constructor
    · intro h
      rw [hc.foldlM_readDigit 0] at h
      cases h
      exact ⟨c, hc, rfl⟩
    · rintro ⟨d, hd, rfl⟩
      exact hd.foldlM_readDigit 0

/-- A number is read just from a text that is not empty and whose lower case consists of digits of
the base. -/
theorem exists_readDigits_eq_ok_iff :
    (∃ m, readDigits b.val s = .ok m) ↔ s ≠ [] ∧ ∀ c ∈ Text.lower s, IsDigitOf b c := by
  by_cases hnil : s = []
  · subst hnil
    exact iff_of_false nofun fun h => h.1 rfl
  rw [readDigits, if_neg (by simpa using hnil)]
  refine ⟨?_, fun h => exists_foldlM_readDigit h.2 0⟩
  rintro ⟨m, hm⟩
  refine ⟨hnil, (forall_or_firstOutOfRange b (Text.lower s)).resolve_right ?_⟩
  rintro ⟨c, hc⟩
  rw [hc.foldlM_readDigit 0] at hm
  cases hm

theorem readDigits_eq_error {f : Fault} (h : readDigits b.val s = .error f) :
    s = [] ∧ f = .unrecognized [] ∨
      ∃ c ∈ Text.lower s, f = .invalidDigit c b.val ∧ OutOfRange b c := by
  refine (readDigits_eq_error_iff.1 h).imp_right ?_
  rintro ⟨c, ⟨u, v, heq, -, hc⟩, rfl⟩
  exact ⟨c, by simp [heq], rfl, outOfRange_iff.2 hc⟩

theorem readDigits_eq_ok (h : readDigits b.val s = .ok m) :
    s ≠ [] ∧ ∀ c ∈ Text.lower s, ¬ OutOfRange b c := by
  obtain ⟨hne, hdigit⟩ := exists_readDigits_eq_ok_iff.1 ⟨m, h⟩
  exact ⟨hne, fun c hc hout => outOfRange_iff.1 hout (hdigit c hc)⟩

/-- What is read in a base up to sixteen are digits of the base. -/
theorem isDigitBelow_of_readDigits (hb : b.val ≤ 16) (h : readDigits b.val s = .ok m) :
    s ≠ [] ∧ ∀ c ∈ s, isDigitBelow b.val c := by
  obtain ⟨hne, hin⟩ := readDigits_eq_ok h
  have hforeign : ∀ d ∈ Text.lower s, ¬ Text.IsForeign d := by
    rintro d hd (hle | rfl | rfl)
    · refine hin d hd fun e he => ?_
      rw [digitValue?, if_neg (by omega), if_neg (by omega)] at he
      cases he
    · refine hin _ hd fun e he => ?_
      cases he
      exact Nat.le_trans hb (by decide)
    · refine hin _ hd fun e he => ?_
      cases he
  have hlower := Text.lower_eq_map (Text.toNat_lt_of_lower hforeign)
  refine ⟨hne, fun c hc => ?_⟩
  have hout := hin c.toLower (hlower ▸ List.mem_map_of_mem hc)
  rw [OutOfRange] at hout
  push Not at hout
  obtain ⟨d, hd, hlt⟩ := hout
  rw [isDigitBelow, hd]
  exact decide_eq_true hlt

end Abacus.Radix
