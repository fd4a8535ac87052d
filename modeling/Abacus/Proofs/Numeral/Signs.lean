import Abacus.Proofs.Numeral.Bare

/-!
# Signs in front of numerals

A plus in front of a text without a sign changes nothing of what is read, and a minus changes the
value only.  Of two signs the second one is at fault wherever one sign is split off.  Where an
optional plus and then an optional minus are split off, a minus behind a plus is read as a minus;
other pairs of signs are not read.
-/

namespace Abacus.Numeral

open Radix (readDigits readSigned signed splitSign)
open Text (isBlank)

variable {s t u v : Text} {c : Char}

/-- A fault without the text that it quotes. -/
def Fault.unquoted : Fault → Fault
  | .unrecognized _ => .unrecognized []
  | .invalidDigit c base => .invalidDigit c base

/-- The numeral of the opposite value, written and shown in the same way. -/
def negated (n : Numeral) : Numeral := { n with value := -n.value }

/-! ## One sign -/

theorem isSign_cases (h : isSign c) : c = '+' ∨ c = '-' := by
  rwa [isSign, Bool.or_eq_true, beq_iff_eq, beq_iff_eq] at h

theorem isTrimmed_cons (hc : isSign c) (hu : Text.IsTrimmed u) : Text.IsTrimmed (c :: u) := by
  refine ⟨by rintro _ ⟨⟩; exact isBlank_of_isSign hc, ?_⟩
  cases u with
  | nil =>
    rintro _ ⟨⟩
    exact isBlank_of_isSign hc
  | cons d r =>
    rw [List.getLast?_cons_cons]
    exact hu.last

/-- Behind a sign a text without one is read in the same way, with the sign. -/
theorem readBare_sign_cons (hc : isSign c) (hu : Text.IsTrimmed u)
    (hhead : ∀ c, u.head? = some c → isSign c = false) :
    (readBare (c :: u)).mapError Fault.unquoted =
      ((readBare u).map fun n => if c = '-' then negated n else n).mapError Fault.unquoted := by
  have hsign : IsSigns [c] := ⟨Nat.le_refl 1, List.forall_mem_singleton.2 hc⟩
  have hunsigned := readBare_append isSigns_nil hu.trim_eq hhead
  have hsigned := readBare_append hsign (isTrimmed_cons hc hu).trim_eq hhead
  rw [List.nil_append] at hunsigned
  rw [List.singleton_append] at hsigned
  rw [hsigned, hunsigned]
  cases spelledDigits? (plain u) with
  | none => rfl
  | some parts =>
    obtain ⟨w, b, ds⟩ := parts
    dsimp only
    cases readDigits b.val ds with
    | error f => rfl
    | ok m => rcases isSign_cases hc with rfl | rfl <;> rfl

/-! ## Two signs -/

/-- In a text that is read no sign stands behind the ones that are split off. -/
theorem not_isSign_of_readBare {n : Numeral} (h : readBare s = .ok n) :
    ∀ c ∈ (splitSigns (Text.trim s)).2, isSign c = false := by
  intro c hc
  rw [Bool.eq_false_iff]
  intro hsign
  obtain ⟨ds, m, hspelled, hread⟩ := exists_spelledDigits?_of_readBare h
  have hmem : c ∈ plain (splitSigns (Text.trim s)).2 := by
    refine mem_plain.2 ⟨hc, ?_⟩
    rintro rfl
    cases hsign
  have hbare : ¬ IsBareChar c := fun hbare => by simp [hbare.not_sign] at hsign
  rcases spells_of_read hspelled hread with hspells | ⟨-, t, ht, hspells⟩
  · exact hbare (hspells.isBareChar hread c hmem)
  · rw [ht] at hmem
    rcases List.mem_append.1 hmem with hmem | hmem
    · exact hbare (hspells.isBareChar hread c hmem)
    · obtain rfl := List.mem_singleton.1 hmem
      cases hsign

/-- Only the text that is trimmed counts, but for what a fault quotes. -/
theorem readBare_eq_ok_congr {n : Numeral}
    (h : splitSigns (Text.trim s) = splitSigns (Text.trim t)) :
    readBare s = .ok n ↔ readBare t = .ok n := by
  rw [readBare, readBare, h]
  cases spelledDigits? ((splitSigns (Text.trim t)).2.filter (· != '_')) with
  | none => exact iff_of_false (by rintro ⟨⟩) (by rintro ⟨⟩)
  | some parts => exact Iff.rfl

/-- Of texts that start with two signs only those are read that start with a plus and a minus, as
they are without the plus. -/
theorem readBare_two_signs {c d : Char} (h : Text.trim s = c :: d :: v) (hc : isSign c)
    (hd : isSign d) (n : Numeral) :
    readBare s = .ok n ↔ c = '+' ∧ d = '-' ∧ readBare ('-' :: v) = .ok n := by
  have htrim : Text.trim ('-' :: v) = '-' :: v := by
    have hlast := (Text.isTrimmed_trim s).last
    rw [h, List.getLast?_cons_cons] at hlast
    refine Text.IsTrimmed.trim_eq ⟨?_, ?_⟩
    · rintro _ ⟨⟩
      decide
    · cases v with
      | nil =>
        rintro _ ⟨⟩
        decide
      | cons e r =>
        rw [List.getLast?_cons_cons] at hlast ⊢
        exact hlast
  have hread : c = '+' → d = '-' → (readBare s = .ok n ↔ readBare ('-' :: v) = .ok n) := by
    rintro rfl rfl
    refine readBare_eq_ok_congr ?_
    rw [h, htrim]
    rfl
  constructor
  · intro hs
    have hnot := not_isSign_of_readBare hs
    rw [h] at hnot
    rcases isSign_cases hc with rfl | rfl <;> rcases isSign_cases hd with rfl | rfl
    · cases hnot '+' List.mem_cons_self
    · exact ⟨rfl, rfl, (hread rfl rfl).1 hs⟩
    · cases hnot '+' List.mem_cons_self
    · cases hnot '-' List.mem_cons_self
  · rintro ⟨hplus, hminus, hv⟩
    exact (hread hplus hminus).2 hv

theorem exists_trim_cons_cons {p w : Text} {c d : Char} (hp : ∀ x ∈ p, isBlank x)
    (hc : isBlank c = false) (hd : isBlank d = false) :
    ∃ r, Text.trim (p ++ c :: d :: w) = c :: d :: r := by
  have hfront : (p ++ c :: d :: w).dropWhile isBlank = c :: d :: w :=
    Text.dropWhile_append_eq hp (by rintro _ ⟨⟩; exact hc)
  refine ⟨(w.reverse.dropWhile isBlank).reverse, ?_⟩
  rw [Text.trim, Text.trimWhile, hfront, List.reverse_cons, List.reverse_cons, List.append_assoc,
    Text.dropWhile_append_of_head (by rintro _ ⟨⟩; exact hd), List.reverse_append]
  rfl

/-- Of two signs the second one is no digit, whatever the base. -/
theorem readSigned_two_signs {c d : Char} (h : Text.trim s = c :: d :: v) (hc : isSign c)
    (hd : isSign d) (base : Int) : readSigned base s = .error (.invalidDigit d base) := by
  have hline : ∀ {c : Char}, isSign c → c ≠ '_' := by
    rintro c hc rfl
    cases hc
  obtain ⟨p, q, hs, hp, -⟩ := Text.exists_trim s
  have hplain : plain s = plain p ++ c :: d :: plain (v ++ q) := by
    rw [hs, h, plain_append, List.cons_append, List.cons_append, plain_cons_of_ne (hline hc),
      plain_cons_of_ne (hline hd)]
  obtain ⟨r, hr⟩ := exists_trim_cons_cons (w := plain (v ++ q))
    (fun x hx => hp x (mem_plain.1 hx).1) (isBlank_of_isSign hc) (isBlank_of_isSign hd)
  have hsplit : (splitSign (c :: d :: r)).2 = d :: r := by
    rcases isSign_cases hc with rfl | rfl <;> rfl
  have hdigits : readDigits base (d :: r) = .error (.invalidDigit d base) := by
    rcases isSign_cases hd with rfl | rfl <;> rfl
  rw [readSigned, ← plain, hplain, hr, hsplit, hdigits]
  rfl

/-! ## Signs -/

/-- A sign is read once: behind a plus a text that starts with no sign is read in the same way,
behind a minus with the opposite value, and a text with two signs in front is not read, the second
one being no digit of any base. -/
structure ReadsSignOnce (s : Text) : Prop where
  plus : Text.trim s = s → (∀ c, s.head? = some c → isSign c = false) →
    (readBare ('+' :: s)).mapError Fault.unquoted = (readBare s).mapError Fault.unquoted
  minus : Text.trim s = s → (∀ c, s.head? = some c → isSign c = false) →
    (readBare ('-' :: s)).mapError Fault.unquoted =
      ((readBare s).map negated).mapError Fault.unquoted
  two : ∀ c d v, Text.trim s = c :: d :: v → isSign c → isSign d →
    (∃ f, readBare s = .error f) ∧ ∀ base, readSigned base s = .error (.invalidDigit d base)

/-- A sign is read once but in a text that starts with a plus and a minus, and is a numeral without
the plus.  Such a text is read as this numeral. -/
theorem readsSignOnce_iff (s : Text) :
    (ReadsSignOnce s ↔ ∀ v n, Text.trim s = '+' :: '-' :: v → readBare ('-' :: v) ≠ .ok n) ∧
    ∀ v n, Text.trim s = '+' :: '-' :: v → (readBare s = .ok n ↔ readBare ('-' :: v) = .ok n) := by
  have hread : ∀ v n, Text.trim s = '+' :: '-' :: v →
      (readBare s = .ok n ↔ readBare ('-' :: v) = .ok n) := fun v n htrim => by
    rw [readBare_two_signs htrim rfl rfl, and_iff_right rfl, and_iff_right rfl]
  have htrimmed : Text.trim s = s → Text.IsTrimmed s := fun h => h ▸ Text.isTrimmed_trim s
  refine ⟨⟨fun h v n htrim hv => ?_, fun h => ⟨fun htrim hhead => ?_, fun htrim hhead => ?_, ?_⟩⟩,
    hread⟩
  · obtain ⟨⟨f, hf⟩, -⟩ := h.two '+' '-' v htrim rfl rfl
    cases hf.symm.trans ((hread v n htrim).2 hv)
  · rw [readBare_sign_cons rfl (htrimmed htrim) hhead]
    cases readBare s <;> rfl
  · rw [readBare_sign_cons rfl (htrimmed htrim) hhead]
    cases readBare s <;> rfl
  · intro c d v htrim hc hd
    refine ⟨?_, readSigned_two_signs htrim hc hd⟩
    cases hs : readBare s with
    | error f => exact ⟨f, rfl⟩
    | ok n =>
      obtain ⟨rfl, rfl, hv⟩ := (readBare_two_signs htrim hc hd n).1 hs
      exact absurd hv (h v n htrim)

/-- A binary numeral behind a minus, and between blanks a mark without digits behind two signs. -/
theorem readsSignOnce_marked :
    (readBare "-0B1_01".toList).mapError Fault.unquoted = .ok ⟨-5, .two, .marked, none⟩ ∧
    ∃ f, readBare " +-0x ".toList = .error f := by
  have hmarked : ReadsSignOnce "0B1_01".toList := (readsSignOnce_iff _).1.2 fun v n htrim => by
    cases (show "0B1_01".toList = '+' :: '-' :: v from htrim)
  have hempty : ReadsSignOnce " +-0x ".toList := (readsSignOnce_iff _).1.2 fun v n htrim hv => by
    obtain rfl : v = ['0', 'x'] := by
      cases (show "+-0x".toList = '+' :: '-' :: v from htrim)
      rfl
    cases hv
  exact ⟨(hmarked.minus rfl (by decide)).trans rfl,
    (hempty.two '+' '-' ['0', 'x'] rfl rfl rfl).1⟩

/-- A plus in front of a minus is passed over. -/
theorem not_readsSignOnce_plusMinus : ¬ ReadsSignOnce "+-5".toList := by
  intro h
  obtain ⟨⟨f, hf⟩, -⟩ := h.two '+' '-' ['5'] rfl rfl rfl
  have hread : readBare "+-5".toList = .ok ⟨-5, .ten, .decimal, none⟩ := rfl
  cases hread.symm.trans hf

end Abacus.Numeral
