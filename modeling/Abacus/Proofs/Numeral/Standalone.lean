import Abacus.Proofs.Numeral.Agreement

/-!
# Renderings in every base

The rendering in a common base names its base itself, or is in plain figures.  In any other base it
is digits with a sign, and stands alone once the base and a hash are put in front of it.  In this
form the rendering in a target base is a numeral again, of the same integer.
-/

namespace Abacus

open Radix (render shownDigits mark signOf)
open Numeral

variable {b : Base} {n : Int} {m : Nat} {c : Char}

namespace Numeral

/-- A rendering in a base with the base in front of it, unless the base is a common one. -/
def standalone (b : Base) (r : Text) : Text :=
  if b ∈ commonBases then r else radix b ++ '#' :: r

/-! ## Bases without a mark -/

theorem mark_of_not_common (hb : b ∉ commonBases) : mark b = [] := by
  have hne : ∀ a ∈ commonBases, b.val ≠ a.val := by
    rintro a ha hval
    refine hb ?_
    cases a
    cases b
    cases hval
    exact ha
  have h16 : b.val ≠ 16 := hne .sixteen (by decide)
  have h2 : b.val ≠ 2 := hne .two (by decide)
  have h8 : b.val ≠ 8 := hne .eight (by decide)
  rw [mark, if_neg h16, if_neg h2, if_neg h8]

theorem ne_line_of_mem_shownDigits (hc : c ∈ shownDigits b m) : c ≠ '_' := by
  have all : ∀ d ∈ List.range 36, Radix.digitChar d ≠ '_' ∧ (Radix.digitChar d).toUpper ≠ '_' := by
    decide
  obtain ⟨d, hd, hcd⟩ := Radix.exists_of_mem_shownDigits hc
  have hne := all d (List.mem_range.2 (Nat.lt_of_lt_of_le hd b.le_max))
  rcases hcd with rfl | rfl
  · exact hne.1
  · exact hne.2

theorem plain_shownDigits (b : Base) (m : Nat) : plain (shownDigits b m) = shownDigits b m :=
  List.filter_eq_self.2 fun c hc => by simpa using ne_line_of_mem_shownDigits hc

/-- What is shown of a number are digits of its base. -/
theorem isDigits_shownDigits (b : Base) (m : Nat) : IsDigits b (shownDigits b m) where
  mem := fun c hc => by
    have hrun := Classification.isRunOf_of_mem_shownDigits hc
    rwa [Expr.isRunOf, Bool.or_eq_true, beq_iff_eq] at hrun
  ne_nil := by
    rw [plain_shownDigits]
    exact Radix.shownDigits_ne_nil b m

theorem placeValue_shownDigits (b : Base) (m : Nat) :
    Radix.placeValue b (shownDigits b m) = m := by
  have hplace := (isDigits_shownDigits b m).readDigits
  rw [plain_shownDigits, Radix.readDigits_shownDigits] at hplace
  exact (Except.ok.inj hplace).symm

/-! ## Behind a hash -/

theorem isSigns_signOf (n : Int) : IsSigns (signOf n) := by
  rw [signOf]
  split
  · exact ⟨by decide, by decide⟩
  · exact isSigns_nil

theorem standalone_render (hb : b ∉ commonBases) (n : Int) :
    standalone b (render b n) = hashSpelling b (signOf n) (shownDigits b n.natAbs) := by
  rw [standalone, if_neg hb, Radix.render_eq, mark_of_not_common hb]
  rfl

theorem read_standalone (hb : b ∉ commonBases) (n : Int) :
    read (standalone b (render b n)) = .ok ⟨n, b, .radixHash, none⟩ := by
  rw [standalone_render hb, read_hashSpelling (isSigns_signOf n) (isDigits_shownDigits b _),
    denoted, plain_shownDigits, placeValue_shownDigits, Radix.signOf_beq, Radix.signed_natAbs]

/-- No separator is found in digits behind a hash. -/
theorem request_of_hashSpelling {sign d : Text} (hsign : IsSigns sign) (hd : IsDigits b d) :
    Request.ofText (hashSpelling b sign d) = ⟨hashSpelling b sign d, []⟩ := by
  have hchar : ∀ c ∈ hashSpelling b sign d, Text.isDecimal c ∨ c = '#' ∨ isSign c ∨
      isCaselessDigitChar c := by
    intro c hc
    rw [hashSpelling, List.mem_append, List.mem_cons, List.mem_append] at hc
    rcases hc with hc | hc | hc | hc
    · exact .inl ((radix_eq b).1.decimal c hc)
    · exact .inr (.inl hc)
    · exact .inr (.inr (.inl (hsign.sign c hc)))
    · exact .inr (.inr (.inr (isCaselessDigitChar_of_isDigitChar (hd.isDigitChar c hc))))
  refine request_of_plain ?_ ?_
  · intro hgt
    have := hchar '>' hgt
    revert this
    decide
  · intro c hc
    rcases hchar c hc with h | rfl | h | h
    · exact isBlank_of_isDecimal h
    · decide
    · exact isBlank_of_isSign h
    · exact isBlank_of_isCaselessDigitChar h

end Numeral

namespace Conversion

/-- Every rendering converts back, once it stands alone. -/
theorem ofText_standalone (b : Base) (n : Int) :
    ofText (standalone b (render b n)) = .ok (ofInt n none) := by
  by_cases hb : b ∈ commonBases
  · rw [standalone, if_pos hb]
    exact ofText_render hb n
  · have hrequest := request_of_hashSpelling (isSigns_signOf n) (isDigits_shownDigits b n.natAbs)
    rw [← standalone_render hb] at hrequest
    rw [ofText, Numeral.ofText, hrequest]
    simp only [read_standalone hb, Request.hasTarget]
    rfl

/-- The rendering in a target base is the one of the common renderings that is in this base, if any.
It converts back to the same renderings once it stands alone. -/
theorem target_convertsBack {t : Text} {k : Numeral} (ht : Numeral.ofText t = .ok k)
    (hb : k.target = some b) :
    ∃ c r, ofText t = .ok c ∧ c.first = some r ∧ c.renderings = (ofInt k.value none).renderings ∧
      (b = .sixteen → r = c.hex) ∧ (b = .ten → r = c.dec) ∧ (b = .two → r = c.bin) ∧
      (b = .eight → r = c.oct) ∧ ofText (standalone b r) = .ok { c with first := none } := by
  refine ⟨ofInt k.value (some b), render b k.value, ?_, rfl, rfl, ?_, ?_, ?_, ?_, ?_⟩
  · rw [ofText, ht, ← hb]
    rfl
  · rintro rfl
    rfl
  · rintro rfl
    rfl
  · rintro rfl
    rfl
  · rintro rfl
    rfl
  · exact ofText_standalone b k.value

/-- A negative numeral in base thirty-six. -/
theorem target_convertsBack_negative :
    let b : Base := ⟨36, by decide, by decide⟩
    Numeral.ofText "16#-fF to 36".toList = .ok ⟨-255, .sixteen, .radixHash, some b⟩ ∧
    standalone b "-73".toList = "36#-73".toList ∧
    ∃ c, ofText "16#-fF to 36".toList = .ok c ∧ c.first = some "-73".toList ∧
      ofText "36#-73".toList = .ok { c with first := none } := by
  have hread : Numeral.ofText "16#-fF to 36".toList =
      .ok ⟨-255, .sixteen, .radixHash, some ⟨36, by decide, by decide⟩⟩ := rfl
  obtain ⟨c, r, hc, hr, -, -, -, -, -, hback⟩ := target_convertsBack hread rfl
  obtain rfl : r = "-73".toList := by
    cases hc
    exact (Option.some.inj hr).symm.trans (by decide +kernel)
  exact ⟨hread, by decide, c, hc, hr, hback⟩

end Conversion

end Abacus
