import Abacus.Proofs.Expr.Summand.Explicit
import Abacus.Proofs.Expr.Summand.LeadingZero
import Abacus.Proofs.Expr.Summand.Suffixed
import Abacus.Proofs.Numeral.Target

/-!
# Numerals in other notations as summands

A numeral that names its base, or has the letter of its base behind it, is admitted as a numeral by
the screening, but it is nothing that is read as one.  A sum that starts with such a numeral has a
value in two cases only.  The base in front of a hash is taken for the whole text, and a binary
numeral with a leading zero is promoted to a hexadecimal one, its letter included.
-/

namespace Abacus.Expr

open Numeral (explicitBase? plain splitSigns)
open Text (isBlank isLetter)

variable {u r s v w body : Text} {b : Base} {ds : Text} {n : Numeral} {cfg : Settings} {x z : Float}

/-! ## What stands behind the value -/

theorem exists_trails (h : Numeral.BehindValue v) : ∃ blank, Trails blank v := by
  cases h with
  | blanks hv => exact ⟨true, .blanks hv⟩
  | arrow hv t => exact ⟨false, .arrow hv t⟩
  | @word v c hv hne hc t =>
    have hname : isNamePart c ∧ c.isDigit = false := by
      rcases Numeral.cases_of_isLetter (by decide) (by decide) hc with rfl | rfl <;> decide
    exact ⟨false, .name hv hne ⟨c, t, rfl, hname⟩⟩

theorem eq_suffixed_of_spells {way : Spelling} (h : Numeral.Spells s way b ds)
    (hway : way ∈ [.radixHash, .baseWord, .suffixed]) : way = .suffixed := by
  cases h <;> simp at hway ⊢

/-- A line break within a numeral ends the word of it; only low lines stand behind. -/
theorem exists_isSuffixed_append {way : Spelling} {m : Nat} {blank : Bool}
    (hread : Radix.readDigits b.val ds = .ok m)
    (h : Numeral.spelledDigits? (plain body) = some (way, b, ds)) (hway : way = .suffixed)
    (hlast : ∀ c ∈ body.getLast?, isBlank c = false) (hv : Trails blank v) :
    ∃ w v' c blank', body ++ v = w ++ v' ∧ IsSuffixed w ds c b ∧ Trails blank' v' ∧
      (blank' = true → w = body) := by
  rcases Numeral.spells_of_read h hread with hspells | ⟨-, t, ht, hspells⟩
  · subst hway
    obtain ⟨c, hc⟩ := exists_isSuffixed hspells
    exact ⟨body, v, c, blank, rfl, hc, hv, fun _ => rfl⟩
  · subst hway
    obtain ⟨w, y, rfl, rfl, hy⟩ := List.filter_eq_append_iff.1 ht
    obtain ⟨lines, lines', rfl, hlines, -, hlines'⟩ := List.filter_eq_cons_iff.1 hy
    have hplain : plain (w ++ lines) = plain w := by
      rw [Numeral.plain_append, plain, plain, List.filter_eq_nil_iff.2 hlines, List.append_nil]
    obtain ⟨c, hc⟩ := exists_isSuffixed (w := w ++ lines) (by rwa [hplain])
    -- a trimmed text does not end with the line break
    obtain ⟨e, y, rfl⟩ := List.exists_cons_of_ne_nil (l := lines') (by
      rintro rfl
      cases hlast '\n' (by simp))
    obtain rfl : e = '_' := by simpa using List.filter_eq_nil_iff.1 hlines' e List.mem_cons_self
    refine ⟨w ++ lines, ['\n'] ++ '_' :: (y ++ v), c, false, by simp, hc, ?_, by simp⟩
    exact .name (by decide) (List.cons_ne_nil _ _) ⟨'_', y ++ v, rfl, by decide, by decide⟩

/-! ## Sums -/

/-- A text with a value and without a hash keeps its parentheses to itself. -/
theorem selfContained_of_calculate (hhash : '#' ∉ r) (h : calculate cfg r = .ok x) :
    SelfContained r := by
  refine ⟨?_, hhash⟩
  rcases exists_attempt_of_calculate h with h | h
  · exact balanced_of_attempt h hhash
  · have hbalanced := balanced_of_attempt h (by
      rwa [← hash_mem_groups, groups_promote, hash_mem_groups])
    rwa [parentheses_eq_filterMap, groups_promote, ← parentheses_eq_filterMap] at hbalanced

/-- A sum is read as it stands, or with both summands promoted. -/
theorem exists_attempt_plusEnclosed (h : calculate cfg (plusEnclosed u r) = .ok z) :
    attempt (plusEnclosed u r) = .ok z ∨
      attempt (plusEnclosed (promote u) (promote r)) = .ok z := by
  have hattempt := exists_attempt_of_calculate h
  rwa [isPass_promote.plusEnclosed] at hattempt

/-- A sum whose first summand has the letter of its base behind it has a value only if this summand
is promoted. -/
theorem exists_of_suffixed {blank negative : Bool} {signs : Text} {c : Char} {y : Text}
    (hy : ∀ c ∈ y, isBlank c) (hsigns : Signs negative signs) (hw : IsSuffixed w ds c b)
    (hv : Trails blank v) (hr : SelfContained r)
    (hz : calculate cfg (plusEnclosed (y ++ (signs ++ (w ++ v))) r) = .ok z) :
    blank = true ∧ LeadingZero w ∧ ∃ h x e, integerValue (markedValue w) = .ok h ∧
      ofText? (enclosedText (promote r)) = some e ∧ evaluate e = .ok x ∧
        z = signedValue negative h + x := by
  rcases exists_attempt_plusEnclosed hz with hz | hz
  · -- as it stands the word is not read
    obtain ⟨-, hzero, hmarked, -⟩ := hw.exists_of_attempt hy hsigns hv hr (.inl rfl) hz
    exact absurd hmarked.symm (marked_ne hzero)
  · obtain ⟨v', hpromote, hv'⟩ :=
      isPass_promote.exists_trails (fun _ => startsName_promote) hv w
    have hcuts : ∀ c ∈ signs, IsCut c := by
      cases hsigns <;> decide
    rw [isPass_promote.append_of_cuts fun c hc => isCut_of_isBlank (hy c hc),
      isPass_promote.append_of_cuts hcuts, hpromote] at hz
    obtain ⟨hblank, hzero, -, hvalue⟩ :=
      hw.exists_of_attempt hy hsigns hv' hr.promote hw.promote_eq hz
    exact ⟨hblank, hzero, hvalue⟩

/-- A sum whose first summand names its base has a value only if the base stands in front of a hash,
and then it is that of the base. -/
theorem exists_of_explicitBase {way : Spelling} {y : Text} (hy : ∀ c ∈ y, isBlank c)
    (h : explicitBase? s = some (way, w, ds))
    (hz : calculate cfg (plusEnclosed (y ++ (s ++ v)) r) = .ok z) :
    way = .radixHash ∧ integerValue (Numeral.decimalValue w) = .ok z := by
  have hblanks : ∀ {x : Text}, (∀ c ∈ x, isBlank c) → ∀ c ∈ y ++ x, isBlank c := fun hx =>
    List.forall_mem_append.2 ⟨hy, hx⟩
  obtain ⟨sign, d, -, ⟨rfl, hform⟩ | ⟨rfl, hform⟩⟩ := Numeral.explicitBase?_eq_some.1 h
  · obtain @⟨v₀, _, v₁, v₂, _, _, v₃, h₀, hw, h₁, -⟩ := hform
    have hshape : y ++ (v₀ ++ (w ++ (v₁ ++ '#' :: (v₂ ++ (sign ++ (d ++ v₃))))) ++ v) =
        y ++ v₀ ++ (w ++ (v₁ ++ '#' :: (v₂ ++ (sign ++ (d ++ v₃)) ++ v))) := by
      simp
    rw [hshape] at hz
    refine ⟨rfl, ?_⟩
    rcases exists_attempt_plusEnclosed hz with hz | hz
    · exact integerValue_of_radixHash (hblanks h₀) hw h₁ hz
    · rw [isPass_promote.radixHash (hblanks h₀) (promote_of_length_le hw.le_two) h₁] at hz
      exact integerValue_of_radixHash (hblanks h₀) hw h₁ hz
  · exfalso
    obtain @⟨v₀, _, v₁, _, v₂, _, _, v₃, h₀, hword, -⟩ := hform
    obtain @⟨b, a, s, e, hb, ha, -, -⟩ := hword
    have hshape : y ++ (v₀ ++ ([b, a, s, e] ++ (v₁ ++ (w ++ (v₂ ++ (sign ++ (d ++ v₃)))))) ++ v) =
        y ++ v₀ ++ b :: a :: (s :: e :: (v₁ ++ (w ++ (v₂ ++ (sign ++ (d ++ v₃))))) ++ v) := by
      simp
    rw [hshape] at hz
    have hb : b ∈ ['b', 'B'] := by
      rcases Numeral.cases_of_isLetter (by decide) (by decide) hb with rfl | rfl <;> decide
    have ha : a ∈ ['a', 'A'] := by
      rcases Numeral.cases_of_isLetter (by decide) (by decide) ha with rfl | rfl <;> decide
    rcases exists_attempt_plusEnclosed hz with hz | hz
    · exact attempt_base_ne_ok (hblanks h₀) hb ha _ r z hz
    · have hzero : a ≠ '0' := by
        rintro rfl
        revert ha
        decide
      obtain ⟨y', hpromote⟩ := exists_promote_base (hblanks h₀) hb hzero
        (s :: e :: (v₁ ++ (w ++ (v₂ ++ (sign ++ (d ++ v₃))))) ++ v)
      rw [hpromote] at hz
      exact attempt_base_ne_ok (hblanks h₀) hb ha y' _ z hz

/-- A numeral that names its base, or has the letter of its base behind it, is added to something in
parentheses in two cases only: the base in front of a hash is taken for the whole text, or a binary
numeral with a leading zero is promoted, with its letter as a digit, like all of the other
summand. -/
theorem calculate_notation_plus (hn : Numeral.ofText u = .ok n)
    (hspelling : n.spelling ∈ [.radixHash, .baseWord, .suffixed]) (hhash : '#' ∉ r)
    (hx : calculate cfg r = .ok x) (hz : calculate cfg (plusEnclosed u r) = .ok z) :
    (∃ b ds, explicitBase? (Numeral.Request.ofText u).value = some (.radixHash, b, ds) ∧
      integerValue (Numeral.decimalValue b) = .ok z) ∨
    n.spelling = .suffixed ∧ n.base = .two ∧
      ∃ negative w, splitSigns (Numeral.Request.ofText u).value = (negative, w) ∧
        LeadingZero w ∧ ∃ h y e, integerValue (markedValue w) = .ok h ∧
          ofText? (enclosedText (promote r)) = some e ∧ evaluate e = .ok y ∧
            z = signedValue negative h + y := by
  obtain ⟨target, hread⟩ := Numeral.exists_read_of_ofText hn
  obtain ⟨y, v, hu, hy, hbehind⟩ := Numeral.Request.exists_append u
  have htrimmed := Numeral.isTrimmed_value u
  generalize (Numeral.Request.ofText u).value = s at hread hu htrimmed
  subst hu
  rw [Numeral.read] at hread
  cases hexplicit : explicitBase? s with
  | some base =>
    obtain ⟨way, w, ds⟩ := base
    obtain ⟨rfl, hvalue⟩ := exists_of_explicitBase hy hexplicit hz
    exact .inl ⟨w, ds, rfl, hvalue⟩
  | none =>
    rw [hexplicit] at hread
    dsimp only at hread
    obtain ⟨ds, m, hdigits, hm⟩ := Numeral.exists_spelledDigits?_of_readBare hread
    rw [htrimmed.trim_eq] at hdigits
    change Numeral.spelledDigits? _ = some (n.spelling, n.base, ds) at hdigits
    have hsuffixed : n.spelling = .suffixed := by
      rcases Numeral.spells_of_read hdigits hm with h | ⟨h, -⟩
      · exact eq_suffixed_of_spells h hspelling
      · exact h
    obtain ⟨signs, hsplit, hsigns⟩ := exists_signs s
    have hlast : ∀ c ∈ (splitSigns s).2.getLast?, isBlank c = false := by
      intro c hc
      refine htrimmed.last c ?_
      rw [hsplit, List.getLast?_append, hc]
      rfl
    obtain ⟨blank, hv⟩ := exists_trails hbehind
    obtain ⟨w, v', c, blank', hbody, hw, hv', honly⟩ :=
      exists_isSuffixed_append hm hdigits hsuffixed hlast hv
    rw [hsplit, List.append_assoc, hbody] at hz
    obtain ⟨hblank, hzero, hsum⟩ :=
      exists_of_suffixed hy hsigns hw hv' (selfContained_of_calculate hhash hx) hz
    exact .inr ⟨hsuffixed, hw.base_eq hzero, _, w, by rw [honly hblank], hzero, hsum⟩

/-- Of `16#ff + (1)` the base is read. -/
theorem calculate_notation_plus_hash : ∃ x z, calculate ⟨2000, true⟩ "1".toList = .ok x ∧
    calculate ⟨2000, true⟩ "16#ff + (1)".toList = .ok z ∧ integerValue 16 = .ok z := by
  have hsome : ((calculate ⟨2000, true⟩ "1".toList).toOption.isSome ∧
      (calculate ⟨2000, true⟩ "16#ff + (1)".toList).toOption.isSome) := by decide +kernel
  have hok : ∀ {s : Text}, (calculate ⟨2000, true⟩ s).toOption.isSome →
      ∃ x, calculate ⟨2000, true⟩ s = .ok x := by
    intro s hs
    cases hc : calculate ⟨2000, true⟩ s with
    | error f =>
      rw [hc] at hs
      cases hs
    | ok x => exact ⟨x, rfl⟩
  obtain ⟨x, hx⟩ := hok hsome.1
  obtain ⟨z, hz⟩ := hok hsome.2
  refine ⟨x, z, hx, hz, ?_⟩
  rcases @calculate_notation_plus "16#ff".toList "1".toList ⟨255, .sixteen, .radixHash, none⟩
    ⟨2000, true⟩ x z rfl (by decide) (by decide +kernel) hx hz with
    ⟨b, ds, hb, hvalue⟩ | ⟨hsuffixed, -⟩
  · have hbase : (explicitBase? (Numeral.Request.ofText "16#ff".toList).value).map (·.2.1) =
        some ['1', '6'] := by decide +kernel
    rw [hb] at hbase
    obtain rfl : b = ['1', '6'] := Option.some.inj hbase
    exact hvalue
  · cases hsuffixed

/-- In `16#ff + (1)` nothing but 16 is read, and in `01b + (1)` the numeral counts 27. -/
theorem calculate_notation_plus_misread :
    Numeral.ofText "16#ff".toList = .ok ⟨255, .sixteen, .radixHash, none⟩ ∧
    Numeral.ofText "01b".toList = .ok ⟨1, .two, .suffixed, none⟩ ∧
    (calculate ⟨2000, true⟩ "1".toList).toOption.map Float.toBits = some (1 : Float).toBits ∧
    (calculate ⟨2000, true⟩ "16#ff + (1)".toList).toOption.map Float.toBits =
      some (16 : Float).toBits ∧ (16 : Float).toBits ≠ (255 + 1 : Float).toBits ∧
    (calculate ⟨2000, true⟩ "01b + (1)".toList).toOption.map Float.toBits =
      some (27 + 1 : Float).toBits ∧ (27 + 1 : Float).toBits ≠ (1 + 1 : Float).toBits :=
  ⟨rfl, rfl, by decide +kernel, by decide +kernel, by decide +kernel, by decide +kernel,
    by decide +kernel⟩

end Abacus.Expr
