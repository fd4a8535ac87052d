import Abacus.Numeral.Conversion
import Abacus.Proofs.Numeral.Signs
import Abacus.Proofs.Text.Recasing

/-!
# Numerals in capitals and small letters

Nothing that a numeral is searched for tells capitals from small letters.  So whatever is cut out of
the text with small letters for capitals is what is cut out of the text itself, in small letters.
Marks, tags and digits are looked at in lower case, where the difference is gone.  What is read is
the same, and so is what is at fault; only the text that a fault quotes keeps its letters.
-/

namespace Abacus.Numeral

open Radix (isDigitBelow readDigits readSigned splitSign)
open Text (IgnoresCase Pattern ignoresCase_isBlank ignoresCase_isLetter small)
open Text.Pattern (whole?_eq_some)

variable (s : Text)

/-! ## Classes of characters -/

theorem ignoresCase_isDigitBelow (bound : Nat) : IgnoresCase (isDigitBelow bound) := fun c => by
  rw [isDigitBelow, isDigitBelow, Text.ignoresCase_toLower c]

theorem ignoresCase_isDigitChar : IgnoresCase isDigitChar :=
  (ignoresCase_isDigitBelow 36).or (Text.ignoresCase_beq rfl)

theorem ignoresCase_isCaselessDigitChar : IgnoresCase isCaselessDigitChar :=
  ignoresCase_isDigitChar.or fun c => congrArg Option.isSome (Text.ignoresCase_folded? c)

theorem ignoresCase_isSign : IgnoresCase isSign :=
  (Text.ignoresCase_beq rfl).or (Text.ignoresCase_beq rfl)

theorem ignoresCase_isDecimal : IgnoresCase Text.isDecimal := fun c =>
  congrArg Option.isSome (Text.ignoresCase_decimalValue? c)

/-- Low lines are left out in the same places. -/
theorem filter_small : (small s).filter (· != '_') = small (s.filter (· != '_')) :=
  (Text.ignoresCase_beq (x := '_') rfl).not.filter_small s

/-! ## The target -/

theorem ignoresCase_toWord : Pattern.IgnoresCase toWord :=
  .run ignoresCase_isBlank (.run (ignoresCase_isLetter 't') (.run (ignoresCase_isLetter 'o')
    (.run ignoresCase_isBlank .nil)))

theorem separatorLength?_small : separatorLength? (small s) = separatorLength? s := by
  rw [separatorLength?, separatorLength?, Text.startsWith_small (by decide),
    ignoresCase_toWord.length?_small]

theorem splitSeparator?_small :
    splitSeparator? (small s) = (splitSeparator? s).map fun p => (small p.1, small p.2) := by
  induction s with
  | nil => rfl
  | cons c r ih =>
    have hbreak : (c.toLower == '\n') = (c == '\n') := Text.ignoresCase_beq rfl c
    rw [Text.small_cons, splitSeparator?, splitSeparator?, ← Text.small_cons,
      separatorLength?_small, hbreak, ih]
    cases separatorLength? (c :: r) with
    | some n =>
      dsimp only [Option.map_some]
      rw [Text.small_drop]
      rfl
    | none =>
      cases c == '\n' with
      | true => rfl
      | false =>
        change ((splitSeparator? r).map _).map _ = ((splitSeparator? r).map _).map _
        rw [Option.map_map, Option.map_map]
        rfl

theorem Request.ofText_small :
    Request.ofText (small s) = ⟨small (Request.ofText s).value, small (Request.ofText s).tag⟩ := by
  have hline : IgnoresCase fun c => c != '\n' := (Text.ignoresCase_beq rfl).not
  rw [Request.ofText, Request.ofText, Text.trim_small, splitSeparator?_small]
  cases splitSeparator? (Text.trim s) with
  | none => rfl
  | some p =>
    dsimp only [Option.map_some]
    rw [hline.takeWhile_small, Text.trim_small, Text.trim_small]

theorem baseOfTag_small : baseOfTag (small s) = baseOfTag s := by
  rw [baseOfTag, baseOfTag, Text.trim_small, Text.lower_small]

/-! ## Digits -/

theorem decimalValue_small : decimalValue (small s) = decimalValue s := by
  simp only [decimalValue, small, List.foldl_map, Text.ignoresCase_decimalValue? _]

theorem readDigits_small (base : Int) : readDigits base (small s) = readDigits base s := by
  cases s with
  | nil => rfl
  | cons c r =>
    rw [readDigits, readDigits, Text.lower_small]
    rfl

theorem splitSign_small : splitSign (small s) = ((splitSign s).1, small (splitSign s).2) := by
  cases s with
  | nil => rfl
  | cons c r =>
    have hplus := Text.toLower_eq_iff (x := '+') (c := c) rfl
    have hminus := Text.toLower_eq_iff (x := '-') (c := c) rfl
    by_cases hc : c = '-'
    · rw [hc]
      rfl
    by_cases hc' : c = '+'
    · rw [hc']
      rfl
    · simp [splitSign, hplus, hminus, hc, hc']

theorem readSigned_small (base : Int) : readSigned base (small s) = readSigned base s := by
  rw [readSigned, readSigned, filter_small, Text.trim_small, splitSign_small, readDigits_small]

/-! ## Numerals that name their base -/

theorem ignoresCase_radixHash : Pattern.IgnoresCase radixHash :=
  .run ignoresCase_isBlank (.run ignoresCase_isDecimal (.run ignoresCase_isBlank
    (.run (Text.ignoresCase_beq rfl) (.run ignoresCase_isBlank (.run ignoresCase_isSign
      (.run ignoresCase_isDigitChar (.run ignoresCase_isBlank .nil)))))))

theorem ignoresCase_baseWord : Pattern.IgnoresCase baseWord :=
  .run ignoresCase_isBlank (.run (ignoresCase_isLetter 'b') (.run (ignoresCase_isLetter 'a')
    (.run (ignoresCase_isLetter 's') (.run (ignoresCase_isLetter 'e') (.run ignoresCase_isBlank
      (.run ignoresCase_isDecimal (.run ignoresCase_isBlank (.run ignoresCase_isSign
        (.run ignoresCase_isCaselessDigitChar (.run ignoresCase_isBlank .nil))))))))))

theorem explicitBase?_small : explicitBase? (small s) =
    (explicitBase? s).map fun p => (p.1, small p.2.1, small p.2.2) := by
  rw [explicitBase?, explicitBase?, ignoresCase_radixHash.whole?_small,
    ignoresCase_baseWord.whole?_small]
  cases hhash : radixHash.whole? s with
  | some segs =>
    obtain ⟨_, _, _, _, _, _, _, rfl, -⟩ := hashForm_of_takes (whole?_eq_some.1 hhash)
    simp
  | none =>
    cases hword : baseWord.whole? s with
    | some segs =>
      obtain ⟨_, _, _, _, _, _, _, _, _, _, _, rfl, -⟩ := wordForm_of_takes (whole?_eq_some.1 hword)
      simp
    | none => rfl

/-! ## Numerals that do not name their base -/

theorem splitSigns_small : splitSigns (small s) = ((splitSigns s).1, small (splitSigns s).2) := by
  have hplus := fun c : Char => Text.toLower_eq_iff (x := '+') (c := c) rfl
  have hminus := fun c : Char => Text.toLower_eq_iff (x := '-') (c := c) rfl
  rcases s with _ | ⟨c, r⟩
  · rfl
  by_cases hc : c = '+'
  · rcases r with _ | ⟨d, t⟩
    · rw [hc]
      rfl
    · by_cases hd : d = '-'
      · rw [hc, hd]
        rfl
      · simp [splitSigns, hc, hd, hminus]
  · by_cases hc' : c = '-'
    · rw [hc']
      rfl
    · simp [splitSigns, hc, hc', hplus, hminus]

theorem hasLeadingZero_small : hasLeadingZero (small s) = hasLeadingZero s := by
  have hzero := fun c : Char => Text.toLower_eq_iff (x := '0') (c := c) rfl
  rcases s with _ | ⟨c, _ | ⟨d, r⟩⟩
  · rfl
  · simp [small, hasLeadingZero]
  · by_cases hc : c = '0'
    · rw [hc]
      exact Text.ignoresCase_isDigit.all_small (d :: r)
    · simp [hasLeadingZero, hc, hzero]

theorem markedBase?_small : markedBase? (small s) = markedBase? s := by
  rw [markedBase?, markedBase?, small, ← List.map_take, ← small, Text.lower_small]

theorem splitSuffix?_small :
    splitSuffix? (small s) = (splitSuffix? s).map fun p => (p.1, small p.2) := by
  have hinit : (small s).dropLast = small s.dropLast := List.map_dropLast.symm
  rw [splitSuffix?, splitSuffix?, List.map_findSome?]
  congr 1
  funext m
  obtain ⟨l, b⟩ := m
  rw [small, List.getLast?_map, ← small, hinit]
  cases s.getLast? with
  | none => rfl
  | some c =>
    simp only [Option.map_some, Function.comp, ignoresCase_isLetter l c, Text.isEmpty_small,
      (ignoresCase_isDigitBelow b.val).all_small]
    split <;> rfl

theorem isFigures_small : isFigures (small s) = isFigures s := by
  rw [isFigures, isFigures, Text.isEmpty_small, Text.ignoresCase_isDigit.all_small]

theorem isBareHex_small : isBareHex (small s) = isBareHex s := by
  have hletter : IgnoresCase fun c => isDigitBelow 16 c && !c.isDigit := fun c =>
    congrArg₂ Bool.and (ignoresCase_isDigitBelow 16 c) (Text.ignoresCase_isDigit.not c)
  rw [isBareHex, isBareHex, (ignoresCase_isDigitBelow 16).all_small, hletter.any_small]

theorem spelledDigits?_small : spelledDigits? (small s) =
    (spelledDigits? s).map fun p => (p.1, p.2.1, small p.2.2) := by
  rw [spelledDigits?, spelledDigits?, Text.withoutLastBreak_small, hasLeadingZero_small,
    markedBase?_small, splitSuffix?_small, isFigures_small, isBareHex_small]
  split
  · rfl
  cases markedBase? s with
  | some b =>
    dsimp only [Option.map_some]
    rw [Text.small_drop]
  | none =>
    cases splitSuffix? (Text.withoutLastBreak s) with
    | some p => rfl
    | none =>
      dsimp only [Option.map_none]
      split
      · rfl
      · split <;> rfl

theorem readBare_small :
    (readBare (small s)).mapError Fault.unquoted = (readBare s).mapError Fault.unquoted := by
  rw [readBare, readBare, Text.trim_small, splitSigns_small, filter_small, spelledDigits?_small]
  cases spelledDigits? ((splitSigns (Text.trim s)).2.filter (· != '_')) with
  | none => rfl
  | some parts =>
    dsimp only [Option.map_some]
    rw [readDigits_small]

/-! ## Numerals -/

theorem read_small :
    (read (small s)).mapError Fault.unquoted = (read s).mapError Fault.unquoted := by
  rw [read, read, explicitBase?_small]
  cases explicitBase? s with
  | none => exact readBare_small s
  | some parts =>
    dsimp only [Option.map_some]
    rw [decimalValue_small, readSigned_small]

end Abacus.Numeral

namespace Abacus

/-- A failure without the text that it quotes. -/
def Failure.unquoted : Failure → Failure
  | .numeral fault => .numeral fault.unquoted
  | failure => failure

namespace Numeral

open Text (small)

theorem ofText_small (s : Text) :
    (ofText (small s)).mapError Failure.unquoted = (ofText s).mapError Failure.unquoted := by
  have hread := read_small (Request.ofText s).value
  simp only [ofText, Request.ofText_small, Request.hasTarget, Text.isEmpty_small, baseOfTag_small]
  cases hsmall : read (small (Request.ofText s).value) <;>
    cases hself : read (Request.ofText s).value <;> rw [hsmall, hself] at hread
  · exact congrArg (fun f => Except.error (Failure.numeral f)) (Except.error.inj hread)
  · cases hread
  · cases hread
  · cases hread
    rfl

/-- A numeral with its target is read in the same way with its ASCII letters in capitals and in
small letters; where it is not read, the fault is the same but for the text that it quotes. -/
theorem ofText_ignores_case (t : Text) :
    (ofText (t.map Char.toUpper)).mapError Failure.unquoted =
        (ofText t).mapError Failure.unquoted ∧
      (ofText (t.map Char.toLower)).mapError Failure.unquoted =
        (ofText t).mapError Failure.unquoted := by
  refine ⟨?_, ofText_small t⟩
  rw [← ofText_small, Text.small_map_toUpper, ofText_small]

end Numeral

end Abacus
