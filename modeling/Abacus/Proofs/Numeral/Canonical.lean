import Abacus.Classification
import Abacus.Numeral.Conversion
import Abacus.Proofs.Radix.Rendering
import Abacus.Proofs.Text.Ascii
import Abacus.Proofs.Text.Pattern

/-!
# Renderings are numerals

A rendering in one of the four common bases is a numeral without a target, written with the mark of
its base or in plain figures, and reading it gives the integer that was rendered.  So the renderings
of a conversion convert to the same renderings, and they are classified as numerals.
-/

namespace Abacus.Numeral

open Radix

/-! ## No separator, no explicit base -/

/-- A text without `>` and without blanks has no separator. -/
theorem splitSeparator?_eq_none {s : Text} (hgt : '>' ∉ s)
    (hblank : ∀ c ∈ s, Text.isBlank c = false) : splitSeparator? s = none := by
  induction s with
  | nil => rfl
  | cons c r ih =>
    have harrow : Text.startsWith (c :: r) ['-', '>'] = false := by
      rw [Text.startsWith, Bool.eq_false_iff]
      intro h
      exact hgt ((List.isPrefixOf_iff_prefix.1 h).subset (by simp))
    have hpiece : Text.Piece.run 1 none Text.isBlank ∈ toWord := List.mem_cons_self
    have hword : toWord.length? none (c :: r) = none := by
      rw [Text.Pattern.length?, Text.Pattern.segments?_eq_none hpiece Nat.one_pos hblank]
      rfl
    have hr : splitSeparator? r = none :=
      ih (fun h => hgt (List.mem_cons_of_mem c h)) fun d hd => hblank d (List.mem_cons_of_mem c hd)
    rw [splitSeparator?, separatorLength?, harrow, if_neg (by simp), hword, hr]
    simp

theorem request_of_plain {s : Text} (hgt : '>' ∉ s) (hblank : ∀ c ∈ s, Text.isBlank c = false) :
    Request.ofText s = ⟨s, []⟩ := by
  rw [Request.ofText, Text.trim_eq_self hblank, splitSeparator?_eq_none hgt hblank]

/-- A text without `#` and without the letter `s` does not name its base. -/
theorem explicitBase?_eq_none {s : Text} (hhash : '#' ∉ s)
    (hword : ∀ c ∈ s, Text.isLetter 's' c = false) : explicitBase? s = none := by
  have hsign : Text.Piece.run 1 (some 1) (· == '#') ∈ radixHash := by
    simp [radixHash, Text.Piece.exactly, Text.Piece.one]
  have hletter : Text.Piece.run 1 (some 1) (Text.isLetter 's') ∈ baseWord := by
    simp [baseWord, Text.Piece.one]
  have hradix : radixHash.whole? s = none :=
    Text.Pattern.whole?_eq_none hsign Nat.one_pos
      fun c hc => by simpa using fun h : c = '#' => hhash (h ▸ hc)
  have hbase : baseWord.whole? s = none := Text.Pattern.whole?_eq_none hletter Nat.one_pos hword
  rw [explicitBase?, hradix, hbase]

/-! ## Reading a rendering -/

/-- A character that names no base, asks for none and is not passed over. -/
structure IsPlainChar (c : Char) : Prop where
  not_blank : Text.isBlank c = false
  ne_arrow : c ≠ '>'
  ne_hash : c ≠ '#'
  not_letter : Text.isLetter 's' c = false
  ne_line : c ≠ '_'

instance (c : Char) : Decidable (IsPlainChar c) :=
  decidable_of_iff (Text.isBlank c = false ∧ c ≠ '>' ∧ c ≠ '#' ∧ Text.isLetter 's' c = false ∧
      c ≠ '_')
    ⟨fun ⟨hblank, harrow, hhash, hletter, hline⟩ => ⟨hblank, harrow, hhash, hletter, hline⟩,
      fun h => ⟨h.not_blank, h.ne_arrow, h.ne_hash, h.not_letter, h.ne_line⟩⟩

theorem isPlainChar_of_mem_renderingChars : ∀ c ∈ renderingChars, IsPlainChar c :=
  List.all_iff_forall_prop.1 (by decide)

/-- The bases whose renderings are part of every conversion. -/
def commonBases : List Base := [.sixteen, .ten, .two, .eight]

theorem le_sixteen_of_common {b : Base} (hb : b ∈ commonBases) : b.val ≤ 16 := by
  have all : ∀ b ∈ commonBases, b.val ≤ 16 := by decide
  exact all b hb

theorem isPlainChar_of_mem_render {b : Base} (hb : b ∈ commonBases) {n : Int} :
    ∀ c ∈ render b n, IsPlainChar c := fun c hc =>
  isPlainChar_of_mem_renderingChars c
    (mem_renderingChars_of_mem_render (le_sixteen_of_common hb) hc)

/-- How the rendering in a common base is spelled. -/
def spellingOf (b : Base) : Spelling := if b.val = 10 then .decimal else .marked

/-- Figures of a number do not start with a zero that is not alone. -/
theorem hasLeadingZero_digits (m : Nat) : hasLeadingZero (digits .ten m) = false := by
  rcases Nat.eq_zero_or_pos m with rfl | hm
  · rw [digits_zero]
    rfl
  · have hhead := head?_digits_ne_zero .ten hm.ne'
    unfold hasLeadingZero
    split
    · rename_i h
      simp [h] at hhead
    · rfl

/-- Figures do not start with the mark of a base. -/
theorem markedBase?_eq_none {s : Text} (h : ∀ c ∈ s, c.isDigit) : markedBase? s = none := by
  have htake : ∀ c ∈ s.take 2, c.isDigit := fun c hc => h c (List.mem_of_mem_take hc)
  have hlower : Text.lower (s.take 2) = s.take 2 := by
    rw [Text.lower_eq_map fun c hc => Text.toNat_lt_of_isDigit (htake c hc)]
    exact (List.map_congr_left fun c hc => Text.toLower_of_isDigit (htake c hc)).trans
      (List.map_id _)
  have hne : ∀ l : Char, l.isDigit = false → s.take 2 ≠ ['0', l] := by
    intro l hl heq
    have := htake l (by simp [heq])
    simp [hl] at this
  simp only [markedBase?, hlower]
  rw [if_neg (hne 'x' (by decide)), if_neg (hne 'b' (by decide)), if_neg (hne 'o' (by decide))]

/-- Figures do not end with the letter of a base. -/
theorem splitSuffix?_eq_none {s : Text} (h : ∀ c ∈ s, c.isDigit) : splitSuffix? s = none := by
  rw [splitSuffix?, List.findSome?_eq_none_iff]
  rintro ⟨l, b⟩ hlb
  have hl : l.isAlpha := by
    have all : ∀ x ∈ suffixes, x.1.isAlpha := by decide
    exact all _ hlb
  simp only
  split
  · rename_i c hc
    simp [Text.isLetter_of_isDigit hl (h c (List.mem_of_getLast? hc))]
  · rfl

/-- What is read of a rendering behind its sign. -/
theorem spelledDigits?_rendering {b : Base} (hb : b ∈ commonBases) (m : Nat) :
    spelledDigits? (mark b ++ shownDigits b m) = some (spellingOf b, b, shownDigits b m) := by
  have hbreak : Text.withoutLastBreak (mark b ++ shownDigits b m) = mark b ++ shownDigits b m := by
    apply Text.withoutLastBreak_eq_self
    intro hmem
    rcases List.mem_append.1 hmem with h | h
    · cases (isPlainChar_of_mem_renderingChars _ (mem_renderingChars_of_mem_mark h)).not_blank
    · cases (isPlainChar_of_mem_renderingChars _ (mem_renderingChars_of_mem_shownDigits
        (le_sixteen_of_common hb) h)).not_blank
  rw [spelledDigits?, hbreak]
  rcases List.mem_cons.1 hb with rfl | hb
  · rfl
  rcases List.mem_cons.1 hb with rfl | hb
  · have hdigits : ∀ c ∈ digits .ten m, c.isDigit := fun c => isDigit_of_mem_digits
    have hshown : mark .ten ++ shownDigits .ten m = digits .ten m := figures_eq_digits m
    have hfigures : isFigures (digits .ten m) = true := by
      simpa [isFigures, digits_ne_nil] using hdigits
    rw [hshown, hasLeadingZero_digits, markedBase?_eq_none hdigits, splitSuffix?_eq_none hdigits,
      hfigures]
    simp only [Bool.false_eq_true, if_false, if_true]
    rw [show shownDigits .ten m = digits .ten m from hshown]
    rfl
  rcases List.mem_cons.1 hb with rfl | hb
  · rfl
  · obtain rfl : b = .eight := by simpa using hb
    rfl

theorem head?_mark_append {b : Base} (hb : b ∈ commonBases) (m : Nat) :
    ∃ c, (mark b ++ shownDigits b m).head? = some c ∧ c ≠ '+' ∧ c ≠ '-' := by
  have hzero : ∀ r : Text, ∃ c, ('0' :: r).head? = some c ∧ c ≠ '+' ∧ c ≠ '-' :=
    fun r => ⟨'0', rfl, by decide, by decide⟩
  rcases List.mem_cons.1 hb with rfl | hb
  · exact hzero _
  rcases List.mem_cons.1 hb with rfl | hb
  · obtain ⟨c, r, hcr⟩ := List.exists_cons_of_ne_nil (shownDigits_ne_nil .ten m)
    have hmem : c ∈ digits .ten m := by
      rw [← figures_eq_digits]
      exact (hcr ▸ List.mem_cons_self : c ∈ shownDigits .ten m)
    have hdigit := isDigit_of_mem_digits hmem
    refine ⟨c, by rw [hcr]; rfl, ?_, ?_⟩
    · rintro rfl
      cases hdigit
    · rintro rfl
      cases hdigit
  rcases List.mem_cons.1 hb with rfl | hb
  · exact hzero _
  · obtain rfl : b = .eight := by simpa using hb
    exact hzero _

theorem splitSigns_rendering {b : Base} (hb : b ∈ commonBases) (n : Int) :
    splitSigns (render b n) = (decide (n < 0), mark b ++ shownDigits b n.natAbs) := by
  obtain ⟨c, hc, hplus, hminus⟩ := head?_mark_append hb n.natAbs
  obtain ⟨r, hr⟩ : ∃ r, mark b ++ shownDigits b n.natAbs = c :: r := by
    cases h : mark b ++ shownDigits b n.natAbs with
    | nil => simp [h] at hc
    | cons d r =>
      obtain rfl : d = c := by simpa [h] using hc
      exact ⟨r, rfl⟩
  rw [render, List.append_assoc, hr]
  by_cases hn : n < 0
  · simp [hn, splitSigns]
  · simp [hn, splitSigns, hplus, hminus]

/-- A rendering in a common base is read as the integer that was rendered. -/
theorem read_rendering {b : Base} (hb : b ∈ commonBases) (n : Int) :
    read (render b n) = .ok ⟨n, b, spellingOf b, none⟩ := by
  have hplain := isPlainChar_of_mem_render hb (n := n)
  have hexplicit : explicitBase? (render b n) = none :=
    explicitBase?_eq_none (fun h => (hplain _ h).ne_hash rfl) fun c hc => (hplain c hc).not_letter
  have hlines : (mark b ++ shownDigits b n.natAbs).filter (· != '_') =
      mark b ++ shownDigits b n.natAbs := by
    apply List.filter_eq_self.2
    intro c hc
    have hmem : c ∈ render b n := by
      rw [render, List.append_assoc]
      exact List.mem_append_right _ hc
    simpa using (hplain c hmem).ne_line
  rw [read, hexplicit]
  simp only [readBare]
  rw [Text.trim_eq_self fun c hc => (hplain c hc).not_blank, splitSigns_rendering hb]
  simp only [hlines, spelledDigits?_rendering hb, readDigits_shownDigits, signed_natAbs,
    Except.map]

/-- A rendering in a common base is a numeral that asks for no other base. -/
theorem ofText_rendering {b : Base} (hb : b ∈ commonBases) (n : Int) :
    Numeral.ofText (render b n) = .ok ⟨n, b, spellingOf b, none⟩ := by
  have hplain := isPlainChar_of_mem_render hb (n := n)
  rw [Numeral.ofText,
    request_of_plain (fun h => (hplain _ h).ne_arrow rfl) fun c hc => (hplain c hc).not_blank]
  simp [read_rendering hb, Request.hasTarget]

end Abacus.Numeral

namespace Abacus.Classification

open Radix Numeral
open Text (Pattern)

/-! ## Renderings are in explicit form -/

theorem isRunOf_of_mem_shownDigits {b : Base} {m : Nat} {c : Char} (hc : c ∈ shownDigits b m) :
    Expr.isRunOf b.val c := by
  obtain ⟨d, hd, hcd⟩ := exists_of_mem_shownDigits hc
  have hd36 : d < 36 := by have := b.le_max; omega
  have hlower : c.toLower = digitChar d := by
    rcases hcd with rfl | rfl
    · exact (toLower_digitChar hd36).1
    · exact (toLower_digitChar hd36).2
  simp [Expr.isRunOf, isDigitBelow, hlower, digitValue?_digitChar hd36, hd]

/-- A form that takes a body which starts with no sign takes it behind a minus, too. -/
theorem covers_framed {p : Pattern} {c : Char} {r : Text} (n : Int)
    (h : ∀ before, Pattern.Covers (p ++ [.many Text.isBlank]) before (c :: r))
    (hblank : Text.isBlank c = false) (hsign : isSign c = false) :
    Pattern.Covers (framed p) none (signOf n ++ c :: r) := by
  have hminus : Text.isBlank '-' = false := by decide
  rw [signOf]
  split
  · refine .skip (.run (u := ['-']) (h _) ?_ ?_ ?_ (.inr rfl)) ?_
    · simp [isSign]
    · simp
    · simp
    · simpa using hminus
  · refine .skip (.skip (h _) ?_) ?_
    · simpa using hsign
    · simpa using hblank

/-- The digits of a rendering are taken up to its end. -/
theorem covers_digits {admits : Char → Bool} {least : Nat} {s : Text}
    (h : ∀ c ∈ s, admits c) (hleast : least ≤ s.length) (before : Option Char) :
    Pattern.Covers [.run least none admits, .many Text.isBlank] before s := by
  have hend : Pattern.Covers [.many Text.isBlank] (s.getLast?.or before) [] :=
    .skip Pattern.covers_nil (by simp)
  rw [← List.append_nil s]
  exact hend.run h hleast (by simp) (by simp)

theorem isExplicitForm_rendering {b : Base} (hb : b ∈ commonBases) (n : Int) :
    isExplicitForm (render b n) := by
  have hrun : ∀ c ∈ shownDigits b n.natAbs, Expr.isRunOf b.val c := fun c =>
    isRunOf_of_mem_shownDigits
  have hlen : 1 ≤ (shownDigits b n.natAbs).length :=
    List.length_pos_iff.2 (shownDigits_ne_nil b n.natAbs)
  have hform : ∀ p ∈ explicitForms, Pattern.Covers (framed p) none (render b n) →
      isExplicitForm (render b n) := fun p hp h =>
    List.any_eq_true.2 ⟨p, hp, Pattern.fits_of_covers h⟩
  rw [render_eq] at hform ⊢
  -- one form for each base: a mark and its digits, or figures alone
  rcases List.mem_cons.1 hb with rfl | hb
  · refine hform [.exactly '0', .one (Text.isLetter 'x'), .some (Expr.isRunOf 16)]
      (by simp [explicitForms]) (covers_framed _ (fun _ => ?_) (by decide) (by decide))
    exact .exactly (.one (covers_digits hrun hlen _) (by decide))
  rcases List.mem_cons.1 hb with rfl | hb
  · have hfigures : shownDigits .ten n.natAbs = digits .ten n.natAbs := figures_eq_digits _
    obtain ⟨c, r, hcr⟩ := List.exists_cons_of_ne_nil (digits_ne_nil .ten n.natAbs)
    have hdigit : ∀ d ∈ c :: r, d.isDigit := fun d hd => isDigit_of_mem_digits (hcr ▸ hd)
    have hc : c.isDigit := hdigit c List.mem_cons_self
    rw [show mark .ten ++ shownDigits .ten n.natAbs = c :: r from hfigures.trans hcr] at hform ⊢
    refine hform [.one Char.isDigit, .many Expr.isFigureOrLine] (by simp [explicitForms])
      (covers_framed _ (fun _ => .one (covers_digits ?_ (Nat.zero_le _) _) hc) ?_ ?_)
    · intro d hd
      simp [Expr.isFigureOrLine, hdigit d (List.mem_cons_of_mem c hd)]
    · exact Text.isBlank_of_isDigit hc
    · simp only [isSign, Bool.or_eq_false_iff, beq_eq_false_iff_ne]
      constructor <;> rintro rfl <;> cases hc
  rcases List.mem_cons.1 hb with rfl | hb
  · refine hform [.exactly '0', .one (Text.isLetter 'b'), .some (Expr.isRunOf 2)]
      (by simp [explicitForms]) (covers_framed _ (fun _ => ?_) (by decide) (by decide))
    exact .exactly (.one (covers_digits hrun hlen _) (by decide))
  · obtain rfl : b = .eight := by simpa using hb
    refine hform [.exactly '0', .one (Text.isLetter 'o'), .some (Expr.isRunOf 8)]
      (by simp [explicitForms]) (covers_framed _ (fun _ => ?_) (by decide) (by decide))
    exact .exactly (.one (covers_digits hrun hlen _) (by decide))

end Abacus.Classification

namespace Abacus

open Radix Numeral

theorem classify_rendering {b : Base} (hb : b ∈ commonBases) (n : Int) {cfg : Limits}
    (hlen : ((render b n).length : Int) ≤ cfg.maxSelection) :
    classify cfg (Text.trim (render b n)) = .ok .explicitForm := by
  have hplain := isPlainChar_of_mem_render hb (n := n)
  have hne : (render b n).isEmpty = false := by
    simp [render, shownDigits_ne_nil]
  rw [Text.trim_eq_self fun c hc => (hplain c hc).not_blank, classify, hne, if_neg (by simp),
    if_neg (by omega),
    request_of_plain (fun h => (hplain _ h).ne_arrow rfl) fun c hc => (hplain c hc).not_blank]
  simp [Request.hasTarget, Classification.isExplicitForm_rendering hb]

namespace Conversion

/-- The renderings in the common bases. -/
def renderings (c : Conversion) : List Text := [c.hex, c.dec, c.bin, c.oct]

theorem renderings_ofInt (n : Int) (target : Option Base) :
    (ofInt n target).renderings = commonBases.map fun b => render b n := rfl

/-- Every conversion shows some integer, with or without a target. -/
theorem exists_ofInt_of_ofText {t : Text} {c : Conversion} (h : ofText t = .ok c) :
    ∃ n target, c = ofInt n target := by
  rw [ofText] at h
  cases hn : Numeral.ofText t with
  | error f =>
    rw [hn] at h
    cases h
  | ok n =>
    rw [hn] at h
    cases h
    exact ⟨n.value, n.target, rfl⟩

theorem ofText_render {b : Base} (hb : b ∈ commonBases) (n : Int) :
    ofText (render b n) = .ok (ofInt n none) := by
  rw [ofText, ofText_rendering hb]
  rfl

/-- Every rendering of a conversion converts to the same renderings, without a target, and is
classified as a numeral if it is not too long.  Conversions are of all integers. -/
theorem renderings_roundTrip :
    (∀ n : Int, ∀ r ∈ (ofInt n none).renderings, ofText r = .ok (ofInt n none)) ∧
    ∀ (t : Text) (c : Conversion), ofText t = .ok c → ∀ r ∈ c.renderings,
      ofText r = .ok { c with first := none } ∧
      ∀ cfg : Limits, (r.length : Int) ≤ cfg.maxSelection →
        ∃ w, classify cfg (Text.trim r) = .ok w ∧ w.kind = .numeral := by
  constructor
  · intro n r hr
    rw [renderings_ofInt] at hr
    obtain ⟨b, hb, rfl⟩ := List.mem_map.1 hr
    exact ofText_render hb n
  · intro t c h r hr
    obtain ⟨n, target, rfl⟩ := exists_ofInt_of_ofText h
    rw [renderings_ofInt] at hr
    obtain ⟨b, hb, rfl⟩ := List.mem_map.1 hr
    constructor
    · exact ofText_render hb n
    · intro cfg hlen
      exact ⟨.explicitForm, classify_rendering hb n hlen, rfl⟩

/-- The binary rendering of a negative numeral with a target. -/
theorem renderings_roundTrip_negative :
    let c := ofInt (-255) (some ⟨36, by decide, by decide⟩)
    ofText "16#-fF to 36".toList = .ok c ∧ c.bin ∈ c.renderings ∧ c.bin = "-0b11111111".toList ∧
      ofText c.bin = .ok { c with first := none } ∧
      (c.bin.length : Int) ≤ ({} : Limits).maxSelection ∧
      ∃ w, classify {} (Text.trim c.bin) = .ok w ∧ w.kind = .numeral := by
  have hread : ofText "16#-fF to 36".toList =
      .ok (ofInt (-255) (some ⟨36, by decide, by decide⟩)) := rfl
  have hbin : (ofInt (-255) (some ⟨36, by decide, by decide⟩)).bin = "-0b11111111".toList := by
    decide +kernel
  have hmem : (ofInt (-255) (some ⟨36, by decide, by decide⟩)).bin ∈
      (ofInt (-255) (some ⟨36, by decide, by decide⟩)).renderings := by
    simp [renderings]
  have hlen : ((ofInt (-255) (some ⟨36, by decide, by decide⟩)).bin.length : Int) ≤
      ({} : Limits).maxSelection := by
    rw [hbin]
    decide
  have h := renderings_roundTrip.2 _ _ hread _ hmem
  exact ⟨hread, hmem, hbin, h.1, hlen, h.2 _ hlen⟩

end Conversion

end Abacus
