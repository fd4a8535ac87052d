import Abacus.Proofs.Text.Ascii
import Abacus.Proofs.Text.Pattern
import Abacus.Text.Case

/-!
# What does not depend on letter case

Small ASCII letters may be put for capitals.  A class of characters that does not tell them apart
takes the same part of a text, so that trimming, patterns and whatever else looks at such classes
only commute with putting small letters.  Lower case does not show the difference at all.
-/

namespace Abacus.Text

variable {α : Type} {s : Text} {p : Char → Bool}

/-! ## Characters -/

/-- What is told of a character is the same for a capital and its small letter. -/
def IgnoresCase (g : Char → α) : Prop := ∀ c : Char, g c.toLower = g c

/-- There is nothing to check but the capitals. -/
theorem ignoresCase_of_capitals {g : Char → α}
    (h : ∀ n ∈ List.range 26, g (Char.ofNat (65 + n)).toLower = g (Char.ofNat (65 + n))) :
    IgnoresCase g := by
  intro c
  rcases toLower_cases c with hsame | ⟨n, hn, rfl⟩
  · rw [hsame]
  · exact h n hn

theorem ignoresCase_toLower : IgnoresCase Char.toLower := ignoresCase_of_capitals (by decide)

theorem toLower_toUpper (c : Char) : c.toUpper.toLower = c.toLower := by
  rcases toUpper_cases c with hsame | ⟨n, hn, rfl⟩
  · rw [hsame]
  · have all : ∀ n ∈ List.range 26, (Char.ofNat (97 + n)).toUpper.toLower =
        (Char.ofNat (97 + n)).toLower := by decide
    exact all n hn

theorem ignoresCase_beq {x : Char} (hx : x.isAlpha = false) : IgnoresCase (· == x) := fun _ =>
  Bool.eq_iff_iff.2 (by rw [beq_iff_eq, beq_iff_eq, toLower_eq_iff hx])

theorem IgnoresCase.not (hp : IgnoresCase p) : IgnoresCase fun c => !p c := fun c =>
  congrArg Bool.not (hp c)

theorem IgnoresCase.or {q : Char → Bool} (hp : IgnoresCase p) (hq : IgnoresCase q) :
    IgnoresCase fun c => p c || q c := fun c => congrArg₂ Bool.or (hp c) (hq c)

theorem ignoresCase_isBlank : IgnoresCase isBlank := ignoresCase_of_capitals (by decide)

theorem ignoresCase_decimalValue? : IgnoresCase decimalValue? := ignoresCase_of_capitals (by decide)

theorem ignoresCase_isDigit : IgnoresCase Char.isDigit := ignoresCase_of_capitals (by decide)

theorem ignoresCase_isWord : IgnoresCase isWord := ignoresCase_of_capitals (by decide)

theorem ignoresCase_folded? : IgnoresCase folded? := ignoresCase_of_capitals (by decide)

theorem ignoresCase_isLetter (l : Char) : IgnoresCase (isLetter l) := fun c => by
  rw [isLetter, isLetter, ignoresCase_toLower c, ignoresCase_folded? c]

/-! ## Texts -/

/-- The text with small ASCII letters for capitals. -/
def small (s : Text) : Text := s.map Char.toLower

@[simp] theorem small_cons (c : Char) (s : Text) : small (c :: s) = c.toLower :: small s := rfl

@[simp] theorem small_append (s t : Text) : small (s ++ t) = small s ++ small t :=
  List.map_append

@[simp] theorem length_small (s : Text) : (small s).length = s.length := List.length_map _

@[simp] theorem isEmpty_small (s : Text) : (small s).isEmpty = s.isEmpty := List.isEmpty_map

theorem small_drop (n : Nat) (s : Text) : small (s.drop n) = (small s).drop n := List.map_drop

theorem small_reverse (s : Text) : small s.reverse = (small s).reverse := List.map_reverse

/-- Capitals for small letters make no difference either. -/
theorem small_map_toUpper (s : Text) : small (s.map Char.toUpper) = small s := by
  rw [small, List.map_map]
  exact List.map_congr_left fun c _ => toLower_toUpper c

section

variable (hp : IgnoresCase p) (s : Text)

include hp

theorem IgnoresCase.dropWhile_small : (small s).dropWhile p = small (s.dropWhile p) := by
  rw [small, List.dropWhile_map, show p ∘ Char.toLower = p from funext hp, small]

theorem IgnoresCase.takeWhile_small : (small s).takeWhile p = small (s.takeWhile p) := by
  rw [small, List.takeWhile_map, show p ∘ Char.toLower = p from funext hp, small]

theorem IgnoresCase.filter_small : (small s).filter p = small (s.filter p) := by
  rw [small, List.filter_map, show p ∘ Char.toLower = p from funext hp, small]

theorem IgnoresCase.all_small : (small s).all p = s.all p := by
  rw [small, List.all_map, show p ∘ Char.toLower = p from funext hp]

theorem IgnoresCase.any_small : (small s).any p = s.any p := by
  rw [small, List.any_map, show p ∘ Char.toLower = p from funext hp]

theorem IgnoresCase.trimWhile_small : trimWhile p (small s) = small (trimWhile p s) := by
  rw [trimWhile, hp.dropWhile_small, ← small_reverse, hp.dropWhile_small, ← small_reverse,
    trimWhile]

theorem IgnoresCase.spanWithin_small (limit : Option Nat) :
    spanWithin p limit (small s) =
      (small (spanWithin p limit s).1, small (spanWithin p limit s).2) := by
  induction s generalizing limit with
  | nil => rfl
  | cons c r ih =>
    rw [small_cons, spanWithin, spanWithin, hp c, ih]
    split <;> rfl

end

theorem trim_small (s : Text) : trim (small s) = small (trim s) :=
  ignoresCase_isBlank.trimWhile_small s

theorem withoutLastBreak_small (s : Text) :
    withoutLastBreak (small s) = small (withoutLastBreak s) := by
  have hlast : (small s).getLast? = some '\n' ↔ s.getLast? = some '\n' := by
    rw [small, List.getLast?_map, Option.map_eq_some_iff]
    constructor
    · rintro ⟨c, hc, hlower⟩
      rw [hc, (toLower_eq_iff rfl).1 hlower]
    · exact fun h => ⟨_, h, rfl⟩
  rw [withoutLastBreak, withoutLastBreak]
  by_cases h : s.getLast? = some '\n'
  · rw [if_pos h, if_pos (hlast.2 h), small, small, List.map_dropLast]
  · rw [if_neg h, if_neg (mt hlast.1 h)]

/-- Where there are no letters to start with, the letters do not count. -/
theorem startsWith_small {t : Text} (ht : ∀ x ∈ t, x.isAlpha = false) (s : Text) :
    startsWith (small s) t = startsWith s t := by
  induction t generalizing s with
  | nil => rfl
  | cons x t ih =>
    cases s with
    | nil => rfl
    | cons c r =>
      have hx : (x == c.toLower) = (x == c) :=
        BEq.comm.trans ((ignoresCase_beq (ht x List.mem_cons_self) c).trans BEq.comm)
      have hr := ih (fun y hy => ht y (List.mem_cons_of_mem _ hy)) r
      exact congrArg₂ Bool.and hx hr

/-! ## Patterns -/

namespace Pattern

/-- No run of the pattern tells capitals from small letters. -/
def IgnoresCase (p : Pattern) : Prop :=
  ∀ least most admits, .run least most admits ∈ p → Text.IgnoresCase admits

theorem IgnoresCase.nil : IgnoresCase [] := nofun

theorem IgnoresCase.run {p : Pattern} {least : Nat} {most : Option Nat} {admits : Char → Bool}
    (hadmits : Text.IgnoresCase admits) (hp : IgnoresCase p) :
    IgnoresCase (.run least most admits :: p) := by
  intro least' most' admits' hmem
  rcases List.mem_cons.1 hmem with heq | hmem
  · cases heq
    exact hadmits
  · exact hp least' most' admits' hmem

theorem IgnoresCase.segments?_small {p : Pattern} (hp : IgnoresCase p) (before : Option Char)
    (s : Text) : segments? p (before.map Char.toLower) (small s) =
      (segments? p before s).map fun r => (r.1.map small, small r.2) := by
  induction p generalizing before s with
  | nil => rfl
  | cons piece ps ih =>
    have hps : IgnoresCase ps := fun least most admits hmem =>
      hp least most admits (List.mem_cons_of_mem _ hmem)
    cases piece with
    | boundary =>
      have hboundary : isBoundary (before.map Char.toLower) (small s).head? =
          isBoundary before s.head? := by
        have hword : ∀ o : Option Char, (o.map Char.toLower).any isWord = o.any isWord := by
          rintro (_ | c)
          · rfl
          · exact ignoresCase_isWord c
        rw [isBoundary, isBoundary, hword, small, List.head?_map, hword]
      rw [segments?, segments?, hboundary, ih hps]
      split <;> rfl
    | run least most admits =>
      have hadmits := hp least most admits List.mem_cons_self
      have hlast : ∀ u : Text, (small u).getLast?.or (before.map Char.toLower) =
          (u.getLast?.or before).map Char.toLower := fun u => by
        rw [small, List.getLast?_map, Option.map_or]
      simp only [segments?, hadmits.spanWithin_small, length_small, hlast, ih hps]
      split
      · rfl
      · rw [Option.map_map, Option.map_map]
        rfl

theorem IgnoresCase.length?_small {p : Pattern} (hp : IgnoresCase p) (s : Text) :
    length? p none (small s) = length? p none s := by
  have hsegments := hp.segments?_small none s
  rw [Option.map_none] at hsegments
  rw [length?, length?, hsegments, Option.map_map]
  congr 1
  funext r
  change (r.1.map (List.map Char.toLower)).flatten.length = r.1.flatten.length
  rw [← List.map_flatten, List.length_map]

theorem IgnoresCase.whole?_small {p : Pattern} (hp : IgnoresCase p) (s : Text) :
    whole? p (small s) = (whole? p s).map (·.map small) := by
  have hsegments := hp.segments?_small none s
  rw [Option.map_none] at hsegments
  rw [whole?, whole?, hsegments]
  cases segments? p none s with
  | none => rfl
  | some r =>
    obtain ⟨segs, rest⟩ := r
    cases rest <;> rfl

end Pattern

/-! ## Lower case -/

theorem meetsCased_small (s : Text) : meetsCased (small s) = meetsCased s := by
  have hcased : IgnoresCase isCased := ignoresCase_of_capitals (by decide)
  have hignorable : IgnoresCase isCaseIgnorable := ignoresCase_of_capitals (by decide)
  rw [meetsCased, meetsCased, hignorable.dropWhile_small]
  cases s.dropWhile isCaseIgnorable with
  | nil => rfl
  | cons c r => exact hcased c

theorem lowerChar_small (before : Text) (c : Char) (after : Text) :
    lowerChar (small before) c.toLower (small after) = lowerChar before c after := by
  have hascii : IgnoresCase fun c => c.toNat < 128 := ignoresCase_of_capitals (by decide)
  by_cases hc : c.toNat < 128
  · have hlower : c.toLower.toNat < 128 := (iff_of_eq (hascii c)).2 hc
    rw [lowerChar, lowerChar, if_pos hlower, if_pos hc, ignoresCase_toLower c]
  · rw [toLower_of_le (Nat.le_of_not_lt hc), lowerChar, lowerChar, meetsCased_small,
      meetsCased_small]

theorem lowerFrom_small (before s : Text) :
    lowerFrom (small before) (small s) = lowerFrom before s := by
  induction s generalizing before with
  | nil => rfl
  | cons c r ih =>
    rw [small_cons, lowerFrom, lowerFrom, lowerChar_small, ← small_cons, ih]

/-- In lower case small letters cannot be told from capitals. -/
theorem lower_small (s : Text) : lower (small s) = lower s := lowerFrom_small [] s

end Abacus.Text
