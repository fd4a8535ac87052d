import Abacus.Text.Basic
import Abacus.Text.Word

/-!
# Patterns

A pattern is a sequence of pieces, each a run of characters of one class between two lengths or a
word boundary. A run takes as many characters as it may and gives none back. The segments that the
pieces take make up, with the rest, the text that was read.
-/

namespace Abacus.Text

inductive Piece where
  | boundary
  | run (least : Nat) (most : Option Nat) (admits : Char → Bool)

namespace Piece

def one (p : Char → Bool) : Piece := .run 1 (some 1) p
def optional (p : Char → Bool) : Piece := .run 0 (some 1) p
def many (p : Char → Bool) : Piece := .run 0 none p
def some (p : Char → Bool) : Piece := .run 1 none p
def exactly (c : Char) : Piece := .one (· == c)

end Piece

/-- The longest run of a class at the start of a text, within a limit, and what follows it. -/
def spanWithin (p : Char → Bool) : Option Nat → Text → Text × Text
  | _, [] => ([], [])
  | limit, c :: r =>
      if limit != some 0 && p c then
        (c :: (spanWithin p (limit.map (· - 1)) r).1, (spanWithin p (limit.map (· - 1)) r).2)
      else ([], c :: r)

theorem spanWithin_append (p : Char → Bool) (limit : Option Nat) (s : Text) :
    (spanWithin p limit s).1 ++ (spanWithin p limit s).2 = s := by
  induction s generalizing limit with
  | nil => simp [spanWithin]
  | cons c r ih =>
    unfold spanWithin
    split
    · simp [ih]
    · rfl

theorem spanWithin_all (p : Char → Bool) (limit : Option Nat) (s : Text) :
    ∀ c ∈ (spanWithin p limit s).1, p c := by
  induction s generalizing limit with
  | nil => simp [spanWithin]
  | cons c r ih =>
    unfold spanWithin
    split
    · rename_i h
      simp only [Bool.and_eq_true] at h
      intro x hx
      rcases List.mem_cons.1 hx with rfl | hx
      · exact h.2
      · exact ih _ x hx
    · simp

abbrev Pattern := List Piece

namespace Pattern

/-- The segments that the runs take at the start of a text, and the rest; `before` is the character
before the text. -/
def segments? : Pattern → Option Char → Text → Option (List Text × Text)
  | [], _, s => some ([], s)
  | .boundary :: ps, before, s =>
      if isBoundary before s.head? then segments? ps before s else none
  | .run least most admits :: ps, before, s =>
      let taken := spanWithin admits most s
      if taken.1.length < least then none
      else (segments? ps (taken.1.getLast?.or before) taken.2).map fun r => (taken.1 :: r.1, r.2)

/-- Segments and rest make up the text. -/
theorem segments?_append {ps : Pattern} {before : Option Char} {s : Text} {segs : List Text}
    {rest : Text} (h : segments? ps before s = some (segs, rest)) : segs.flatten ++ rest = s := by
  induction ps generalizing before s segs rest with
  | nil => simp_all [segments?]
  | cons p ps ih =>
    cases p with
    | boundary =>
      simp only [segments?] at h
      split at h
      · exact ih h
      · cases h
    | run least most admits =>
      simp only [segments?] at h
      split at h
      · cases h
      · obtain ⟨⟨segs', rest'⟩, h', heq⟩ := Option.map_eq_some_iff.1 h
        cases heq
        simp only [List.flatten_cons, List.append_assoc]
        rw [ih h', spanWithin_append]

/-- The number of characters the pattern takes. -/
def length? (p : Pattern) (before : Option Char) (s : Text) : Option Nat :=
  (segments? p before s).map fun r => r.1.flatten.length

/-- The segments of a text that the pattern takes as a whole. -/
def whole? (p : Pattern) (s : Text) : Option (List Text) :=
  match segments? p none s with
  | some (segs, []) => some segs
  | _ => none

def fits (p : Pattern) (s : Text) : Bool := (whole? p s).isSome

end Pattern

/-- Replaces tokens by their images from left to right. `token` tells, from the character before and
the text that follows, how many characters a token takes there; `skip` characters are part of the
token before. -/
def replaceFrom (token : Option Char → Text → Option Nat) (image : Text → Text) :
    Nat → Option Char → Text → Text
  | _, _, [] => []
  | skip + 1, _, c :: r => replaceFrom token image skip (some c) r
  | 0, before, c :: r =>
      match token before (c :: r) with
      | some (n + 1) => image ((c :: r).take (n + 1)) ++ replaceFrom token image n (some c) r
      | _ => c :: replaceFrom token image 0 (some c) r

def replaceTokens (token : Option Char → Text → Option Nat) (image : Text → Text) (s : Text) :
    Text :=
  replaceFrom token image 0 none s

end Abacus.Text
