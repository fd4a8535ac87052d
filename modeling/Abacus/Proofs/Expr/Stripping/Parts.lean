import Abacus.Proofs.Expr.NumeralTokens

/-!
# Numerals with what they stand for

The kinds of numerals are stripped one after the other, and a later numeral may go over the zero of
an earlier one.  Here every zero keeps the characters in whose place it stands, so that it can be
said of each character of a text whether it stays or goes with a numeral.
-/

namespace Abacus.Expr.Stripping

open Text (Pattern)

/-- What becomes of a character: it stays, or it goes with a numeral.  The numerals that name their
base by a number, as `16#ff` and `base 16 ff` do, are told from the others. -/
inductive Fate where
  | stays
  | numeral
  | tagged
deriving DecidableEq

abbrev Cell := Char × Fate

/-- A character in a text from which numerals are stripped: one of the text's own, or the zero for a
numeral. -/
inductive Part where
  | own (c : Char)
  | numeral (source : List Cell)

namespace Part

/-- The character that is seen. -/
def shown : Part → Char
  | own c => c
  | numeral _ => '0'

/-- The characters that the part stands for. -/
def cells : Part → List Cell
  | own c => [(c, .stays)]
  | numeral source => source

/-- The characters of a part that goes with a numeral. -/
def gone (f : Fate) : Part → List Cell
  | own c => [(c, f)]
  | numeral source => source

theorem map_fst_gone (f : Fate) (p : Part) : (p.gone f).map Prod.fst = p.cells.map Prod.fst := by
  cases p <;> rfl

end Part

variable {token : Option Char → Text → Option Nat} {f : Fate} {before : Option Char}
  {ps qs us : List Part}

/-- The text that is seen. -/
def seen (ps : List Part) : Text := ps.map Part.shown

/-- The text that the parts stand for. -/
def source (ps : List Part) : Text := (ps.flatMap Part.cells).map Prod.fst

@[simp] theorem seen_cons (p : Part) (ps : List Part) : seen (p :: ps) = p.shown :: seen ps := rfl

@[simp] theorem seen_append (ps qs : List Part) : seen (ps ++ qs) = seen ps ++ seen qs :=
  List.map_append

@[simp] theorem length_seen (ps : List Part) : (seen ps).length = ps.length := List.length_map _

@[simp] theorem source_cons (p : Part) (ps : List Part) :
    source (p :: ps) = p.cells.map Prod.fst ++ source ps := by
  rw [source, List.flatMap_cons, List.map_append, source]

@[simp] theorem source_append (ps qs : List Part) : source (ps ++ qs) = source ps ++ source qs := by
  rw [source, List.flatMap_append, List.map_append, source, source]

theorem map_fst_gone (f : Fate) (ps : List Part) :
    (ps.flatMap (Part.gone f)).map Prod.fst = source ps := by
  induction ps with
  | nil => rfl
  | cons p ps ih => rw [List.flatMap_cons, List.map_append, ih, p.map_fst_gone, source_cons]

/-! ## One kind -/

/-- The parts with one numeral for each token. -/
def mergeFrom (token : Option Char → Text → Option Nat) (f : Fate) :
    Nat → Option Char → List Part → List Part
  | _, _, [] => []
  | skip + 1, _, p :: ps => mergeFrom token f skip (some p.shown) ps
  | 0, before, p :: ps =>
      match token before (seen (p :: ps)) with
      | some (n + 1) =>
          .numeral (((p :: ps).take (n + 1)).flatMap (Part.gone f)) ::
            mergeFrom token f n (some p.shown) ps
      | _ => p :: mergeFrom token f 0 (some p.shown) ps

/-- The text that is seen afterwards is the one with a zero for each token. -/
theorem seen_mergeFrom (skip : Nat) (before : Option Char) (ps : List Part) :
    seen (mergeFrom token f skip before ps) =
      Text.replaceFrom token (fun _ => ['0']) skip before (seen ps) := by
  induction ps generalizing skip before with
  | nil => cases skip <;> rfl
  | cons p ps ih =>
    cases skip with
    | succ skip => exact ih skip (some p.shown)
    | zero =>
      rw [mergeFrom]
      split
      · rename_i n h
        rw [seen_cons] at h
        rw [seen_cons, seen_cons, ih, Text.replaceFrom, h]
        rfl
      · rename_i h
        rw [seen_cons] at h
        rw [seen_cons, seen_cons, ih, Text.replaceFrom_cons_of_ne h]

/-- What belongs to a token is passed over, up to its last part. -/
theorem mergeFrom_append (us ps : List Part) (before : Option Char) :
    mergeFrom token f us.length before (us ++ ps) =
      mergeFrom token f 0 ((seen us).getLast?.or before) ps := by
  induction us generalizing before with
  | nil => rfl
  | cons u us ih =>
    rw [List.length_cons, List.cons_append, mergeFrom, ih, seen_cons, List.getLast?_cons,
      Option.some_or, ← Option.or_some]

/-- Parts before and after tokens have become numerals, from a place where `before` is seen in
front. -/
inductive Merges (token : Option Char → Text → Option Nat) (f : Fate) :
    Option Char → List Part → List Part → Prop
  | nil (before : Option Char) : Merges token f before [] []
  | keep {before : Option Char} {p : Part} {ps qs : List Part} :
      Merges token f (some p.shown) ps qs → Merges token f before (p :: ps) (p :: qs)
  | token {before : Option Char} {us ps qs : List Part} :
      us ≠ [] → token before (seen us ++ seen ps) = some us.length →
      Merges token f (seen us).getLast? ps qs →
      Merges token f before (us ++ ps) (.numeral (us.flatMap (Part.gone f)) :: qs)

theorem merges_mergeFrom (hlength : ∀ b s n, token b s = some n → n ≤ s.length)
    (before : Option Char) (ps : List Part) :
    Merges token f before ps (mergeFrom token f 0 before ps) := by
  induction hn : ps.length using Nat.strong_induction_on generalizing before ps with
  | _ n ih =>
    cases ps with
    | nil => exact .nil before
    | cons p ps =>
      rw [mergeFrom]
      split
      · rename_i k h
        -- the token as the parts that it takes
        have hle : k + 1 ≤ (p :: ps).length := (hlength _ _ _ h).trans_eq (length_seen _)
        obtain ⟨us, qs, rfl, rfl⟩ : ∃ us qs, ps = us ++ qs ∧ us.length = k :=
          ⟨_, _, (List.take_append_drop k ps).symm,
            List.length_take_of_le (Nat.le_of_succ_le_succ hle)⟩
        have htake : (p :: (us ++ qs)).take (us.length + 1) = p :: us := by
          rw [List.take_succ_cons, List.take_left]
        have hlast : (seen us).getLast?.or (some p.shown) = (seen (p :: us)).getLast? := by
          rw [seen_cons, List.getLast?_cons, ← Option.or_some]
        rw [htake, mergeFrom_append, hlast, ← List.cons_append]
        rw [← List.cons_append, seen_append] at h
        refine .token (List.cons_ne_nil p us) h (ih _ ?_ _ _ rfl)
        rw [← hn, List.length_cons, List.length_append]
        omega
      · exact .keep (ih _ (by rw [← hn, List.length_cons]; omega) _ _ rfl)

/-- Numerals stand for what was there before. -/
theorem Merges.source_eq (h : Merges token f before ps qs) : source qs = source ps := by
  induction h with
  | nil before => rfl
  | keep _ ih => rw [source_cons, source_cons, ih]
  | token _ _ _ ih => rw [source_cons, Part.cells, map_fst_gone, ih, source_append]

/-! ## All kinds -/

/-- The kinds of numerals with what becomes of the characters in them. -/
def strippings : List (List Pattern × Fate) :=
  numeralTokens.zip (List.replicate 7 .numeral ++ [.tagged, .tagged, .numeral])

def merge (ps : List Part) (kind : List Pattern × Fate) : List Part :=
  mergeFrom (tokenLength? kind.1) kind.2 0 none ps

/-- The parts of a text from which all numerals are stripped. -/
def parts (s : Text) : List Part := strippings.foldl merge (s.map .own)

/-- The characters of a text with what becomes of them. -/
def cells (s : Text) : List Cell := (parts s).flatMap Part.cells

theorem seen_own (s : Text) : seen (s.map .own) = s := by
  rw [seen, List.map_map]
  exact List.map_id s

theorem source_own (s : Text) : source (s.map .own) = s := by
  induction s with
  | nil => rfl
  | cons c s ih => rw [List.map_cons, source_cons, ih]; rfl

theorem tokenLength?_le {kind : List Pattern} {s : Text} {n : Nat}
    (h : tokenLength? kind before s = some n) : n ≤ s.length := by
  obtain ⟨p, -, hn⟩ := List.exists_of_findSome?_eq_some h
  obtain ⟨⟨segs, rest⟩, hsegs, rfl⟩ := Option.map_eq_some_iff.1 hn
  rw [← Pattern.segments?_append hsegs, List.length_append]
  exact Nat.le_add_right _ _

theorem merges_merge (ps : List Part) (kind : List Pattern × Fate) :
    Merges (tokenLength? kind.1) kind.2 none ps (merge ps kind) :=
  merges_mergeFrom (fun _ _ _ => tokenLength?_le) none ps

/-- What is seen of the parts is the text without its numerals. -/
theorem seen_parts (s : Text) : seen (parts s) = stripNumerals s := by
  have hfold : ∀ (kinds : List (List Pattern × Fate)) (ps : List Part),
      seen (kinds.foldl merge ps) = (kinds.map Prod.fst).foldl stripKind (seen ps) := by
    intro kinds
    induction kinds with
    | nil => exact fun ps => rfl
    | cons kind kinds ih =>
      intro ps
      rw [List.foldl_cons, ih, merge, seen_mergeFrom]
      rfl
  rw [parts, hfold, seen_own]
  rfl

/-- The parts stand for the whole text. -/
theorem source_parts (s : Text) : source (parts s) = s := by
  have hfold : ∀ (kinds : List (List Pattern × Fate)) (ps : List Part),
      source (kinds.foldl merge ps) = source ps := by
    intro kinds
    induction kinds with
    | nil => exact fun ps => rfl
    | cons kind kinds ih =>
      intro ps
      rw [List.foldl_cons, ih, (merges_merge ps kind).source_eq]
  rw [parts, hfold, source_own]

end Abacus.Expr.Stripping
