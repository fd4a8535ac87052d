import Abacus.Proofs.Expr.Attempt
import Abacus.Proofs.Expr.Lexing.Parentheses
import Abacus.Proofs.Expr.OwnNames
import Abacus.Proofs.Expr.Retry.Promotion

/-!
# Parentheses through the passes over a text

No pass over a text adds, drops or moves a parenthesis or a hash: such a character belongs to no
name, to no numeral and to no blank.  So the parentheses of a text without comments that has a value
are balanced.
-/

namespace Abacus.Expr

open Text (isWord isBlank)

variable {b : Option Char} {s u v r : Text} {x : Float}

/-! ## Grouping characters -/

/-- Parentheses, and the hash that hides them in a comment. -/
def isGrouping (c : Char) : Bool := c == '(' || c == ')' || c == '#'

/-- The grouping characters of a text. -/
def groups (s : Text) : Text := s.filter isGrouping

theorem hash_mem_groups : '#' ∈ groups s ↔ '#' ∈ s := by simp [groups, isGrouping]

theorem parentheses_eq_filterMap (s : Text) :
    parentheses s = (groups s).filterMap parenthesis? := by
  rw [groups, List.filterMap_filter]
  refine List.filterMap_congr fun c _ => ?_
  by_cases hleft : c = '('
  · rw [hleft]
    rfl
  by_cases hright : c = ')'
  · rw [hright]
    rfl
  simp [parenthesis?, hleft, hright]

theorem isGrouping_cases {c : Char} (h : isGrouping c) : c = '(' ∨ c = ')' ∨ c = '#' := by
  simpa [isGrouping, or_assoc] using h

theorem not_isGrouping_of_isWord {c : Char} (h : isWord c) : isGrouping c = false := by
  rw [← Bool.not_eq_true]
  intro hgroup
  rcases isGrouping_cases hgroup with rfl | rfl | rfl <;> cases h

theorem not_isGrouping_of_isBlank {c : Char} (h : isBlank c) : isGrouping c = false :=
  Text.blank_induction (P := fun c => isGrouping c = false) (by decide) h

theorem groups_eq_nil (h : ∀ c ∈ s, isGrouping c = false) : groups s = [] :=
  List.filter_eq_nil_iff.2 fun c hc => by simp [h c hc]

/-! ## The passes -/

/-- Characters of a class without characters of words and powers stay where they are. -/
theorem filter_withOwnNames {q : Char → Bool} (hword : ∀ c, isWord c = true → q c = false)
    (hpower : ∀ c ∈ ['^', '*'], q c = false) (s : Text) :
    (withOwnNames s).filter q = s.filter q := by
  have hcarets : ∀ s : Text, (s.flatMap expandCaret).filter q = s.filter q := by
    intro s
    induction s with
    | nil => rfl
    | cons c s ih =>
      have hc : (expandCaret c).filter q = [c].filter q := by
        rw [expandCaret]
        split
        · rename_i hcaret
          rw [beq_iff_eq.1 hcaret]
          simp [hpower]
        · rfl
      rw [List.flatMap_cons, ← List.singleton_append, List.filter_append, ih, hc,
        List.filter_append]
  rw [withOwnNames_eq, hcarets, filter_ownNamesFrom fun k c hc => hword c (k.isWord_of_mem c hc)]

theorem groups_withOwnNames (s : Text) : groups (withOwnNames s) = groups s :=
  filter_withOwnNames (fun _ => not_isGrouping_of_isWord) (by decide) s

theorem groups_promote (s : Text) : groups (promote s) = groups s := by
  refine Text.filter_replaceFrom (fun b s n h => ?_) none s
  obtain ⟨w, v, rfl, rfl, -, hw, -⟩ := length?_promotableToken.1 h
  rw [List.take_left]
  have hword : ∀ c ∈ w, isGrouping c = false := fun c hc =>
    not_isGrouping_of_isWord (hw.isWord_of_mem c hc)
  refine ⟨hword, fun c hc => ?_⟩
  rw [promoteToken_eq] at hc
  split at hc
  · exact hword c hc
  · rcases List.mem_cons.1 hc with rfl | hc
    · rfl
    rcases List.mem_cons.1 hc with rfl | hc
    · rfl
    · exact hword c (List.mem_of_mem_filter hc)

theorem groups_dropWhile {p : Char → Bool} (hp : ∀ c, p c = true → isGrouping c = false)
    (s : Text) : groups (s.dropWhile p) = groups s := by
  conv_rhs => rw [← List.takeWhile_append_dropWhile (p := p) (l := s)]
  rw [groups, groups, List.filter_append]
  have hnil := groups_eq_nil fun c hc => hp c (List.mem_takeWhile_imp (p := p) (l := s) hc)
  rw [groups] at hnil
  rw [hnil, List.nil_append]

theorem groups_trim (s : Text) : groups (Text.trim s) = groups s := by
  have hreverse : ∀ s : Text, groups s.reverse = (groups s).reverse := fun s => by
    rw [groups, groups, List.filter_reverse]
  have hblank : ∀ c, isBlank c = true → isGrouping c = false := fun c => not_isGrouping_of_isBlank
  rw [Text.trim, Text.trimWhile, hreverse, groups_dropWhile hblank, hreverse,
    groups_dropWhile hblank, List.reverse_reverse]

theorem groups_unifiedBreaks (s : Text) : groups (unifiedBreaks s) = groups s := by
  rw [groups, groups]
  fun_induction unifiedBreaks s with
  | case1 => rfl
  | case2 s ih => exact ih
  | case3 s _ ih => exact ih
  | case4 c s _ _ ih => rw [List.filter_cons, List.filter_cons, ih]

/-- Where there are no comments, empty lines are made of gaps and line breaks. -/
theorem SkipsTo.groups_eq (h : SkipsTo s r) (hhash : '#' ∉ s) : groups r = groups s := by
  have hgap : ∀ c, isGap c = true → isGrouping c = false := by
    intro c hc
    rcases isGap_iff.1 hc with rfl | rfl | rfl <;> rfl
  have hmem : ∀ {s : Text}, ∀ c ∈ s.dropWhile isGap, c ∈ s := fun c hc =>
    (List.dropWhile_suffix isGap).mem hc
  induction h with
  | @nil s hs => rw [← groups_dropWhile hgap s, hs]
  | @lineBreak s u r hs _ ih =>
    rw [ih fun hu => hhash (hmem _ (by simp [hs, hu])), ← groups_dropWhile hgap s, hs]
    rfl
  | comment hs => exact absurd (hmem '#' (by simp [hs])) hhash
  | @lexeme c s u hs => rw [← groups_dropWhile hgap s, hs]

/-! ## Texts with a value -/

/-- The parentheses of a text without comments that has a value are balanced. -/
theorem balanced_of_attempt (h : attempt s = .ok x) (hhash : '#' ∉ s) :
    Balanced (parentheses s) := by
  obtain ⟨e, p, rest, hls, hp, hrest, -⟩ := exists_spells h
  obtain ⟨-, r, hr, hlexes⟩ := lexemes?_eq_some.1 hls
  have hlines : groups (unifiedBreaks (Text.trim (withOwnNames s))) = groups s := by
    rw [groups_unifiedBreaks, groups_trim, groups_withOwnNames]
  have hgroups : groups r = groups s := by
    rw [(skipsTo_of_skipEmptyLines (Nat.lt_succ_self _) hr).groups_eq, hlines]
    rwa [← hash_mem_groups, hlines, hash_mem_groups]
  rw [parentheses_eq_filterMap, ← hgroups, ← parentheses_eq_filterMap, ← hlexes.balanced_iff]
  · exact hp.balanced.append (balanced_of_newlines hrest)
  · rwa [← hash_mem_groups, hgroups, hash_mem_groups]

end Abacus.Expr
