import Abacus.Proofs.Expr.Formula.Lexing
import Abacus.Proofs.Expr.Grammar.Completeness

/-!
# Formulas as trees

The lexemes of a formula spell the tree of the formula.  The rank of a formula is the tier at which
it is spelled, and parentheses bring it to any tier.
-/

namespace Abacus.Expr

/-- The lexemes of symbols. -/
def lexemes (ss : List Symbol) : List Lexeme := ss.map Symbol.lexeme

@[simp] theorem lexemes_cons (s : Symbol) (ss : List Symbol) :
    lexemes (s :: ss) = s.lexeme :: lexemes ss := rfl

@[simp] theorem lexemes_append (ss ts : List Symbol) :
    lexemes (ss ++ ts) = lexemes ss ++ lexemes ts := List.map_append

/-- The tier of a rank. -/
def Tier.ofRank : Nat → Tier
  | 0 => .sum
  | 1 => .term
  | 2 => .factor
  | 3 => .power
  | _ => .primary

variable {e : Expr}

/-- What is spelled at a rank is spelled at all looser ones. -/
theorem Spells.of_le {p : List Lexeme} {k m : Nat} (hkm : k ≤ m)
    (h : Spells (.ofRank m) e p) : Spells (.ofRank k) e p := by
  induction hkm with
  | refl => exact h
  | @step m _ ih =>
    apply ih
    match m, h with
    | 0, h => exact .loosen (t := .sum) h
    | 1, h => exact .loosen (t := .term) h
    | 2, h => exact .loosen (t := .factor) h
    | 3, h => exact .loosen (t := .power) h
    | _ + 4, h => exact h

/-- Symbols in parentheses, where these are needed, are spelled at any rank. -/
theorem Spells.enclosed_symbols {ss : List Symbol} {k m : Nat} (hm : m ≤ 4)
    (h : Spells (.ofRank k) e (lexemes ss)) :
    Spells (.ofRank m) e (lexemes (Expr.enclosed (k < m) ss)) := by
  by_cases hkm : k < m
  · have hatom : Spells (.ofRank 4) e (lexemes (Expr.enclosed true ss)) := by
      rw [Expr.enclosed, if_pos rfl, lexemes_cons, lexemes_append]
      exact .enclosed (h.of_le (Nat.zero_le k))
    rw [decide_eq_true hkm]
    exact hatom.of_le hm
  · rw [decide_eq_false hkm]
    exact h.of_le (Nat.le_of_not_lt hkm)

theorem KnownName.isAllowedName_own (k : KnownName) : isAllowedName k.own.text := by
  rw [isAllowedName, k.own.known]
  rfl

namespace Formula

theorem lexemes_furtherSymbols (fs : List Formula) :
    lexemes (furtherSymbols fs) = furtherLexemes false (fs.map fun f => lexemes f.symbols) := by
  induction fs with
  | nil => rfl
  | cons f fs ih =>
    rw [furtherSymbols, lexemes_cons, lexemes_append, ih]
    rfl

theorem lexemes_argumentSymbols (fs : List Formula) :
    lexemes (argumentSymbols fs) = argumentLexemes false (fs.map fun f => lexemes f.symbols) := by
  cases fs with
  | nil => rfl
  | cons f fs =>
    rw [argumentSymbols, lexemes_append, lexemes_furtherSymbols]
    rfl

theorem trees_eq_map (fs : List Formula) : trees fs = fs.map tree := by
  induction fs with
  | nil => rfl
  | cons f fs ih => rw [trees, ih, List.map_cons]

theorem leftRank_le (op : Operator) : op.leftRank ≤ 4 := by cases op <;> decide

theorem rightRank_le (op : Operator) : op.rightRank ≤ 4 := by cases op <;> decide

/-- The lexemes of a formula spell its tree. -/
theorem spells (f : Formula) : Spells (.ofRank f.rank) f.tree (lexemes f.symbols) := by
  induction f using induction with
  | number n => exact .constant (.integer n)
  | constant c => exact .name c.name.isAllowedName_own
  | signed negative f ih =>
    have hf : Spells .factor f.tree _ := ih.enclosed_symbols (m := 2) (by decide)
    rw [symbols, tree]
    cases negative with
    | true => exact .signed .minus hf
    | false => exact .signed .plus hf
  | binary op l r ihl ihr =>
    have hl := ihl.enclosed_symbols (leftRank_le op)
    have hr := ihr.enclosed_symbols (rightRank_le op)
    rw [symbols, tree, lexemes_append, lexemes_cons]
    cases op with
    | add => exact .chained .plus hl hr
    | sub => exact .chained .minus hl hr
    | mul => exact .chained .star hl hr
    | div => exact .chained .slash hl hr
    | pow => exact .power hl hr
  | call f args ih =>
    have hcall := @Spells.call _ _ (args.map fun a => (a.tree, lexemes a.symbols)) false
      (.name f.name.isAllowedName_own) fun a ha => by
        obtain ⟨b, hb, rfl⟩ := List.mem_map.1 ha
        exact (ih b hb).of_le (Nat.zero_le _)
    rw [List.map_map, List.map_map] at hcall
    rw [symbols, tree, lexemes_cons, lexemes_cons, lexemes_argumentSymbols, trees_eq_map]
    exact hcall

/-- The lexemes of a formula make up the tree of the formula. -/
theorem ofLexemes?_symbols (f : Formula) : ofLexemes? (lexemes f.symbols) = some f.tree := by
  have h : ofLexemes? (lexemes f.symbols ++ []) = some f.tree :=
    (f.spells.of_le (Nat.zero_le f.rank)).ofLexemes? nofun
  rwa [List.append_nil] at h

end Formula

end Abacus.Expr
