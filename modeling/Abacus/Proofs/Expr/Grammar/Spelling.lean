import Abacus.Expr.Lexeme
import Abacus.Proofs.Expr.Evaluation
import Mathlib.Data.List.Chain

/-!
# The grammar of calculations

`Spells` says which lexemes spell a tree that the calculator can evaluate: numbers, names of
built-ins, parentheses, calls, powers, signs, products and sums, each at its tier.  The name of a
function may stand in parentheses of its own before it is called, and a comma may stand behind the
last argument.

Lexemes that spell a tree are of a few kinds only, their parentheses are balanced, and no word
stands directly behind a number.
-/

namespace Abacus.Expr

/-! ## Spellings -/

/-- How tightly a tree is put together, the loosest way first. -/
inductive Tier where
  | sum
  | term
  | factor
  | power
  | primary

/-- The next tighter tier. -/
def Tier.next : Tier → Tier
  | .sum => .term
  | .term => .factor
  | .factor => .power
  | .power => .primary
  | .primary => .primary

/-- The signs of operands. -/
inductive Sign : Mark → UnaryOp → Prop
  | plus : Sign .plus .keep
  | minus : Sign .minus .negate

/-- The operators that a tier chains from the left. -/
inductive Chained : Tier → Mark → BinaryOp → Prop
  | plus : Chained .sum .plus .add
  | minus : Chained .sum .minus .sub
  | star : Chained .term .star .mul
  | slash : Chained .term .slash .div

/-- The lexemes behind an argument, up to the closing parenthesis. -/
def furtherLexemes (trailing : Bool) : List (List Lexeme) → List Lexeme
  | [] => if trailing then [.mark .comma, .mark .rightParen] else [.mark .rightParen]
  | p :: ps => .mark .comma :: (p ++ furtherLexemes trailing ps)

/-- The lexemes of arguments, up to the closing parenthesis. -/
def argumentLexemes (trailing : Bool) : List (List Lexeme) → List Lexeme
  | [] => [.mark .rightParen]
  | p :: ps => p ++ furtherLexemes trailing ps

/-- The lexemes spell the tree at a tier. -/
inductive Spells : Tier → Expr → List Lexeme → Prop
  | constant (c : Constant) : Spells .primary (.constant c) [.number c]
  | name {id : Text} : isAllowedName id → Spells .primary (.name id) [.name id]
  | enclosed {e : Expr} {p : List Lexeme} :
      Spells .sum e p → Spells .primary e (.mark .leftParen :: (p ++ [.mark .rightParen]))
  | call {id : Text} {p : List Lexeme} {args : List (Expr × List Lexeme)} (trailing : Bool) :
      Spells .primary (.name id) p → (∀ a ∈ args, Spells .sum a.1 a.2) →
        Spells .primary (.call (.name id) (args.map (·.1)) [])
          (p ++ .mark .leftParen :: argumentLexemes trailing (args.map (·.2)))
  | power {a b : Expr} {p q : List Lexeme} :
      Spells .primary a p → Spells .factor b q →
        Spells .power (.binary .pow a b) (p ++ .mark .doubleStar :: q)
  | signed {m : Mark} {op : UnaryOp} {e : Expr} {p : List Lexeme} :
      Sign m op → Spells .factor e p → Spells .factor (.unary op e) (.mark m :: p)
  | chained {t : Tier} {m : Mark} {op : BinaryOp} {a b : Expr} {p q : List Lexeme} :
      Chained t m op → Spells t a p → Spells t.next b q →
        Spells t (.binary op a b) (p ++ .mark m :: q)
  | loosen {t : Tier} {e : Expr} {p : List Lexeme} : Spells t.next e p → Spells t e p

variable {t : Tier} {e : Expr} {p : List Lexeme}

namespace Spells

theorem to_factor (h : Spells .primary e p) : Spells .factor e p :=
  loosen (t := .factor) (loosen (t := .power) h)

theorem to_sum (h : Spells .primary e p) : Spells .sum e p :=
  loosen (t := .sum) (loosen (t := .term) h.to_factor)

/-- A single number spells a constant only. -/
theorem eq_constant {c : Constant} (h : Spells t e [.number c]) : e = .constant c := by
  generalize hp : [Lexeme.number c] = p at h
  induction h with
  | constant d =>
    cases hp
    rfl
  | loosen _ ih => exact ih hp
  | name _ => cases hp
  | enclosed _ _ => cases hp
  | signed _ _ _ => cases hp
  | @call _ p _ _ _ _ _ _ => cases p <;> simp at hp
  | @power _ _ p _ _ _ _ _ => cases p <;> simp at hp
  | @chained _ _ _ _ _ p _ _ _ _ _ _ => cases p <;> simp at hp

end Spells

/-! ## Lexemes of spellings -/

/-- The marks of spellings. -/
def Mark.isPlain : Mark → Bool
  | .plus | .minus | .star | .slash | .doubleStar | .leftParen | .rightParen | .comma => true
  | _ => false

/-- The lexemes of spellings. -/
def Lexeme.isPlain : Lexeme → Bool
  | .name id => isAllowedName id
  | .number _ => true
  | .mark m => m.isPlain
  | _ => false

/-- The lexemes that a spelling can start with. -/
def Lexeme.starts : Lexeme → Bool
  | .name _ => true
  | .number _ => true
  | .mark m => m == .plus || m == .minus || m == .leftParen
  | _ => false

theorem Sign.starts {m : Mark} {op : UnaryOp} (h : Sign m op) : (Lexeme.mark m).starts := by
  cases h <;> rfl

theorem Sign.isPlain {m : Mark} {op : UnaryOp} (h : Sign m op) : m.isPlain := by
  cases h <;> rfl

theorem Chained.isPlain {m : Mark} {op : BinaryOp} (h : Chained t m op) : m.isPlain := by
  cases h <;> rfl

theorem Spells.exists_cons (h : Spells t e p) : ∃ l q, p = l :: q ∧ l.starts := by
  induction h with
  | constant c => exact ⟨_, _, rfl, rfl⟩
  | name _ => exact ⟨_, _, rfl, rfl⟩
  | enclosed _ _ => exact ⟨_, _, rfl, rfl⟩
  | signed hm _ _ => exact ⟨_, _, rfl, hm.starts⟩
  | loosen _ ih => exact ih
  | call trailing _ _ ih _ =>
    obtain ⟨l, q, rfl, hl⟩ := ih
    exact ⟨l, _, List.cons_append, hl⟩
  | power _ _ ih _ =>
    obtain ⟨l, q, rfl, hl⟩ := ih
    exact ⟨l, _, List.cons_append, hl⟩
  | chained _ _ _ ih _ =>
    obtain ⟨l, q, rfl, hl⟩ := ih
    exact ⟨l, _, List.cons_append, hl⟩

theorem Spells.length_pos (h : Spells t e p) : 0 < p.length := by
  obtain ⟨l, q, rfl, -⟩ := h.exists_cons
  exact Nat.succ_pos _

/-! ### Kinds -/

theorem mem_furtherLexemes {trailing : Bool} {ps : List (List Lexeme)} {l : Lexeme}
    (h : l ∈ furtherLexemes trailing ps) :
    l = .mark .comma ∨ l = .mark .rightParen ∨ ∃ p ∈ ps, l ∈ p := by
  induction ps with
  | nil => cases trailing <;> simp_all [furtherLexemes]
  | cons p ps ih =>
    rw [furtherLexemes, List.mem_cons, List.mem_append] at h
    rcases h with rfl | hl | hl
    · exact .inl rfl
    · exact .inr (.inr ⟨p, List.mem_cons_self, hl⟩)
    · refine (ih hl).imp_right (.imp_right ?_)
      rintro ⟨q, hq, hlq⟩
      exact ⟨q, List.mem_cons_of_mem p hq, hlq⟩

theorem mem_argumentLexemes {trailing : Bool} {ps : List (List Lexeme)} {l : Lexeme}
    (h : l ∈ argumentLexemes trailing ps) :
    l = .mark .comma ∨ l = .mark .rightParen ∨ ∃ p ∈ ps, l ∈ p := by
  cases ps with
  | nil => exact .inr (.inl (List.mem_singleton.1 h))
  | cons p ps =>
    rw [argumentLexemes, List.mem_append] at h
    rcases h with hl | hl
    · exact .inr (.inr ⟨p, List.mem_cons_self, hl⟩)
    · refine (mem_furtherLexemes hl).imp_right (.imp_right ?_)
      rintro ⟨q, hq, hlq⟩
      exact ⟨q, List.mem_cons_of_mem p hq, hlq⟩

theorem Spells.isPlain (h : Spells t e p) : ∀ l ∈ p, l.isPlain := by
  have mark : ∀ {m : Mark} {q : List Lexeme}, m.isPlain → (∀ l ∈ q, l.isPlain) →
      ∀ l ∈ .mark m :: q, l.isPlain := fun hm hq => List.forall_mem_cons.2 ⟨hm, hq⟩
  induction h with
  | constant c => simp [Lexeme.isPlain]
  | name hid => simpa [Lexeme.isPlain] using hid
  | enclosed _ ih =>
    exact mark rfl (List.forall_mem_append.2 ⟨ih, mark rfl nofun⟩)
  | @call id p args trailing _ _ ih ihargs =>
    refine List.forall_mem_append.2 ⟨ih, mark rfl fun l hl => ?_⟩
    rcases mem_argumentLexemes hl with rfl | rfl | ⟨q, hq, hlq⟩
    · rfl
    · rfl
    · obtain ⟨a, ha, rfl⟩ := List.mem_map.1 hq
      exact ihargs a ha l hlq
  | power _ _ iha ihb => exact List.forall_mem_append.2 ⟨iha, mark rfl ihb⟩
  | signed hm _ ih => exact mark hm.isPlain ih
  | chained hm _ _ iha ihb => exact List.forall_mem_append.2 ⟨iha, mark hm.isPlain ihb⟩
  | loosen _ ih => exact ih

/-! ### Neighbours -/

/-- Whether a lexeme is read off letters or figures. -/
def Lexeme.isWord : Lexeme → Bool
  | .name _ => true
  | .keyword _ => true
  | .number _ => true
  | _ => false

/-- No word stands directly behind a number. -/
def Lexeme.Parted : Lexeme → Lexeme → Prop
  | .number _, l => l.isWord = false
  | _, _ => True

/-- Marks part what stands on either side. -/
theorem isChain_append_mark {m : Mark} {q : List Lexeme} (hp : p.IsChain Lexeme.Parted)
    (hq : q.IsChain Lexeme.Parted) : (p ++ .mark m :: q).IsChain Lexeme.Parted := by
  refine List.isChain_append.2 ⟨hp, List.isChain_cons.2 ⟨fun _ _ => trivial, hq⟩, ?_⟩
  intro l _ l' hl'
  cases hl'
  cases l <;> trivial

theorem isChain_furtherLexemes (trailing : Bool) {ps : List (List Lexeme)}
    (h : ∀ p ∈ ps, p.IsChain Lexeme.Parted) :
    ∃ m q, furtherLexemes trailing ps = .mark m :: q ∧ q.IsChain Lexeme.Parted := by
  induction ps with
  | nil =>
    cases trailing with
    | true => exact ⟨.comma, _, rfl, List.isChain_singleton _⟩
    | false => exact ⟨.rightParen, _, rfl, List.isChain_nil⟩
  | cons p ps ih =>
    obtain ⟨m, q, heq, hq⟩ := ih fun r hr => h r (List.mem_cons_of_mem p hr)
    refine ⟨.comma, _, rfl, ?_⟩
    rw [heq]
    exact isChain_append_mark (h p List.mem_cons_self) hq

theorem isChain_argumentLexemes {trailing : Bool} {ps : List (List Lexeme)}
    (h : ∀ p ∈ ps, p.IsChain Lexeme.Parted) :
    (argumentLexemes trailing ps).IsChain Lexeme.Parted := by
  cases ps with
  | nil => exact List.isChain_singleton _
  | cons p ps =>
    obtain ⟨m, q, heq, hq⟩ := isChain_furtherLexemes trailing fun r hr =>
      h r (List.mem_cons_of_mem p hr)
    rw [argumentLexemes, heq]
    exact isChain_append_mark (h p List.mem_cons_self) hq

theorem Spells.isChain (h : Spells t e p) : p.IsChain Lexeme.Parted := by
  induction h with
  | constant c => exact List.isChain_singleton _
  | name _ => exact List.isChain_singleton _
  | enclosed _ ih =>
    exact isChain_append_mark List.isChain_nil (isChain_append_mark ih List.isChain_nil)
  | @call id p args trailing _ _ ih ihargs =>
    refine isChain_append_mark ih (isChain_argumentLexemes ?_)
    rintro q hq
    obtain ⟨a, ha, rfl⟩ := List.mem_map.1 hq
    exact ihargs a ha
  | power _ _ iha ihb => exact isChain_append_mark iha ihb
  | signed _ _ ih => exact isChain_append_mark List.isChain_nil ih
  | chained _ _ _ iha ihb => exact isChain_append_mark iha ihb
  | loosen _ ih => exact ih

/-! ### Depth -/

/-- The depth of parentheses behind lexemes, if none is closed that is not open. -/
def depthBehind? : Nat → List Lexeme → Option Nat
  | d, [] => some d
  | d, .mark .leftParen :: ls => depthBehind? (d + 1) ls
  | 0, .mark .rightParen :: _ => none
  | d + 1, .mark .rightParen :: ls => depthBehind? d ls
  | d, _ :: ls => depthBehind? d ls

theorem depthBehind?_append (d : Nat) (p q : List Lexeme) :
    depthBehind? d (p ++ q) = (depthBehind? d p).bind fun d' => depthBehind? d' q := by
  fun_induction depthBehind? d p with
  | case1 d => rfl
  | case2 d p ih => exact ih
  | case3 p => rfl
  | case4 d p ih => exact ih
  | case5 d l p hleft hzero hsucc ih =>
    rw [List.cons_append, depthBehind?]
    · exact ih
    · exact hleft
    · exact hzero
    · exact hsucc

/-- Lexemes keep the depth. -/
def Balanced (p : List Lexeme) : Prop := ∀ d, depthBehind? d p = some d

theorem Balanced.append {q : List Lexeme} (hp : Balanced p) (hq : Balanced q) :
    Balanced (p ++ q) := by
  intro d
  rw [depthBehind?_append, hp d]
  exact hq d

theorem Balanced.cons_mark {m : Mark} (hm : m ≠ .leftParen ∧ m ≠ .rightParen) (hp : Balanced p) :
    Balanced (.mark m :: p) := by
  intro d
  rw [depthBehind?]
  · exact hp d
  · rintro ⟨⟩
    exact hm.1 rfl
  · rintro - ⟨⟩
    exact hm.2 rfl
  · rintro - - ⟨⟩
    exact hm.2 rfl

theorem depthBehind?_furtherLexemes {trailing : Bool} {ps : List (List Lexeme)}
    (h : ∀ p ∈ ps, Balanced p) (d : Nat) :
    depthBehind? (d + 1) (furtherLexemes trailing ps) = some d := by
  induction ps with
  | nil => cases trailing <;> rfl
  | cons p ps ih =>
    rw [furtherLexemes]
    change depthBehind? (d + 1) (p ++ furtherLexemes trailing ps) = some d
    rw [depthBehind?_append, h p List.mem_cons_self]
    exact ih fun q hq => h q (List.mem_cons_of_mem p hq)

theorem depthBehind?_argumentLexemes {trailing : Bool} {ps : List (List Lexeme)}
    (h : ∀ p ∈ ps, Balanced p) (d : Nat) :
    depthBehind? (d + 1) (argumentLexemes trailing ps) = some d := by
  cases ps with
  | nil => rfl
  | cons p ps =>
    rw [argumentLexemes, depthBehind?_append, h p List.mem_cons_self]
    exact depthBehind?_furtherLexemes (fun q hq => h q (List.mem_cons_of_mem p hq)) d

theorem Spells.balanced (h : Spells t e p) : Balanced p := by
  induction h with
  | constant c => exact fun _ => rfl
  | name _ => exact fun _ => rfl
  | @enclosed e p _ ih =>
    intro d
    change depthBehind? (d + 1) (p ++ [.mark .rightParen]) = some d
    rw [depthBehind?_append, ih]
    rfl
  | @call id p args trailing _ _ ih ihargs =>
    refine ih.append fun d => depthBehind?_argumentLexemes ?_ d
    rintro q hq
    obtain ⟨a, ha, rfl⟩ := List.mem_map.1 hq
    exact ihargs a ha
  | power _ _ iha ihb => exact iha.append (ihb.cons_mark (by decide))
  | signed hm _ ih =>
    apply ih.cons_mark
    cases hm <;> decide
  | chained hm _ _ iha ihb =>
    refine iha.append (ihb.cons_mark ?_)
    cases hm <;> decide
  | loosen _ ih => exact ih

end Abacus.Expr
