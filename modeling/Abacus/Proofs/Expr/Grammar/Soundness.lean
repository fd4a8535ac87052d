import Abacus.Expr.Grammar
import Abacus.Proofs.Expr.Grammar.Spelling

/-!
# What is read is spelled

Where a reader takes lexemes as a tree that a calculation can hold, the lexemes spell the tree.  All
other forms are passed over: a reader that builds one of them cannot have read a part of a
calculation.  What each reader can have done is said first, the induction on the fuel cites only
that.
-/

namespace Abacus.Expr

/-! ## Parts of calculations -/

/-- A tree that can be a part of a calculation: a calculation itself, or the name of a built-in in
the place of a function. -/
inductive Sayable : Expr → Prop
  | calculation {e : Expr} {c : Calculation} : calculation? e = some c → Sayable e
  | name {id : Text} : isAllowedName id → Sayable (.name id)

namespace Sayable

theorem not_other {form : Form} {parts : List Expr} (h : Sayable (.other form parts)) : False := by
  cases h with
  | calculation hc => cases hc

theorem of_unary {op : UnaryOp} {e : Expr} (h : Sayable (.unary op e)) :
    (op = .keep ∨ op = .negate) ∧ Sayable e := by
  cases h with
  | calculation hc =>
    obtain ⟨negative, d, hop, hd, -⟩ := calculation?_unary hc
    refine ⟨?_, .calculation hd⟩
    cases op with
    | keep => exact .inl rfl
    | negate => exact .inr rfl
    | invert => cases hop
    | not => cases hop

theorem of_binary {op : BinaryOp} {l r : Expr} (h : Sayable (.binary op l r)) :
    (∃ o : Operator, op = o.toBinaryOp) ∧ Sayable l ∧ Sayable r := by
  cases h with
  | calculation hc =>
    obtain ⟨o, a, b, rfl, ha, hb, -⟩ := calculation?_binary hc
    exact ⟨⟨o, rfl⟩, .calculation ha, .calculation hb⟩

theorem of_call {func : Expr} {args : List Expr} {keywords : List (Option Text × Expr)}
    (h : Sayable (.call func args keywords)) :
    (∃ id, func = .name id ∧ isAllowedName id) ∧ keywords = [] ∧ ∀ a ∈ args, Sayable a := by
  cases h with
  | calculation hc =>
    obtain ⟨id, f, cs, rfl, rfl, hid, hcs, -⟩ := calculation?_call hc
    refine ⟨⟨id, rfl, by rw [isAllowedName, hid]; rfl⟩, rfl, fun a ha => ?_⟩
    obtain ⟨c, hc⟩ := mem_of_calculations? hcs a ha
    exact .calculation hc

theorem of_name {id : Text} (h : Sayable (.name id)) : isAllowedName id := by
  cases h with
  | calculation hc =>
    obtain ⟨k, hk, -⟩ := calculation?_name hc
    rw [isAllowedName, hk]
    rfl
  | name h => exact h

end Sayable

/-! ## What the readers do -/

variable {n : Nat} {e e' : Expr} {s rest : List Lexeme}

theorem operands_eq_nil {k : Keyword} {level : Level}
    (h : operands n k level s = some ([], rest)) : rest = s := by
  rw [operands.eq_def] at h
  split at h
  · cases h
  · split at h
    · simp [Option.bind_eq_some_iff] at h
    · cases h
      rfl
  · cases h
    rfl

theorem compared_eq_nil (h : compared n s = some ([], rest)) : rest = s := by
  rw [compared.eq_def] at h
  split at h
  · cases h
  · split at h
    · simp [Option.bind_eq_some_iff] at h
    · cases h
      rfl

theorem expression_sayable (h : expression (n + 1) s = some (e, rest)) (he : Sayable e) :
    operand n .disjunction s = some (e, rest) := by
  rw [expression.eq_def] at h
  split at h
  · cases h
  · rename_i heq
    cases heq
    simp only [Option.bind_eq_bind, Option.bind_eq_some_iff, Option.some.injEq] at h
    obtain ⟨_, -, _, -, _, -, h⟩ := h
    cases h
    exact absurd he Sayable.not_other
  · rename_i heq _
    cases heq
    simp only [Option.bind_eq_bind, Option.bind_eq_some_iff, Prod.exists] at h
    obtain ⟨a, b, hread, h⟩ := h
    split at h
    · simp only [Option.bind_eq_some_iff, Option.some.injEq] at h
      obtain ⟨_, -, _, -, _, -, h⟩ := h
      cases h
      exact absurd he Sayable.not_other
    · cases h
      exact hread

theorem named_sayable (h : named (n + 1) s = some (e, rest)) (he : Sayable e) :
    expression n s = some (e, rest) := by
  rw [named.eq_def] at h
  split at h
  · cases h
  · rename_i heq
    cases heq
    simp only [Option.bind_eq_bind, Option.bind_eq_some_iff, Option.some.injEq] at h
    obtain ⟨_, -, h⟩ := h
    cases h
    exact absurd he Sayable.not_other
  · rename_i heq _
    cases heq
    exact h

theorem item_sayable (h : item (n + 1) s = some (e, rest)) (he : Sayable e) :
    named n s = some (e, rest) := by
  rw [item.eq_def] at h
  split at h
  · cases h
  · rename_i heq
    cases heq
    simp only [Option.bind_eq_bind, Option.bind_eq_some_iff, Option.some.injEq] at h
    obtain ⟨_, -, h⟩ := h
    cases h
    exact absurd he Sayable.not_other
  · rename_i heq _
    cases heq
    exact h

theorem awaited_sayable (h : awaited (n + 1) s = some (e, rest)) (he : Sayable e) :
    primary n s = some (e, rest) := by
  rw [awaited.eq_def] at h
  split at h
  · cases h
  · rename_i heq
    cases heq
    simp only [Option.bind_eq_bind, Option.bind_eq_some_iff, Option.some.injEq] at h
    obtain ⟨_, -, h⟩ := h
    cases h
    exact absurd he Sayable.not_other
  · rename_i heq _
    cases heq
    exact h

/-- An operand that others follow is part of something that a calculation cannot hold. -/
theorem eq_some_of_alone {form : Form} {read : Reader Expr} {more : Reader (List Expr)}
    (hmore : ∀ {t u}, more t = some ([], u) → u = t)
    (h : ((read s).bind fun x => (more x.2).bind fun y =>
      some (if y.1.isEmpty then x.1 else .other form (x.1 :: y.1), y.2)) = some (e, rest))
    (he : Sayable e) : read s = some (e, rest) := by
  simp only [Option.bind_eq_some_iff, Option.some.injEq, Prod.mk.injEq, Prod.exists] at h
  obtain ⟨a, t, hread, es, u, hes, heq, rfl⟩ := h
  cases es with
  | nil =>
    obtain rfl : a = e := heq
    rw [hread, hmore hes]
  | cons b es =>
    cases heq
    exact absurd he Sayable.not_other

theorem inversion_sayable (h : operand (n + 1) .inversion s = some (e, rest)) (he : Sayable e) :
    operand n .comparison s = some (e, rest) := by
  cases s with
  | nil => exact h
  | cons l s =>
    cases l with
    | keyword k =>
      cases k with
      | not =>
        obtain ⟨x, -, hx⟩ := Option.bind_eq_some_iff.1 h
        cases hx
        obtain ⟨hop, -⟩ := he.of_unary
        rcases hop with hop | hop <;> cases hop
      | _ => exact h
    | _ => exact h

/-- The levels of words and comparisons build nothing that a calculation can hold. -/
theorem operand_sayable {level : Level}
    (hlevel : level ∈ [.disjunction, .conjunction, .inversion, .comparison])
    (h : operand (n + 1) level s = some (e, rest)) (he : Sayable e) :
    operand n level.next s = some (e, rest) := by
  simp only [List.mem_cons, List.not_mem_nil, or_false] at hlevel
  rcases hlevel with rfl | rfl | rfl | rfl
  · exact eq_some_of_alone operands_eq_nil h he
  · exact eq_some_of_alone operands_eq_nil h he
  · exact inversion_sayable h he
  · exact eq_some_of_alone compared_eq_nil h he

/-- The other levels below signs chain what the next level reads. -/
theorem operand_chained {level : Level}
    (hlevel : level ∈ [.bitOr, .bitXor, .bitAnd, .shift, .sum, .term])
    (h : operand (n + 1) level s = some (e, rest)) :
    ∃ a t, operand n level.next s = some (a, t) ∧ chain n level a t = some (e, rest) := by
  have hstep : operand (n + 1) level s =
      (operand n level.next s).bind fun p => chain n level p.1 p.2 := by
    simp only [List.mem_cons, List.not_mem_nil, or_false] at hlevel
    rcases hlevel with rfl | rfl | rfl | rfl | rfl | rfl <;> rfl
  rw [hstep, Option.bind_eq_some_iff] at h
  obtain ⟨⟨a, t⟩, hread, hchain⟩ := h
  exact ⟨a, t, hread, hchain⟩

theorem operand_factor (h : operand (n + 1) .factor s = some (e, rest)) (he : Sayable e) :
    (∃ m op a t, Sign m op ∧ s = .mark m :: t ∧ e = .unary op a ∧ Sayable a ∧
      operand n .factor t = some (a, rest)) ∨ operand n .power s = some (e, rest) := by
  rw [operand.eq_def] at h
  split at h
  all_goals try contradiction
  · rename_i m t heq _
    cases heq
    split at h
    · rename_i op hop
      simp only [Option.bind_eq_bind, Option.bind_eq_some_iff, Option.some.injEq, Prod.mk.injEq,
        Prod.exists] at h
      obtain ⟨a, u, hread, rfl, rfl⟩ := h
      obtain ⟨hsign, ha⟩ := he.of_unary
      refine .inl ⟨m, op, a, t, ?_, rfl, rfl, ha, hread⟩
      rcases hsign with rfl | rfl
      · cases m <;> cases hop
        exact .plus
      · cases m <;> cases hop
        exact .minus
    · exact .inr h
  · rename_i heq _ _
    cases heq
    exact .inr h

theorem operand_power (h : operand (n + 1) .power s = some (e, rest)) (he : Sayable e) :
    (∃ a b t, awaited n s = some (a, .mark .doubleStar :: t) ∧
      operand n .factor t = some (b, rest) ∧ e = .binary .pow a b ∧ Sayable a ∧ Sayable b) ∨
    awaited n s = some (e, rest) := by
  rw [operand] at h
  simp only [Option.bind_eq_bind, Option.bind_eq_some_iff, Prod.exists] at h
  obtain ⟨a, t, hread, h⟩ := h
  split at h
  · simp only [Option.bind_eq_some_iff, Option.some.injEq, Prod.mk.injEq, Prod.exists] at h
    obtain ⟨b, u, hexponent, rfl, rfl⟩ := h
    obtain ⟨-, ha, hb⟩ := he.of_binary
    exact .inl ⟨a, b, _, hread, hexponent, rfl, ha, hb⟩
  · cases h
    exact .inr hread

/-- A chain ends, or goes on with one more operand. -/
theorem chain_succ {level : Level} (h : chain (n + 1) level e s = some (e', rest)) :
    (e' = e ∧ rest = s) ∨ ∃ m op r t u, s = .mark m :: t ∧ level.operator? m = some op ∧
      operand n level.next t = some (r, u) ∧
      chain n level (.binary op e r) u = some (e', rest) := by
  rw [chain.eq_def] at h
  split at h
  · cases h
  · rename_i heq
    cases heq
    split at h
    · rename_i op hop
      simp only [Option.bind_eq_bind, Option.bind_eq_some_iff, Prod.exists] at h
      obtain ⟨r, u, hread, hmore⟩ := h
      exact .inr ⟨_, op, r, _, u, rfl, hop, hread, hmore⟩
    · cases h
      exact .inl ⟨rfl, rfl⟩
  · cases h
    exact .inl ⟨rfl, rfl⟩

theorem primary_succ (h : primary (n + 1) s = some (e, rest)) :
    ∃ a t, atom n s = some (a, t) ∧ trailers n a t = some (e, rest) := by
  rw [primary] at h
  simp only [Option.bind_eq_bind, Option.bind_eq_some_iff, Prod.exists] at h
  exact h

/-- Behind an atom there is nothing, a call, or something that no calculation has. -/
theorem trailers_succ (h : trailers (n + 1) e s = some (e', rest)) :
    (e' = e ∧ rest = s) ∨
    (∃ args t u, s = .mark .leftParen :: t ∧ arguments n .start t = some (args, u) ∧
      trailers n (.call e args.1 args.2) u = some (e', rest)) ∨
    ∃ form parts t, trailers n (.other form parts) t = some (e', rest) := by
  rw [trailers.eq_def] at h
  split at h
  · cases h
  · rename_i heq
    cases heq
    exact .inr (.inr ⟨_, _, _, h⟩)
  · rename_i heq
    cases heq
    simp only [Option.bind_eq_bind, Option.bind_eq_some_iff, Prod.exists] at h
    obtain ⟨args, keywords, u, hargs, hmore⟩ := h
    exact .inr (.inl ⟨(args, keywords), _, u, rfl, hargs, hmore⟩)
  · rename_i heq
    cases heq
    simp only [Option.bind_eq_bind, Option.bind_eq_some_iff, Prod.exists] at h
    obtain ⟨i, u, -, hmore⟩ := h
    exact .inr (.inr ⟨_, _, _, hmore⟩)
  · cases h
    exact .inl ⟨rfl, rfl⟩

theorem yielded_not_sayable (h : yielded n s = some (e, rest)) : ¬ Sayable e := by
  rw [yielded.eq_def] at h
  split at h
  · cases h
  all_goals
    simp only [Option.bind_eq_bind, Option.bind_eq_some_iff, Option.some.injEq, Prod.mk.injEq] at h
    obtain ⟨_, -, rfl, -⟩ := h
    exact Sayable.not_other

theorem bracketed_not_sayable (h : bracketed n s = some (e, rest)) : ¬ Sayable e := by
  rw [bracketed.eq_def] at h
  split at h
  · cases h
  · cases h
    exact Sayable.not_other
  · simp only [Option.bind_eq_bind, Option.bind_eq_some_iff, Prod.exists] at h
    obtain ⟨a, t, -, h⟩ := h
    split at h
    · simp only [Option.bind_eq_some_iff, Option.some.injEq, Prod.mk.injEq] at h
      obtain ⟨_, -, rfl, -⟩ := h
      exact Sayable.not_other
    · cases h
      exact Sayable.not_other
    · split at h
      · cases h
      · simp only [Option.bind_eq_some_iff, Option.some.injEq, Prod.mk.injEq] at h
        obtain ⟨_, -, _, -, rfl, -⟩ := h
        exact Sayable.not_other

theorem braced_not_sayable (h : braced n s = some (e, rest)) : ¬ Sayable e := by
  rw [braced.eq_def] at h
  split at h
  · cases h
  · cases h
    exact Sayable.not_other
  · simp only [Option.bind_eq_bind, Option.bind_eq_some_iff, Option.some.injEq, Prod.mk.injEq] at h
    obtain ⟨_, -, _, -, rfl, -⟩ := h
    exact Sayable.not_other
  · simp only [Option.bind_eq_bind, Option.bind_eq_some_iff, Prod.exists] at h
    obtain ⟨a, t, -, h⟩ := h
    split at h
    · simp only [Option.bind_eq_some_iff, Option.some.injEq, Prod.mk.injEq] at h
      obtain ⟨_, -, rfl, -⟩ := h
      exact Sayable.not_other
    · cases h
      exact Sayable.not_other
    · split at h
      · cases h
      · simp only [Option.bind_eq_some_iff, Prod.exists] at h
        obtain ⟨v, u, -, h⟩ := h
        split at h
        · simp only [Option.bind_eq_some_iff, Option.some.injEq, Prod.mk.injEq] at h
          obtain ⟨_, -, _, -, rfl, -⟩ := h
          exact Sayable.not_other
        · simp only [Option.bind_eq_some_iff, Option.some.injEq, Prod.mk.injEq] at h
          obtain ⟨_, -, rfl, -⟩ := h
          exact Sayable.not_other
    · split at h
      · cases h
      · simp only [Option.bind_eq_some_iff, Option.some.injEq, Prod.mk.injEq] at h
        obtain ⟨_, -, _, -, rfl, -⟩ := h
        exact Sayable.not_other

/-- The name of a built-in, a number, or parentheses. -/
theorem atom_sayable (h : atom (n + 1) s = some (e, rest)) (he : Sayable e) :
    (∃ id, s = .name id :: rest ∧ e = .name id ∧ isAllowedName id) ∨
    (∃ c, s = .number c :: rest ∧ e = .constant c) ∨
    ∃ t, s = .mark .leftParen :: t ∧ parenthesised n t = some (e, rest) := by
  have numeric : ∀ c, Sayable (.constant c) → (calculation? (.constant c)).isSome := by
    rintro c (⟨hc⟩ | _)
    rw [hc]
    rfl
  rw [atom.eq_def] at h
  split at h
  · cases h
  · cases h
    exact .inl ⟨_, rfl, rfl, he.of_name⟩
  · cases h
    exact .inr (.inl ⟨_, rfl, rfl⟩)
  · cases h
    cases numeric _ he
  · cases h
    cases numeric _ he
  · cases h
    cases numeric _ he
  · cases h
    cases numeric _ he
  · rename_i heq
    cases heq
    exact .inr (.inr ⟨_, rfl, h⟩)
  · exact absurd he (bracketed_not_sayable h)
  · exact absurd he (braced_not_sayable h)
  · cases h

theorem parenthesised_sayable (h : parenthesised (n + 1) s = some (e, rest)) (he : Sayable e) :
    item n s = some (e, .mark .rightParen :: rest) := by
  rw [parenthesised.eq_def] at h
  split at h
  · cases h
  · cases h
    exact absurd he Sayable.not_other
  · simp only [Option.bind_eq_bind, Option.bind_eq_some_iff, Option.some.injEq, Prod.mk.injEq,
      Prod.exists] at h
    obtain ⟨a, t, hread, _, -, rfl, -⟩ := h
    exact absurd he (yielded_not_sayable hread)
  · rename_i heq _ _
    cases heq
    simp only [Option.bind_eq_bind, Option.bind_eq_some_iff, Prod.exists] at h
    obtain ⟨a, t, hread, h⟩ := h
    split at h
    · simp only [Option.bind_eq_some_iff, Option.some.injEq, Prod.mk.injEq, Prod.exists] at h
      obtain ⟨_, _, -, rfl, -⟩ := h
      exact absurd he Sayable.not_other
    · split at h
      · cases h
      · cases h
        exact hread
    · split at h
      · cases h
      · simp only [Option.bind_eq_some_iff, Option.some.injEq, Prod.mk.injEq, Prod.exists] at h
        obtain ⟨_, _, -, _, -, rfl, -⟩ := h
        exact absurd he Sayable.not_other

/-- Positional arguments of a calculation. -/
theorem arguments_sayable {phase : ArgumentPhase} {args : List Expr}
    (h : arguments (n + 1) phase s = some ((args, []), rest)) (hargs : ∀ a ∈ args, Sayable a) :
    (args = [] ∧ s = .mark .rightParen :: rest) ∨
    ∃ a as t, args = a :: as ∧ named n s = some (a, t) ∧
      argumentsAfter n .positional t = some ((as, []), rest) := by
  rw [arguments.eq_def] at h
  split at h
  · cases h
  · cases h
    exact .inl ⟨rfl, rfl⟩
  · -- an unpacked argument
    split at h
    · cases h
    · simp only [Option.bind_eq_bind, Option.bind_eq_some_iff, Option.some.injEq,
        Prod.mk.injEq] at h
      obtain ⟨_, -, _, -, ⟨rfl, -⟩, -⟩ := h
      exact absurd (hargs _ List.mem_cons_self) Sayable.not_other
  · -- an unpacked mapping
    simp [Option.bind_eq_some_iff] at h
  · -- a named argument
    simp [Option.bind_eq_some_iff] at h
  · rename_i heq _ _ _ _
    cases heq
    split at h
    · cases h
    · simp only [Option.bind_eq_bind, Option.bind_eq_some_iff, Prod.exists] at h
      obtain ⟨a, t, hread, h⟩ := h
      split at h
      · simp only [Option.bind_eq_some_iff, Option.some.injEq, Prod.mk.injEq, Prod.exists] at h
        obtain ⟨_, _, -, _, -, ⟨rfl, -⟩, -⟩ := h
        exact absurd (hargs _ List.mem_cons_self) Sayable.not_other
      · simp only [Option.bind_eq_some_iff, Option.some.injEq, Prod.mk.injEq, Prod.exists] at h
        obtain ⟨as, keywords, u, hmore, ⟨rfl, rfl⟩, rfl⟩ := h
        exact .inr ⟨a, as, t, rfl, hread, hmore⟩

theorem argumentsAfter_succ {phase : ArgumentPhase} {args : List Expr}
    (h : argumentsAfter (n + 1) phase s = some ((args, []), rest)) :
    (args = [] ∧ s = .mark .rightParen :: rest) ∨
    ∃ t, s = .mark .comma :: t ∧ arguments n phase t = some ((args, []), rest) := by
  rw [argumentsAfter.eq_def] at h
  split at h
  · cases h
  · rename_i heq
    cases heq
    exact .inr ⟨_, rfl, h⟩
  · obtain ⟨t, ht, heq⟩ := Option.map_eq_some_iff.1 h
    cases heq
    rw [takeMark?.eq_def] at ht
    split at ht
    · split at ht
      · rename_i hm
        cases ht
        rw [hm]
        exact .inl ⟨rfl, rfl⟩
      · cases ht
    · cases ht

/-! ## Reading is sound -/

/-- The tier at which a level is spelled. -/
def Level.tier : Level → Tier
  | .term => .term
  | .factor => .factor
  | .power => .power
  | _ => .sum

theorem Level.chained {level : Level} {m : Mark} {op : Operator}
    (h : level.operator? m = some op.toBinaryOp) :
    Chained level.tier m op.toBinaryOp ∧ level.next.tier = level.tier.next := by
  cases level with
  | sum =>
    cases m with
    | plus => cases op <;> cases h; exact ⟨.plus, rfl⟩
    | minus => cases op <;> cases h; exact ⟨.minus, rfl⟩
    | _ => cases h
  | term =>
    cases m with
    | star => cases op <;> cases h; exact ⟨.star, rfl⟩
    | slash => cases op <;> cases h; exact ⟨.slash, rfl⟩
    | doubleSlash => cases op <;> cases h
    | percent => cases op <;> cases h
    | «at» => cases op <;> cases h
    | _ => cases h
  | bitOr => cases m <;> cases op <;> cases h
  | bitXor => cases m <;> cases op <;> cases h
  | bitAnd => cases m <;> cases op <;> cases h
  | shift => cases m <;> cases op <;> cases h
  | _ => cases h

/-- What a reader takes as a part of a calculation is a spelling. -/
def Sound (t : Tier) (read : Reader Expr) : Prop :=
  ∀ ⦃s e rest⦄, read s = some (e, rest) → Sayable e → ∃ p, s = p ++ rest ∧ Spells t e p

/-- A reader goes on behind a tree: what it takes continues the spelling of the tree. -/
def Continues (t : Tier) (e : Expr) (read : Reader Expr) : Prop :=
  ∀ ⦃s e' rest⦄, read s = some (e', rest) → Sayable e' →
    Sayable e ∧ ∃ q, s = q ++ rest ∧ ∀ p, Spells t e p → Spells t e' (p ++ q)

/-- Arguments with their spellings. -/
def Arguments (args : List Expr) (as : List (Expr × List Lexeme)) : Prop :=
  args = as.map (·.1) ∧ ∀ a ∈ as, Spells .sum a.1 a.2

/-- All readers that build parts of calculations are sound with so much fuel. -/
structure SoundAt (n : Nat) : Prop where
  expression : Sound .sum (expression n)
  named : Sound .sum (named n)
  item : Sound .sum (item n)
  operand : ∀ level, Sound level.tier (operand n level)
  chain : ∀ level e, Continues level.tier e (chain n level e)
  awaited : Sound .primary (awaited n)
  primary : Sound .primary (primary n)
  trailers : ∀ e, Continues .primary e (trailers n e)
  atom : Sound .primary (atom n)
  parenthesised : ∀ ⦃s e rest⦄, parenthesised n s = some (e, rest) → Sayable e →
    ∃ p, s = p ++ .mark .rightParen :: rest ∧ Spells .sum e p
  arguments : ∀ ⦃phase s args rest⦄, arguments n phase s = some ((args, []), rest) →
    (∀ a ∈ args, Sayable a) →
      ∃ as trailing, Arguments args as ∧ s = argumentLexemes trailing (as.map (·.2)) ++ rest
  argumentsAfter : ∀ ⦃phase s args rest⦄, argumentsAfter n phase s = some ((args, []), rest) →
    (∀ a ∈ args, Sayable a) →
      ∃ as trailing, Arguments args as ∧ s = furtherLexemes trailing (as.map (·.2)) ++ rest

theorem soundAt_zero : SoundAt 0 where
  expression := by intro s e rest h; rw [Expr.expression] at h; cases h
  named := by intro s e rest h; rw [Expr.named] at h; cases h
  item := by intro s e rest h; rw [Expr.item] at h; cases h
  operand := by intro level s e rest h; rw [Expr.operand] at h; cases h
  chain := by intro level e s e' rest h; rw [Expr.chain] at h; cases h
  awaited := by intro s e rest h; rw [Expr.awaited] at h; cases h
  primary := by intro s e rest h; rw [Expr.primary] at h; cases h
  trailers := by intro e s e' rest h; rw [Expr.trailers] at h; cases h
  atom := by intro s e rest h; rw [Expr.atom] at h; cases h
  parenthesised := by intro s e rest h; rw [Expr.parenthesised] at h; cases h
  arguments := by intro phase s args rest h; rw [Expr.arguments] at h; cases h
  argumentsAfter := by intro phase s args rest h; rw [Expr.argumentsAfter] at h; cases h

namespace SoundAt

theorem operand_succ (ih : SoundAt n) (level : Level) :
    Sound level.tier (Expr.operand (n + 1) level) := by
  intro s e rest h he
  have loose : level ∈ [.disjunction, .conjunction, .inversion, .comparison] →
      ∃ p, s = p ++ rest ∧ Spells level.next.tier e p := fun hlevel =>
    ih.operand level.next (operand_sayable hlevel h he) he
  have chained : level ∈ [.bitOr, .bitXor, .bitAnd, .shift, .sum, .term] →
      (∀ a p, Spells level.next.tier a p → Spells level.tier a p) →
      ∃ p, s = p ++ rest ∧ Spells level.tier e p := by
    intro hlevel hloosen
    obtain ⟨a, t, hread, hchain⟩ := operand_chained hlevel h
    obtain ⟨ha, q, rfl, hmore⟩ := ih.chain level a hchain he
    obtain ⟨p, rfl, hp⟩ := ih.operand level.next hread ha
    exact ⟨p ++ q, (List.append_assoc p q rest).symm, hmore p (hloosen a p hp)⟩
  cases level with
  | disjunction => exact loose (by decide)
  | conjunction => exact loose (by decide)
  | inversion => exact loose (by decide)
  | comparison => exact loose (by decide)
  | bitOr => exact chained (by decide) fun _ _ h => h
  | bitXor => exact chained (by decide) fun _ _ h => h
  | bitAnd => exact chained (by decide) fun _ _ h => h
  | shift => exact chained (by decide) fun _ _ h => h
  | sum => exact chained (by decide) fun _ _ h => .loosen (t := .sum) h
  | term => exact chained (by decide) fun _ _ h => .loosen (t := .term) h
  | factor =>
    rcases operand_factor h he with ⟨m, op, a, t, hm, rfl, rfl, ha, hread⟩ | hread
    · obtain ⟨p, rfl, hp⟩ := ih.operand .factor hread ha
      exact ⟨.mark m :: p, rfl, .signed hm hp⟩
    · obtain ⟨p, rfl, hp⟩ := ih.operand .power hread he
      exact ⟨p, rfl, .loosen (t := .factor) hp⟩
  | power =>
    rcases operand_power h he with ⟨a, b, t, hbase, hexponent, rfl, ha, hb⟩ | hread
    · obtain ⟨p, rfl, hp⟩ := ih.awaited hbase ha
      obtain ⟨q, rfl, hq⟩ := ih.operand .factor hexponent hb
      exact ⟨p ++ .mark .doubleStar :: q, by simp, .power hp hq⟩
    · obtain ⟨p, rfl, hp⟩ := ih.awaited hread he
      exact ⟨p, rfl, .loosen (t := .power) hp⟩

theorem chain_succ (ih : SoundAt n) (level : Level) (e : Expr) :
    Continues level.tier e (Expr.chain (n + 1) level e) := by
  intro s e' rest h he'
  rcases Expr.chain_succ h with ⟨rfl, rfl⟩ | ⟨m, op, r, t, u, rfl, hop, hread, hmore⟩
  · exact ⟨he', [], rfl, fun p hp => by rwa [List.append_nil]⟩
  · obtain ⟨hbinary, q, rfl, hq⟩ := ih.chain level _ hmore he'
    obtain ⟨⟨o, rfl⟩, he, hr⟩ := hbinary.of_binary
    obtain ⟨hchained, hnext⟩ := Level.chained hop
    obtain ⟨w, rfl, hw⟩ := ih.operand level.next hread hr
    refine ⟨he, .mark m :: (w ++ q), by simp, fun p hp => ?_⟩
    have := hq _ (.chained hchained hp (hnext ▸ hw))
    rwa [List.append_assoc] at this

theorem trailers_succ (ih : SoundAt n) (e : Expr) :
    Continues .primary e (Expr.trailers (n + 1) e) := by
  intro s e' rest h he'
  rcases Expr.trailers_succ h with ⟨rfl, rfl⟩ | ⟨⟨args, keywords⟩, t, u, rfl, hargs, hmore⟩ |
    ⟨form, parts, t, hmore⟩
  · exact ⟨he', [], rfl, fun p hp => by rwa [List.append_nil]⟩
  · obtain ⟨hcall, q, rfl, hq⟩ := ih.trailers _ hmore he'
    obtain ⟨⟨id, rfl, hid⟩, hkeywords, hsayable⟩ := hcall.of_call
    obtain rfl : keywords = [] := hkeywords
    obtain ⟨as, trailing, ⟨hmap, has⟩, rfl⟩ := ih.arguments hargs hsayable
    obtain rfl : args = as.map (·.1) := hmap
    refine ⟨.name hid, .mark .leftParen :: (argumentLexemes trailing (as.map (·.2)) ++ q),
      by simp, fun p hp => ?_⟩
    have := hq _ (.call trailing hp has)
    rwa [List.append_assoc] at this
  · exact absurd (ih.trailers _ hmore he').1 Sayable.not_other

theorem primary_succ (ih : SoundAt n) : Sound .primary (Expr.primary (n + 1)) := by
  intro s e rest h he
  obtain ⟨a, t, hatom, hmore⟩ := Expr.primary_succ h
  obtain ⟨ha, q, rfl, hq⟩ := ih.trailers a hmore he
  obtain ⟨p, rfl, hp⟩ := ih.atom hatom ha
  exact ⟨p ++ q, (List.append_assoc p q rest).symm, hq p hp⟩

theorem atom_succ (ih : SoundAt n) : Sound .primary (Expr.atom (n + 1)) := by
  intro s e rest h he
  rcases atom_sayable h he with ⟨id, rfl, rfl, hid⟩ | ⟨c, rfl, rfl⟩ | ⟨t, rfl, hread⟩
  · exact ⟨[.name id], rfl, .name hid⟩
  · exact ⟨[.number c], rfl, .constant c⟩
  · obtain ⟨p, rfl, hp⟩ := ih.parenthesised hread he
    exact ⟨.mark .leftParen :: (p ++ [.mark .rightParen]), by simp, .enclosed hp⟩

theorem argumentsAfter_succ (ih : SoundAt n) {phase : ArgumentPhase} {args : List Expr}
    (h : Expr.argumentsAfter (n + 1) phase s = some ((args, []), rest))
    (hargs : ∀ a ∈ args, Sayable a) :
    ∃ as trailing, Arguments args as ∧ s = furtherLexemes trailing (as.map (·.2)) ++ rest := by
  rcases Expr.argumentsAfter_succ h with ⟨rfl, rfl⟩ | ⟨t, rfl, hread⟩
  · exact ⟨[], false, ⟨rfl, nofun⟩, rfl⟩
  · obtain ⟨as, trailing, has, rfl⟩ := ih.arguments hread hargs
    cases as with
    | nil => exact ⟨[], true, has, rfl⟩
    | cons a as => exact ⟨a :: as, trailing, has, rfl⟩

theorem arguments_succ (ih : SoundAt n) {phase : ArgumentPhase} {args : List Expr}
    (h : Expr.arguments (n + 1) phase s = some ((args, []), rest))
    (hargs : ∀ a ∈ args, Sayable a) :
    ∃ as trailing, Arguments args as ∧ s = argumentLexemes trailing (as.map (·.2)) ++ rest := by
  rcases arguments_sayable h hargs with ⟨rfl, rfl⟩ | ⟨a, es, t, rfl, hread, hmore⟩
  · exact ⟨[], false, ⟨rfl, nofun⟩, rfl⟩
  · obtain ⟨ha, hes⟩ := List.forall_mem_cons.1 hargs
    obtain ⟨as, trailing, ⟨rfl, has⟩, rfl⟩ := ih.argumentsAfter hmore hes
    obtain ⟨p, rfl, hp⟩ := ih.named hread ha
    refine ⟨(a, p) :: as, trailing, ⟨rfl, List.forall_mem_cons.2 ⟨hp, has⟩⟩, ?_⟩
    rw [List.map_cons, argumentLexemes, List.append_assoc]

end SoundAt

theorem soundAt (n : Nat) : SoundAt n := by
  induction n with
  | zero => exact soundAt_zero
  | succ n ih =>
    constructor
    · exact fun s e rest h he => ih.operand .disjunction (expression_sayable h he) he
    · exact fun s e rest h he => ih.expression (named_sayable h he) he
    · exact fun s e rest h he => ih.named (item_sayable h he) he
    · exact ih.operand_succ
    · exact ih.chain_succ
    · exact fun s e rest h he => ih.primary (awaited_sayable h he) he
    · exact ih.primary_succ
    · exact ih.trailers_succ
    · exact ih.atom_succ
    · exact fun s e rest h he => ih.item (parenthesised_sayable h he) he
    · exact fun phase s args rest h hargs => ih.arguments_succ h hargs
    · exact fun phase s args rest h hargs => ih.argumentsAfter_succ h hargs

theorem isSpent_iff {s : List Lexeme} : isSpent s = true ↔ ∀ l ∈ s, l = .newline := by
  induction s with
  | nil => simp [isSpent]
  | cons l s ih => cases l <;> simp [isSpent, ih]

/-- Lexemes that make up a calculation spell it, up to line breaks at their end. -/
theorem spells_of_ofLexemes? {ls : List Lexeme} {c : Calculation} (h : ofLexemes? ls = some e)
    (hc : calculation? e = some c) :
    ∃ p rest, ls = p ++ rest ∧ Spells .sum e p ∧ ∀ l ∈ rest, l = .newline := by
  rw [ofLexemes?] at h
  split at h
  · rename_i a rest hread
    split at h
    · rename_i hspent
      cases h
      rw [topLevel] at hread
      simp only [Option.bind_eq_bind, Option.bind_eq_some_iff, Prod.exists] at hread
      obtain ⟨a, t, hread, hmore⟩ := hread
      split at hmore
      · simp only [Option.bind_eq_some_iff, Option.some.injEq, Prod.mk.injEq] at hmore
        obtain ⟨_, -, rfl, -⟩ := hmore
        cases hc
      · cases hmore
        obtain ⟨p, rfl, hp⟩ := (soundAt _).expression hread (.calculation hc)
        exact ⟨p, _, rfl, hp, isSpent_iff.1 hspent⟩
    · cases h
  · cases h

end Abacus.Expr
