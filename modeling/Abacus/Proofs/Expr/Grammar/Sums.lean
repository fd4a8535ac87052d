import Abacus.Proofs.Expr.Grammar.Spelling

/-!
# Sums of a number and a closed part

Lexemes that start with a number, with signs in front of it, and go on with a plus spell the sum of
the number and of something behind it.  If the part behind the plus is closed, that is, none of its
beginnings keeps the depth of parentheses, it spells the second summand as a whole.
-/

namespace Abacus.Expr

variable {t : Tier} {m : Mark} {a b e : Expr} {c : Constant} {l : Lexeme}
  {p q r ls rest : List Lexeme}

/-! ## Words in spellings -/

/-- A spelling holds a number or a name. -/
theorem Spells.exists_isWord (h : Spells t e p) : ∃ l ∈ p, l.isWord := by
  have left : ∀ {p q : List Lexeme}, (∃ l ∈ p, l.isWord) → ∃ l ∈ p ++ q, l.isWord :=
    fun ⟨l, hl, hword⟩ => ⟨l, List.mem_append_left _ hl, hword⟩
  induction h with
  | constant c => exact ⟨_, List.mem_singleton_self _, rfl⟩
  | name _ => exact ⟨_, List.mem_singleton_self _, rfl⟩
  | enclosed _ ih =>
    obtain ⟨l, hl, hword⟩ := left ih
    exact ⟨l, List.mem_cons_of_mem _ hl, hword⟩
  | signed _ _ ih =>
    obtain ⟨l, hl, hword⟩ := ih
    exact ⟨l, List.mem_cons_of_mem _ hl, hword⟩
  | call _ _ _ ih _ => exact left ih
  | power _ _ ih _ => exact left ih
  | chained _ _ _ ih _ => exact left ih
  | loosen _ ih => exact ih

/-! ## Numbers with signs -/

/-- A number with signs in front of it, and the tree of both. -/
inductive SignedNumber : Expr → List Lexeme → Prop
  | number (c : Constant) : SignedNumber (.constant c) [.number c]
  | signed {m : Mark} {op : UnaryOp} {e : Expr} {p : List Lexeme} :
      Sign m op → SignedNumber e p → SignedNumber (.unary op e) (.mark m :: p)

namespace SignedNumber

theorem spells (h : SignedNumber e p) : Spells .factor e p := by
  induction h with
  | number c => exact (Spells.constant c).to_factor
  | signed hm _ ih => exact .signed hm ih

theorem ne_nil (h : SignedNumber e p) : p ≠ [] := by
  cases h <;> exact List.cons_ne_nil _ _

/-- In front of the number there are signs only. -/
theorem not_isWord_of_append (h : SignedNumber e (p ++ l :: q)) : ∀ l ∈ p, l.isWord = false := by
  generalize hr : p ++ l :: q = r at h
  induction h generalizing p with
  | number c =>
    cases p with
    | nil => exact nofun
    | cons l' p => simp at hr
  | signed _ _ ih =>
    cases p with
    | nil => exact nofun
    | cons l' p =>
      obtain ⟨rfl, rfl⟩ := List.cons.inj hr
      exact List.forall_mem_cons.2 ⟨rfl, ih rfl⟩

/-- A spelling in front of a mark is the number itself, or reaches behind the plus. -/
theorem cases_append (hp : SignedNumber a p) (hq : Spells t e q)
    (h : q ++ .mark m :: r = p ++ .mark .plus :: ls) :
    (q = p ∧ m = .plus ∧ r = ls) ∨
      ∃ q', q = p ++ .mark .plus :: q' ∧ ls = q' ++ .mark m :: r := by
  rcases List.append_eq_append_iff.1 h with ⟨x, hx, hmarks⟩ | ⟨x, hx, hmarks⟩
  · cases x with
    | nil =>
      obtain ⟨hm, rfl⟩ := List.cons.inj hmarks
      cases hm
      exact .inl ⟨by rw [hx, List.append_nil], rfl, rfl⟩
    | cons l x =>
      -- the spelling would end in front of the number
      rw [hx] at hp
      obtain ⟨l', hl', hword⟩ := hq.exists_isWord
      rw [hp.not_isWord_of_append l' hl'] at hword
      cases hword
  · cases x with
    | nil =>
      obtain ⟨hm, rfl⟩ := List.cons.inj hmarks
      cases hm
      exact .inl ⟨by rw [hx, List.append_nil], rfl, rfl⟩
    | cons l x =>
      obtain ⟨rfl, rfl⟩ := List.cons.inj hmarks
      exact .inr ⟨x, hx, rfl⟩

end SignedNumber

theorem Tier.next_ne_sum (t : Tier) : t.next ≠ .sum := by
  cases t <;> nofun

/-- What starts with a number and a plus goes on with a second summand, and is the sum of both if
nothing follows. -/
theorem Spells.exists_summand (hp : SignedNumber a p) (h : Spells t e (p ++ .mark .plus :: ls)) :
    ∃ b q rest, ls = q ++ rest ∧ Spells .term b q ∧
      (rest = [] → t = .sum ∧ ∃ a', Spells .sum a' p ∧ e = .binary .add a' b) := by
  -- more lexemes behind a summand that has been found, so that the last claim is void
  have more : ∀ {m : Mark} {r ls' : List Lexeme} {P Q : Expr → Prop},
      (∃ b q rest, ls' = q ++ rest ∧ Spells .term b q ∧ (rest = [] → P b)) →
        ∃ b q rest, ls' ++ .mark m :: r = q ++ rest ∧ Spells .term b q ∧ (rest = [] → Q b) := by
    rintro m r _ P Q ⟨b, q, rest, rfl, hb, -⟩
    exact ⟨b, q, rest ++ .mark m :: r, List.append_assoc _ _ _, hb, fun hnil => by simp at hnil⟩
  generalize hq : p ++ .mark .plus :: ls = q at h
  induction h generalizing a p ls with
  | constant c =>
    have := congrArg List.length hq
    have := List.length_pos_iff.2 hp.ne_nil
    simp at *
    omega
  | name _ =>
    have := congrArg List.length hq
    have := List.length_pos_iff.2 hp.ne_nil
    simp at *
    omega
  | enclosed _ _ =>
    cases hp with
    | number c => cases hq
    | signed hm _ => cases hm <;> cases hq
  | @call id q args trailing hfunction _ ih _ =>
    rcases hp.cases_append hfunction hq.symm with ⟨-, hm, -⟩ | ⟨q', rfl, rfl⟩
    · cases hm
    · exact more (ih hp rfl)
  | power hbase _ ih _ =>
    rcases hp.cases_append hbase hq.symm with ⟨-, hm, -⟩ | ⟨q', rfl, rfl⟩
    · cases hm
    · exact more (ih hp rfl)
  | signed _ _ ih =>
    cases hp with
    | number c => cases hq
    | signed _ hp =>
      obtain ⟨b, q, rest, rfl, hb, hnil⟩ := ih hp (List.cons.inj hq).2
      exact ⟨b, q, rest, rfl, hb, fun h => by cases (hnil h).1⟩
  | @chained t m op a' b q r hm hleft hright ih _ =>
    rcases hp.cases_append hleft hq.symm with ⟨rfl, rfl, rfl⟩ | ⟨q', rfl, rfl⟩
    · cases hm
      exact ⟨b, r, [], (List.append_nil r).symm, hright, fun _ => ⟨rfl, a', hleft, rfl⟩⟩
    · exact more (ih hp rfl)
  | @loosen t _ _ _ ih =>
    obtain ⟨b, q, rest, rfl, hb, hnil⟩ := ih hp hq
    exact ⟨b, q, rest, rfl, hb, fun h => absurd (hnil h).1 t.next_ne_sum⟩

/-! ## Closed parts -/

/-- No beginning keeps the depth of parentheses, the whole apart. -/
def Closed (ls : List Lexeme) : Prop :=
  ∀ q r, ls = q ++ r → Balanced q → q ≠ [] → r = []

/-- A closed spelling that starts with a parenthesis is the spelling of something in parentheses, or
of a call. -/
theorem Spells.primary_of_closed (h : Spells t e p) (hclosed : Closed p)
    (hhead : p.head? = some (.mark .leftParen)) : Spells .primary e p := by
  induction h with
  | constant c => exact .constant c
  | name hid => exact .name hid
  | enclosed h _ => exact .enclosed h
  | call trailing hfunction hargs _ _ => exact .call trailing hfunction hargs
  | power hbase _ _ _ =>
    cases hclosed _ _ rfl hbase.balanced (List.length_pos_iff.1 hbase.length_pos)
  | signed hm _ _ => cases hm <;> cases hhead
  | chained _ hleft _ _ _ =>
    cases hclosed _ _ rfl hleft.balanced (List.length_pos_iff.1 hleft.length_pos)
  | loosen _ ih => exact ih hclosed hhead

/-- A number and a closed part make up the sum of both. -/
theorem Spells.sum_of_closed (hp : SignedNumber a p) (h : Spells .sum b ls) (hclosed : Closed ls)
    (hhead : ls.head? = some (.mark .leftParen)) :
    Spells .sum (.binary .add a b) (p ++ .mark .plus :: ls) :=
  .chained .plus (.loosen (t := .sum) (.loosen (t := .term) hp.spells))
    (.loosen (t := .term) (h.primary_of_closed hclosed hhead).to_factor)

/-- Nothing else is spelled by a number and a closed part, whatever line breaks follow. -/
theorem Spells.exists_of_sum (hp : SignedNumber a p) (hclosed : Closed ls) (h : Spells .sum e q)
    (hrest : ∀ l ∈ rest, l = .newline) (heq : q ++ rest = p ++ .mark .plus :: ls) :
    ∃ a' b, Spells .sum a' p ∧ Spells .sum b ls ∧ e = .binary .add a' b := by
  obtain ⟨x, rfl, rfl⟩ : ∃ x, q = p ++ .mark .plus :: x ∧ ls = x ++ rest := by
    rcases List.append_eq_append_iff.1 heq with ⟨x, rfl, hx⟩ | ⟨x, rfl, hx⟩
    · cases hrest (.mark .plus) (by simp [hx])
    · cases x with
      | nil =>
        rw [List.nil_append] at hx
        cases hrest (.mark .plus) (by simp [← hx])
      | cons l x =>
        obtain ⟨rfl, rfl⟩ := List.cons.inj hx
        exact ⟨x, rfl, rfl⟩
  obtain ⟨b, y, r, rfl, hb, hnil⟩ := h.exists_summand hp
  have hclose := hclosed y (r ++ rest) (List.append_assoc y r rest) hb.balanced
    (List.length_pos_iff.1 hb.length_pos)
  obtain ⟨rfl, rfl⟩ := List.append_eq_nil_iff.1 hclose
  obtain ⟨-, a', ha', rfl⟩ := hnil rfl
  rw [List.append_nil, List.append_nil]
  exact ⟨a', b, ha', .loosen (t := .sum) hb, rfl⟩

end Abacus.Expr
