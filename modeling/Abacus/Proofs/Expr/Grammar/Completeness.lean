import Abacus.Expr.Grammar
import Abacus.Proofs.Expr.Grammar.Spelling

/-!
# What is spelled is read

Lexemes that spell a tree are read as the tree.  A reader is given enough fuel for the lexemes it
takes, and what follows these lexemes must not bind more tightly than the tier that is read.  Sums,
products and calls are read from the left: their lexemes lead to the point at which the whole tree
is the left operand, or is called.
-/

namespace Abacus.Expr

variable {n : Nat} {e a b : Expr} {p q rest : List Lexeme}

/-! ## What may follow -/

/-- How tightly a mark binds what stands in front of it. -/
def Mark.binding : Mark → Nat
  | .rightParen => 0
  | .comma => 0
  | .plus => 1
  | .minus => 1
  | .star => 2
  | .slash => 2
  | .doubleStar => 3
  | _ => 4

/-- How tightly a lexeme binds what stands in front of it. -/
def Lexeme.binding : Lexeme → Nat
  | .newline => 0
  | .mark m => m.binding
  | _ => 4

/-- What follows binds up to a bound. -/
def Follows (bound : Nat) (rest : List Lexeme) : Prop := ∀ l ∈ rest.head?, l.binding ≤ bound

theorem Follows.mono {k m : Nat} (h : Follows k rest) (hkm : k ≤ m) : Follows m rest :=
  fun l hl => Nat.le_trans (h l hl) hkm

theorem follows_mark {m : Mark} {bound : Nat} (h : m.binding ≤ bound) (s : List Lexeme) :
    Follows bound (.mark m :: s) := by
  rintro l ⟨⟩
  exact h

theorem follows_four (rest : List Lexeme) : Follows 4 rest := by
  intro l _
  cases l with
  | mark m => cases m <;> decide
  | newline => decide
  | _ => exact Nat.le_refl 4

theorem not_follows_keyword {k : Keyword} {s : List Lexeme} : ¬ Follows 3 (.keyword k :: s) :=
  fun h => absurd (h _ rfl) (Nat.not_succ_le_self 3)

theorem operands_follows (h : Follows 3 rest) (n : Nat) (k : Keyword) (level : Level) :
    operands (n + 1) k level rest = some ([], rest) := by
  cases rest with
  | nil => rfl
  | cons l s =>
    cases l with
    | keyword k' => exact absurd h not_follows_keyword
    | _ => rfl

theorem compared_follows (h : Follows 3 rest) (n : Nat) :
    compared (n + 1) rest = some ([], rest) := by
  cases rest with
  | nil => rfl
  | cons l s =>
    cases l with
    | keyword k => exact absurd h not_follows_keyword
    | mark m => cases m <;> first | rfl | exact absurd (h _ rfl) (by decide)
    | _ => rfl

theorem takeFor?_follows (h : Follows 3 rest) : takeFor? rest = none := by
  cases rest with
  | nil => rfl
  | cons l s =>
    cases l with
    | keyword k => exact absurd h not_follows_keyword
    | _ => rfl

theorem trailers_follows (h : Follows 3 rest) (n : Nat) (e : Expr) :
    trailers (n + 1) e rest = some (e, rest) := by
  cases rest with
  | nil => rfl
  | cons l s =>
    cases l with
    | mark m => cases m <;> first | rfl | exact absurd (h _ rfl) (by decide)
    | _ => rfl

/-- A chain ends where no operator of its level follows. -/
theorem chain_follows {level : Level} (h : ∀ m s, rest = .mark m :: s → level.operator? m = none)
    (n : Nat) (e : Expr) : chain (n + 1) level e rest = some (e, rest) := by
  cases rest with
  | nil => rfl
  | cons l s =>
    cases l with
    | mark m => rw [chain, h m s rfl]
    | _ => rfl

/-! ## What a spelling starts with -/

/-- What may start a spelling stands in front. -/
def Starts (s : List Lexeme) : Prop := ∃ l t, s = l :: t ∧ l.starts

theorem Spells.starts {t : Tier} (h : Spells t e p) : Starts p := h.exists_cons

theorem Starts.append (h : Starts p) (rest : List Lexeme) : Starts (p ++ rest) := by
  obtain ⟨l, s, rfl, hl⟩ := h
  exact ⟨l, s ++ rest, rfl, hl⟩

theorem Starts.ne_keyword {k : Keyword} {s : List Lexeme} (h : Starts p) :
    p ≠ .keyword k :: s := by
  rintro rfl
  obtain ⟨l, t, heq, hl⟩ := h
  cases heq
  cases hl

theorem Starts.ne_mark {m : Mark} {s : List Lexeme} (h : Starts p)
    (hm : m ∈ [.rightParen, .star, .doubleStar]) : p ≠ .mark m :: s := by
  rintro rfl
  obtain ⟨l, t, heq, hl⟩ := h
  cases heq
  simp only [List.mem_cons, List.not_mem_nil, or_false] at hm
  rcases hm with rfl | rfl | rfl <;> cases hl

/-- Nothing is given a name in a spelling. -/
theorem Spells.ne_name_mark {t : Tier} (h : Spells t e p) (hrest : Follows 3 rest) {id : Text}
    {m : Mark} {s : List Lexeme} (hm : m ∈ [.walrus, .assign]) :
    p ++ rest ≠ .name id :: .mark m :: s := by
  have hplain : ∀ m ∈ [Mark.walrus, .assign], m.isPlain = false ∧ ¬ m.binding ≤ 3 := by decide
  intro heq
  obtain ⟨l, q, rfl, -⟩ := h.exists_cons
  obtain ⟨-, heq'⟩ := List.cons.inj heq
  cases q with
  | nil =>
    obtain rfl : rest = .mark m :: s := heq'
    exact (hplain m hm).2 (hrest _ rfl)
  | cons l' q =>
    obtain ⟨hl', -⟩ := List.cons.inj heq'
    have := h.isPlain (.mark m) (by simp [hl'])
    rw [Lexeme.isPlain, (hplain m hm).1] at this
    cases this

/-- Whether lexemes start with something else than a sign. -/
def AtomFirst (p : List Lexeme) : Prop := ∃ l s, p = l :: s ∧ ∀ m, l = .mark m → m = .leftParen

theorem AtomFirst.append (h : AtomFirst p) (q : List Lexeme) : AtomFirst (p ++ q) := by
  obtain ⟨l, s, rfl, hl⟩ := h
  exact ⟨l, s ++ q, rfl, hl⟩

/-! ## Taking a spelling -/

/-- A reader takes lexemes as a tree.  The fuel has to cover the lexemes up to some slack, and what
follows binds up to a bound. -/
def Takes (read : Nat → Reader Expr) (slack bound : Nat) (p : List Lexeme) (e : Expr) : Prop :=
  ∀ n rest, 32 * p.length ≤ n + slack → Follows bound rest → read n (p ++ rest) = some (e, rest)

/-- Reading lexemes leads into a reader that goes on behind them. -/
def Leads (read next : Nat → Reader Expr) (slack bound : Nat) (p : List Lexeme) : Prop :=
  ∀ n rest, 32 * p.length ≤ n + slack → Follows bound rest →
    ∃ m, n ≤ m + p.length ∧ read n (p ++ rest) = next m rest

/-- What is not continued has been taken as a whole. -/
theorem Leads.takes {read next : Nat → Reader Expr} {slack bound bound' : Nat}
    (h : Leads read next slack bound p) (hp : 0 < p.length) (hslack : slack ≤ 30)
    (hbound : bound' ≤ bound)
    (hnext : ∀ n rest, Follows bound' rest → next (n + 1) rest = some (e, rest)) :
    Takes read slack bound' p e := by
  intro n rest hn hrest
  obtain ⟨m, hm, hread⟩ := h n rest hn (hrest.mono hbound)
  obtain ⟨k, rfl⟩ : ∃ k, m = k + 1 := ⟨m - 1, by omega⟩
  rw [hread]
  exact hnext k rest hrest

/-! ### From tight tiers to loose ones -/

/-- No power follows. -/
theorem Takes.power (h : Takes primary 14 3 p e) (hp : 0 < p.length) (hstarts : Starts p) :
    Takes (operand · .power) 12 2 p e := by
  intro n rest hn hrest
  obtain ⟨m, rfl⟩ : ∃ m, n = m + 2 := ⟨n - 2, by omega⟩
  have hawaited : awaited (m + 1) (p ++ rest) = some (e, rest) := by
    rw [awaited.eq_3 _ m fun _ => (hstarts.append rest).ne_keyword]
    exact h m rest (by omega) (hrest.mono (by omega))
  change operand (m + 2) .power (p ++ rest) = _
  rw [operand, hawaited]
  cases rest with
  | nil => rfl
  | cons l s =>
    cases l with
    | mark k => cases k <;> first | rfl | exact absurd (hrest _ rfl) (by decide)
    | _ => rfl

/-- No sign stands in front. -/
theorem Takes.factor (h : Takes (operand · .power) 12 2 p e) (hfirst : AtomFirst p) :
    Takes (operand · .factor) 11 2 p e := by
  intro n rest hn hrest
  obtain ⟨l, s, rfl, hl⟩ := hfirst
  rw [List.length_cons] at hn
  obtain ⟨m, rfl⟩ : ∃ m, n = m + 1 := ⟨n - 1, by omega⟩
  rw [← h m rest (by rw [List.length_cons]; omega) hrest]
  cases l with
  | mark k =>
    obtain rfl := hl k rfl
    rfl
  | _ => rfl

/-- A factor is the first operand of a product. -/
theorem Takes.term (h : Takes (operand · .factor) 11 2 p e) (hp : 0 < p.length) :
    Leads (operand · .term) (chain · .term e) 10 2 p := by
  intro n rest hn hrest
  obtain ⟨m, rfl⟩ : ∃ m, n = m + 1 := ⟨n - 1, by omega⟩
  refine ⟨m, by omega, ?_⟩
  have hfactor : operand m .factor (p ++ rest) = some (e, rest) := h m rest (by omega) hrest
  change (operand m .factor (p ++ rest)).bind (fun r => chain m .term r.1 r.2) = _
  rw [hfactor]
  rfl

/-- A product is the first operand of a sum. -/
theorem Takes.sum (h : Takes (operand · .term) 10 1 p e) (hp : 0 < p.length) :
    Leads (operand · .sum) (chain · .sum e) 9 1 p := by
  intro n rest hn hrest
  obtain ⟨m, rfl⟩ : ∃ m, n = m + 1 := ⟨n - 1, by omega⟩
  refine ⟨m, by omega, ?_⟩
  have hterm : operand m .term (p ++ rest) = some (e, rest) := h m rest (by omega) hrest
  change (operand m .term (p ++ rest)).bind (fun r => chain m .sum r.1 r.2) = _
  rw [hterm]
  rfl

theorem Leads.takes_term (h : Leads (operand · .term) (chain · .term e) 10 2 p)
    (hp : 0 < p.length) : Takes (operand · .term) 10 1 p e := by
  refine h.takes hp (by omega) (by omega) fun n rest hrest => chain_follows ?_ n e
  rintro m s rfl
  cases m <;> first | rfl | exact absurd (hrest _ rfl) (by decide)

theorem Leads.takes_sum (h : Leads (operand · .sum) (chain · .sum e) 9 1 p)
    (hp : 0 < p.length) : Takes (operand · .sum) 9 0 p e := by
  refine h.takes hp (by omega) (by omega) fun n rest hrest => chain_follows ?_ n e
  rintro m s rfl
  cases m <;> first | rfl | exact absurd (hrest _ rfl) (by decide)

/-- The levels between comparisons and sums are passed over. -/
theorem operand_bits {level : Level} (hlevel : level ∈ [.bitOr, .bitXor, .bitAnd, .shift])
    (hrest : Follows 0 rest) {s : List Lexeme}
    (h : operand (n + 1) level.next s = some (e, rest)) :
    operand (n + 2) level s = some (e, rest) := by
  simp only [List.mem_cons, List.not_mem_nil, or_false] at hlevel
  have hstep : operand (n + 2) level s =
      (operand (n + 1) level.next s).bind fun r => chain (n + 1) level r.1 r.2 := by
    rcases hlevel with rfl | rfl | rfl | rfl <;> rfl
  rw [hstep, h]
  refine chain_follows ?_ n e
  rintro m t rfl
  rcases hlevel with rfl | rfl | rfl | rfl <;> cases m <;>
    first | rfl | exact absurd (hrest _ rfl) (by decide)

/-- An expression is read as a sum. -/
theorem expression_starts {s : List Lexeme} (hs : Starts s) (hrest : Follows 0 rest)
    (h : operand (n + 1) .sum s = some (e, rest)) : expression (n + 10) s = some (e, rest) := by
  have hthree : Follows 3 rest := hrest.mono (by omega)
  have hbits : operand (n + 5) .bitOr s = some (e, rest) :=
    operand_bits (by decide) hrest (operand_bits (by decide) hrest
      (operand_bits (by decide) hrest (operand_bits (by decide) hrest h)))
  have hcomparison : operand (n + 6) .comparison s = some (e, rest) := by
    rw [operand, hbits]
    simp [compared_follows hthree]
  have hinversion : operand (n + 7) .inversion s = some (e, rest) := by
    rw [← hcomparison]
    obtain ⟨l, t, rfl, hl⟩ := hs
    cases l with
    | keyword k => cases hl
    | _ => rfl
  have hconjunction : operand (n + 8) .conjunction s = some (e, rest) := by
    rw [operand, hinversion]
    simp [operands_follows hthree]
  have hdisjunction : operand (n + 9) .disjunction s = some (e, rest) := by
    rw [operand, hconjunction]
    simp [operands_follows hthree]
  rw [expression.eq_3 _ _ fun _ => hs.ne_keyword, hdisjunction]
  cases rest with
  | nil => rfl
  | cons l t =>
    cases l with
    | keyword k => exact absurd hthree not_follows_keyword
    | _ => rfl

theorem Takes.expression (h : Takes (operand · .sum) 9 0 p e) (hp : 0 < p.length)
    (hstarts : Starts p) : Takes expression 0 0 p e := by
  intro n rest hn hrest
  obtain ⟨m, rfl⟩ : ∃ m, n = m + 10 := ⟨n - 10, by omega⟩
  exact expression_starts (hstarts.append rest) hrest (h (m + 1) rest (by omega) hrest)

/-! ### One constructor after the other -/

theorem Takes.signed {m : Mark} {op : UnaryOp} (h : Takes (operand · .factor) 11 2 p e)
    (hm : Sign m op) : Takes (operand · .factor) 11 2 (.mark m :: p) (.unary op e) := by
  intro n rest hn hrest
  rw [List.length_cons] at hn
  obtain ⟨k, rfl⟩ : ∃ k, n = k + 1 := ⟨n - 1, by omega⟩
  have hfactor : operand k .factor (p ++ rest) = some (e, rest) := h k rest (by omega) hrest
  have hstep : operand (k + 1) .factor (.mark m :: p ++ rest) =
      (operand k .factor (p ++ rest)).bind fun r => some (.unary op r.1, r.2) := by
    cases hm <;> rfl
  change operand (k + 1) .factor (.mark m :: p ++ rest) = _
  rw [hstep, hfactor]
  rfl

theorem Takes.pow (hp : Takes primary 14 3 p a) (hq : Takes (operand · .factor) 11 2 q b)
    (hstarts : Starts p) :
    Takes (operand · .power) 12 2 (p ++ .mark .doubleStar :: q) (.binary .pow a b) := by
  intro n rest hn hrest
  rw [List.length_append, List.length_cons] at hn
  obtain ⟨m, rfl⟩ : ∃ m, n = m + 2 := ⟨n - 2, by omega⟩
  have hbase : awaited (m + 1) (p ++ .mark .doubleStar :: (q ++ rest)) =
      some (a, .mark .doubleStar :: (q ++ rest)) := by
    rw [awaited.eq_3 _ m fun _ => (hstarts.append _).ne_keyword]
    exact hp m _ (by omega) (follows_mark (by decide) _)
  have hexponent : operand (m + 1) .factor (q ++ rest) = some (b, rest) :=
    hq (m + 1) rest (by omega) hrest
  change operand (m + 2) .power (p ++ .mark .doubleStar :: q ++ rest) = _
  rw [List.append_assoc, List.cons_append, operand, hbase]
  change (operand (m + 1) .factor (q ++ rest)).bind
    (fun r => some (Expr.binary .pow a r.1, r.2)) = _
  rw [hexponent]
  rfl

/-- One more operand of a chain. -/
theorem Leads.binary {level : Level} {slack bound : Nat} {m : Mark} {op : BinaryOp}
    (hp : Leads (operand · level) (chain · level a) slack bound p)
    (hq : Takes (operand · level.next) (slack + 1) bound q b)
    (hop : level.operator? m = some op) (hbinding : m.binding ≤ bound) (hslack : slack ≤ 30)
    (hlen : 0 < p.length) :
    Leads (operand · level) (chain · level (.binary op a b)) slack bound (p ++ .mark m :: q) := by
  intro n rest hn hrest
  rw [List.length_append, List.length_cons] at hn
  obtain ⟨k, hk, hlead⟩ := hp n (.mark m :: (q ++ rest)) (by omega) (follows_mark hbinding _)
  obtain ⟨j, rfl⟩ : ∃ j, k = j + 1 := ⟨k - 1, by omega⟩
  have hright : operand j level.next (q ++ rest) = some (b, rest) := hq j rest (by omega) hrest
  refine ⟨j, by rw [List.length_append, List.length_cons]; omega, ?_⟩
  rw [List.append_assoc, List.cons_append, hlead]
  change chain (j + 1) level a (.mark m :: (q ++ rest)) = _
  rw [chain, hop]
  change (operand j level.next (q ++ rest)).bind (fun r => chain j level (.binary op a r.1) r.2) = _
  rw [hright]
  rfl

/-- An atom of one lexeme. -/
theorem leads_single {l : Lexeme} (h : ∀ n s, atom (n + 1) (l :: s) = some (e, s)) :
    Leads primary (trailers · e) 14 4 [l] := by
  intro n rest hn _
  rw [List.length_singleton] at hn
  obtain ⟨m, rfl⟩ : ∃ m, n = m + 2 := ⟨n - 2, by omega⟩
  refine ⟨m + 1, by rw [List.length_singleton], ?_⟩
  change (atom (m + 1) (l :: rest)).bind (fun r => trailers (m + 1) r.1 r.2) = _
  rw [h]
  rfl

theorem Spells.isStarred {t : Tier} (h : Spells t e p) : e.isStarred = false := by
  induction h with
  | enclosed _ ih => exact ih
  | loosen _ ih => exact ih
  | _ => rfl

theorem Spells.named {t : Tier} (h : Spells t e p) (hrest : Follows 3 rest) (n : Nat) :
    named (n + 1) (p ++ rest) = expression n (p ++ rest) :=
  named.eq_3 _ n fun _ _ => h.ne_name_mark hrest (by decide)

/-- A spelling in parentheses is taken as an atom. -/
theorem Takes.enclosed {t : Tier} (h : Takes Expr.expression 0 0 p e) (hp : Spells t e p) :
    Leads primary (trailers · e) 14 4 (.mark .leftParen :: (p ++ [.mark .rightParen])) := by
  intro n rest hn _
  rw [List.length_cons, List.length_append, List.length_singleton] at hn
  obtain ⟨m, rfl⟩ : ∃ m, n = m + 5 := ⟨n - 5, by omega⟩
  have hclosing : Follows 0 (.mark .rightParen :: rest) := follows_mark (by decide) rest
  have hstarts : Starts (p ++ .mark .rightParen :: rest) := hp.starts.append _
  have hinner : Expr.expression m (p ++ .mark .rightParen :: rest) =
      some (e, .mark .rightParen :: rest) := h m _ (by omega) hclosing
  have hitem : item (m + 2) (p ++ .mark .rightParen :: rest) =
      some (e, .mark .rightParen :: rest) := by
    rw [item.eq_3 _ _ fun _ => hstarts.ne_mark (by decide), hp.named (hclosing.mono (by omega)),
      hinner]
  have hgroup : parenthesised (m + 3) (p ++ .mark .rightParen :: rest) = some (e, rest) := by
    rw [parenthesised.eq_4 _ _ (fun _ => hstarts.ne_mark (by decide))
      (fun _ => hstarts.ne_keyword), hitem]
    change (if e.isStarred then none else some (e, rest)) = _
    rw [hp.isStarred]
    rfl
  refine ⟨m + 4, by rw [List.length_cons]; omega, ?_⟩
  change (parenthesised (m + 3) (p ++ [.mark .rightParen] ++ rest)).bind
    (fun r => trailers (m + 4) r.1 r.2) = _
  rw [List.append_assoc, List.singleton_append, hgroup]
  rfl

/-! ### Arguments -/

theorem follows_furtherLexemes (trailing : Bool) (ps : List (List Lexeme)) (rest : List Lexeme) :
    Follows 0 (furtherLexemes trailing ps ++ rest) := by
  cases ps with
  | nil => cases trailing <;> exact follows_mark (by decide) _
  | cons p ps => exact follows_mark (by decide) _

theorem length_furtherLexemes_pos (trailing : Bool) (ps : List (List Lexeme)) :
    0 < (furtherLexemes trailing ps).length := by
  cases ps with
  | nil => cases trailing <;> exact Nat.succ_pos _
  | cons p ps => exact Nat.succ_pos _

/-- The first argument and what follows it.  It is neither named nor unpacked nor a generator. -/
theorem arguments_spells {t : Tier} (hp : Spells t e p) (htakes : Takes expression 0 0 p e)
    {phase : ArgumentPhase} (hphase : phase = .start ∨ phase = .positional)
    {further : List Lexeme} {es : List Expr} (hfurther : Follows 0 further)
    (hn : 32 * p.length ≤ n)
    (hrest : argumentsAfter (n + 1) .positional further = some ((es, []), rest)) :
    arguments (n + 2) phase (p ++ further) = some ((e :: es, []), rest) := by
  have hphase' : (decide (phase = .named) || decide (phase = .unpacked)) = false := by
    rcases hphase with rfl | rfl <;> rfl
  have hthree : Follows 3 further := hfurther.mono (by omega)
  have hstarts : Starts (p ++ further) := hp.starts.append further
  have harg : named (n + 1) (p ++ further) = some (e, further) := by
    rw [hp.named hthree]
    exact htakes n further hn hfurther
  rw [arguments.eq_6 _ _ _ (fun _ => hstarts.ne_mark (by decide))
    (fun _ => hstarts.ne_mark (by decide)) (fun _ => hstarts.ne_mark (by decide))
    (fun _ _ => hp.ne_name_mark hthree (by decide)), hphase', harg]
  simp [takeFor?_follows hthree, hrest]

theorem takes_furtherLexemes {as : List (Expr × List Lexeme)}
    (hspells : ∀ a ∈ as, Spells .sum a.1 a.2)
    (htakes : ∀ a ∈ as, Takes expression 0 0 a.2 a.1) (trailing : Bool)
    (hn : 32 * (furtherLexemes trailing (as.map (·.2))).length ≤ n) (rest : List Lexeme) :
    argumentsAfter n .positional (furtherLexemes trailing (as.map (·.2)) ++ rest) =
      some ((as.map (·.1), []), rest) := by
  induction as generalizing n with
  | nil =>
    cases trailing with
    | true =>
      obtain ⟨m, rfl⟩ : ∃ m, n = m + 2 := ⟨n - 2, by
        simp only [furtherLexemes, List.map_nil, if_true, List.length_cons, List.length_nil] at hn
        omega⟩
      rfl
    | false =>
      obtain ⟨m, rfl⟩ : ∃ m, n = m + 1 := ⟨n - 1, by
        simp only [furtherLexemes, List.map_nil, Bool.false_eq_true, if_false, List.length_cons,
          List.length_nil] at hn
        omega⟩
      rfl
  | cons a as ih =>
    obtain ⟨ha, has⟩ := List.forall_mem_cons.1 hspells
    obtain ⟨hta, htas⟩ := List.forall_mem_cons.1 htakes
    rw [List.map_cons, furtherLexemes, List.length_cons, List.length_append] at hn
    obtain ⟨m, rfl⟩ : ∃ m, n = m + 3 := ⟨n - 3, by omega⟩
    have hrest := ih (n := m + 1) has htas (by omega)
    change arguments (m + 2) .positional
      (a.2 ++ furtherLexemes trailing (as.map (·.2)) ++ rest) = _
    rw [List.append_assoc]
    exact arguments_spells ha hta (.inr rfl) (follows_furtherLexemes _ _ _) (by omega) hrest

theorem takes_argumentLexemes {as : List (Expr × List Lexeme)}
    (hspells : ∀ a ∈ as, Spells .sum a.1 a.2) (htakes : ∀ a ∈ as, Takes expression 0 0 a.2 a.1)
    {trailing : Bool} (hn : 32 * (argumentLexemes trailing (as.map (·.2))).length ≤ n)
    (rest : List Lexeme) :
    arguments n .start (argumentLexemes trailing (as.map (·.2)) ++ rest) =
      some ((as.map (·.1), []), rest) := by
  cases as with
  | nil =>
    simp only [argumentLexemes, List.map_nil, List.length_singleton] at hn
    obtain ⟨m, rfl⟩ : ∃ m, n = m + 1 := ⟨n - 1, by omega⟩
    rfl
  | cons a as =>
    obtain ⟨ha, has⟩ := List.forall_mem_cons.1 hspells
    obtain ⟨hta, htas⟩ := List.forall_mem_cons.1 htakes
    have hpos := ha.length_pos
    have hfurther := length_furtherLexemes_pos trailing (as.map (·.2))
    rw [List.map_cons, argumentLexemes, List.length_append] at hn
    obtain ⟨m, rfl⟩ : ∃ m, n = m + 2 := ⟨n - 2, by omega⟩
    have hrest := takes_furtherLexemes has htas trailing (n := m + 1) (by omega) rest
    rw [List.map_cons, argumentLexemes, List.append_assoc]
    exact arguments_spells ha hta (.inl rfl) (follows_furtherLexemes _ _ _) (by omega) hrest

/-- A call behind what is called. -/
theorem Leads.call {as : List (Expr × List Lexeme)} (hp : Leads primary (trailers · e) 14 4 p)
    (hspells : ∀ a ∈ as, Spells .sum a.1 a.2) (htakes : ∀ a ∈ as, Takes expression 0 0 a.2 a.1)
    (trailing : Bool) :
    Leads primary (trailers · (.call e (as.map (·.1)) [])) 14 4
      (p ++ .mark .leftParen :: argumentLexemes trailing (as.map (·.2))) := by
  intro n rest hn _
  rw [List.length_append, List.length_cons] at hn
  obtain ⟨k, hk, hlead⟩ := hp n
    (.mark .leftParen :: (argumentLexemes trailing (as.map (·.2)) ++ rest)) (by omega)
    (follows_four _)
  obtain ⟨j, rfl⟩ : ∃ j, k = j + 1 := ⟨k - 1, by omega⟩
  refine ⟨j, by rw [List.length_append, List.length_cons]; omega, ?_⟩
  rw [List.append_assoc, List.cons_append, hlead]
  change (arguments j .start (argumentLexemes trailing (as.map (·.2)) ++ rest)).bind
    (fun r => trailers j (.call e r.1.1 r.1.2) r.2) = _
  rw [takes_argumentLexemes hspells htakes (by omega) rest]
  rfl

/-! ## Reading is complete -/

/-- Lexemes are read as a tree at a tier. -/
def Reads (e : Expr) (p : List Lexeme) : Tier → Prop
  | .sum => Leads (operand · .sum) (chain · .sum e) 9 1 p
  | .term => Leads (operand · .term) (chain · .term e) 10 2 p
  | .factor => Takes (operand · .factor) 11 2 p e
  | .power => Takes (operand · .power) 12 2 p e ∧ AtomFirst p
  | .primary => Leads primary (trailers · e) 14 4 p ∧ AtomFirst p

theorem Leads.takes_primary (h : Leads primary (trailers · e) 14 4 p) (hp : 0 < p.length) :
    Takes primary 14 3 p e :=
  h.takes hp (by omega) (by omega) fun n _ hrest => trailers_follows hrest n e

theorem Reads.loosen {t : Tier} (hp : Spells t.next e p) (h : Reads e p t.next) : Reads e p t := by
  have hpos := hp.length_pos
  cases t with
  | sum => exact (Leads.takes_term h hpos).sum hpos
  | term => exact Takes.term h hpos
  | factor => exact h.1.factor h.2
  | power => exact ⟨(h.1.takes_primary hpos).power hpos hp.starts, h.2⟩
  | primary => exact h

theorem Reads.expression (hp : Spells .sum e p) (h : Reads e p .sum) : Takes expression 0 0 p e :=
  (Leads.takes_sum h hp.length_pos).expression hp.length_pos hp.starts

/-- A spelling is read as the tree it spells. -/
theorem Spells.reads {t : Tier} (h : Spells t e p) : Reads e p t := by
  have atomFirst : ∀ {l : Lexeme} (s : List Lexeme), (∀ m, l = .mark m → m = .leftParen) →
      AtomFirst (l :: s) := fun s hl => ⟨_, s, rfl, hl⟩
  induction h with
  | constant c => exact ⟨leads_single fun _ _ => rfl, atomFirst [] nofun⟩
  | name hid => exact ⟨leads_single fun _ _ => rfl, atomFirst [] nofun⟩
  | enclosed hp ih =>
    refine ⟨Takes.enclosed (Reads.expression hp ih) hp, atomFirst _ ?_⟩
    rintro m ⟨⟩
    rfl
  | call trailing hp hargs ih ihargs =>
    exact ⟨ih.1.call hargs (fun a ha => (ihargs a ha).expression (hargs a ha)) trailing,
      ih.2.append _⟩
  | power hp hq ihp ihq =>
    exact ⟨(ihp.1.takes_primary hp.length_pos).pow ihq hp.starts, ihp.2.append _⟩
  | signed hm hp ih => exact Takes.signed ih hm
  | chained hm hp hq ihp ihq =>
    cases hm with
    | plus =>
      exact Leads.binary ihp (Leads.takes_term ihq hq.length_pos) rfl (by decide) (by decide)
        hp.length_pos
    | minus =>
      exact Leads.binary ihp (Leads.takes_term ihq hq.length_pos) rfl (by decide) (by decide)
        hp.length_pos
    | star => exact Leads.binary ihp ihq rfl (by decide) (by decide) hp.length_pos
    | slash => exact Leads.binary ihp ihq rfl (by decide) (by decide) hp.length_pos
  | loosen hp ih => exact Reads.loosen hp ih

/-- Lexemes that spell a tree make it up, and line breaks may stand behind them. -/
theorem Spells.ofLexemes? (h : Spells .sum e p) (hrest : ∀ l ∈ rest, l = .newline) :
    ofLexemes? (p ++ rest) = some e := by
  have hspent : isSpent rest = true := by
    induction rest with
    | nil => rfl
    | cons l s ih =>
      obtain ⟨rfl, hs⟩ := List.forall_mem_cons.1 hrest
      exact ih hs
  have hfollows : Follows 0 rest := by
    intro l hl
    rw [hrest l (List.mem_of_mem_head? hl)]
    decide
  have hread : expression (fuel (p ++ rest)) (p ++ rest) = some (e, rest) := by
    refine Reads.expression h h.reads _ rest ?_ hfollows
    rw [fuel, List.length_append]
    omega
  rw [Expr.ofLexemes?, topLevel, hread]
  cases rest with
  | nil => rfl
  | cons l s =>
    obtain rfl := hrest l List.mem_cons_self
    change (if isSpent (.newline :: s) then some e else none) = some e
    rw [hspent]
    rfl

end Abacus.Expr
