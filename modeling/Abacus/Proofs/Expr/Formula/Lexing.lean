import Abacus.Proofs.Expr.Formula.OwnNames
import Abacus.Proofs.Expr.Lexing.Lines
import Abacus.Proofs.Expr.Lexing.Step

/-!
# Formulas as lexemes

Each symbol is read as one lexeme.  The only symbols that cannot be read are numbers with more
figures than a literal may have.
-/

namespace Abacus.Expr

open Radix (digits)

def Operator.mark : Operator → Mark
  | .add => .plus
  | .sub => .minus
  | .mul => .star
  | .div => .slash
  | .pow => .doubleStar

namespace Symbol

/-- The lexeme that a symbol is read as. -/
def lexeme : Symbol → Lexeme
  | .number n => .number (.integer n)
  | .name k => .name k.own.text
  | .operator op => .mark op.mark
  | .opening => .mark .leftParen
  | .closing => .mark .rightParen
  | .comma => .mark .comma

/-- Whether a symbol can be read: a number may have so many figures only. -/
def isReadable : Symbol → Bool
  | .number n => (digits .ten n).length ≤ Text.digitLimit
  | _ => true

theorem source_ne_nil (s : Symbol) : s.source ≠ [] := by
  cases s with
  | number n => exact Radix.digits_ne_nil .ten n
  | name k => exact k.own.text_ne_nil
  | operator op => cases op <;> exact List.cons_ne_nil _ _
  | _ => exact List.cons_ne_nil _ _

theorem mem_chars_of_mem_source {s : Symbol} {c : Char} (h : c ∈ s.source) : c ∈ chars := by
  cases s with
  | number n => exact mem_chars_of_isDigit (Radix.isDigit_of_mem_digits h)
  | name k => exact mem_chars (s := .name k.own) h
  | operator op =>
    have hstars : ∀ c ∈ ['*', '*'], c ∈ chars := List.all_iff_forall_prop.1 (by decide)
    cases op with
    | pow => exact hstars c h
    | _ => exact mem_chars (s := .operator _) h
  | opening => exact mem_chars (s := .opening) h
  | closing => exact mem_chars (s := .closing) h
  | comma => exact mem_chars (s := .comma) h

end Symbol

theorem mem_chars_of_mem_symbolsSource {ss : List Symbol} {c : Char} (h : c ∈ symbolsSource ss) :
    c ∈ Symbol.chars := by
  obtain ⟨s, -, hs⟩ := List.mem_flatMap.1 h
  exact Symbol.mem_chars_of_mem_source hs

theorem not_isNamePart_of_mem_marks : ∀ c ∈ Symbol.marks, isNamePart c = false :=
  List.all_iff_forall_prop.1 (by decide)

/-! ## What may follow a symbol -/

/-- What follows a symbol: a mark behind a word, and no star and no slash behind an operator. -/
structure Behind (s : Symbol) (v : Text) : Prop where
  chars : ∀ c ∈ v.head?, c ∈ Symbol.chars
  word : s.isWord = true → ∀ c ∈ v.head?, c ∈ Symbol.marks
  tight : s.isTight = true → ∀ c ∈ v.head?, c ≠ '*' ∧ c ≠ '/'

theorem Symbol.head?_source_of_mark {s : Symbol} (h : s.isWord = false) :
    ∀ c ∈ s.source.head?, c ∈ Symbol.marks := by
  cases s with
  | number n => cases h
  | name k => cases h
  | operator op =>
    cases op <;> rintro c ⟨⟩ <;> decide
  | _ =>
    rintro c ⟨⟩
    decide

theorem Symbol.head?_source_of_not_tight {s : Symbol} (h : s.isTight = false) :
    ∀ c ∈ s.source.head?, c ≠ '*' ∧ c ≠ '/' := by
  cases s with
  | number n =>
    intro c hc
    have hdigit : c.isDigit := Radix.isDigit_of_mem_digits (List.mem_of_mem_head? hc)
    constructor <;> rintro rfl <;> cases hdigit
  | name k =>
    intro c hc
    have halpha : c.isAlpha := k.own.isAlpha_of_mem_head? c hc
    constructor <;> rintro rfl <;> cases halpha
  | operator op =>
    cases op with
    | add => rintro c ⟨⟩; decide
    | sub => rintro c ⟨⟩; decide
    | _ => cases h
  | _ => rintro c ⟨⟩; decide

theorem behind_symbolsSource {s : Symbol} {ss : List Symbol} (h : (s :: ss).IsChain Apart) :
    Behind s (symbolsSource ss) := by
  obtain ⟨hnext, -⟩ := List.isChain_cons.1 h
  cases ss with
  | nil => exact ⟨nofun, nofun, nofun⟩
  | cons t ss =>
    have hhead : (symbolsSource (t :: ss)).head? = t.source.head? := by
      obtain ⟨c, r, hcr⟩ := List.exists_cons_of_ne_nil t.source_ne_nil
      rw [symbolsSource_cons, hcr]
      rfl
    have hapart : Apart s t := hnext t rfl
    constructor
    · intro c hc
      exact mem_chars_of_mem_symbolsSource (List.mem_of_mem_head? hc)
    · intro hs
      rw [hhead]
      exact Symbol.head?_source_of_mark (hapart.words hs)
    · intro hs
      rw [hhead]
      exact Symbol.head?_source_of_not_tight (hapart.operators hs)

/-! ## Numbers -/

theorem ofFigures_digits (n : Nat) : Decimal.ofFigures (digits .ten n) = n := by
  have hvalue : ∀ d ∈ List.range 10, (Radix.digitChar d).toNat - 48 = d := by decide
  induction n using Radix.digits_induction .ten with
  | single n h =>
    rw [Radix.digits_of_lt h, Decimal.ofFigures, List.foldl_cons, hvalue n (List.mem_range.2 h)]
    simp
  | more n h ih =>
    have hrest : n % 10 < 10 := Nat.mod_lt n (by decide)
    rw [Radix.digits_of_le h, Decimal.ofFigures, List.foldl_append]
    change List.foldl _ (Decimal.ofFigures (digits .ten (n / 10))) [Radix.digitChar (n % 10)] = n
    rw [show Decimal.ofFigures (digits .ten (n / 10)) = n / 10 from ih, List.foldl_cons,
      hvalue _ (List.mem_range.2 hrest)]
    exact Nat.div_add_mod' n 10

theorem figuresValue?_digits (n : Nat) : figuresValue? (digits .ten n) =
    if (digits .ten n).length ≤ Text.digitLimit then some (.integer n) else none := by
  rcases Nat.eq_zero_or_pos n with rfl | hn
  · rw [Radix.digits_zero]
    rfl
  · have hhead := Radix.head?_digits_ne_zero .ten hn.ne'
    have hall : (digits .ten n).all (· == '0') = false := by
      obtain ⟨c, r, hcr⟩ := List.exists_cons_of_ne_nil (Radix.digits_ne_nil .ten n)
      rw [hcr, List.head?_cons, ne_eq, Option.some.injEq] at hhead
      rw [hcr, List.all_cons, beq_eq_false_iff_ne.2 hhead]
      rfl
    rw [figuresValue?, hall, beq_eq_false_iff_ne.2 hhead, ofFigures_digits]
    by_cases hlen : (digits .ten n).length ≤ Text.digitLimit
    · simp [hlen]
    · simp [Nat.lt_of_not_le hlen, hlen]

theorem stops_of_marks {v : Text} (hv : ∀ c ∈ v.head?, c ∈ Symbol.marks) : Stops v := by
  have hmark : ∀ c ∈ Symbol.marks, isStop c := List.all_iff_forall_prop.1 (by decide)
  exact fun c hc => hmark c (hv c hc)

theorem numberAt?_digits (n : Nat) {v : Text} (hv : ∀ c ∈ v.head?, c ∈ Symbol.marks) :
    numberAt? (digits .ten n ++ v) =
      if (digits .ten n).length ≤ Text.digitLimit then some (.integer n, v) else none := by
  rw [numberAt?_figures (Radix.digits_ne_nil .ten n) (fun c hc => Radix.isDigit_of_mem_digits hc)
    (stops_of_marks hv), figuresValue?_digits]
  split <;> rfl

/-! ## Lexemes -/

/-- The characters of formulas neither separate lexemes nor end a line. -/
theorem chars_not_gap : ∀ c ∈ Symbol.chars,
    isGap c = false ∧ (c == '#') = false ∧ (c == '\n') = false ∧ c ≠ '\r' ∧ c ≠ '\x00' :=
  List.all_iff_forall_prop.1 (by decide)

/-- The step at a character of a formula is a number, a name or a mark. -/
theorem step?_cons {c : Char} (hc : c ∈ Symbol.chars) (depth : Nat) (r : Text) :
    step? depth (c :: r) =
      if startsNumber (c :: r) then
        (numberAt? (c :: r)).map fun p => (some (.number p.1), (c :: r).length - p.2.length)
      else if isNamePart c then
        let run := (c :: r).takeWhile isNamePart
        (nameLexeme? run).map fun l => (some l, run.length)
      else (markAt? (c :: r)).map fun m => (some (.mark m.1), m.2) := by
  obtain ⟨hgap, hhash, hbreak, -, -⟩ := chars_not_gap c hc
  rw [step?]
  simp only [hgap, hhash, hbreak, Bool.false_eq_true, if_false]

theorem step?_number (n : Nat) {v : Text} (hv : ∀ c ∈ v.head?, c ∈ Symbol.marks) (depth : Nat) :
    step? depth (digits .ten n ++ v) =
      if (digits .ten n).length ≤ Text.digitLimit then
        some (some (.number (.integer n)), (digits .ten n).length)
      else none := by
  have hnumber := numberAt?_digits n hv
  obtain ⟨c, r, hcr⟩ := List.exists_cons_of_ne_nil (Radix.digits_ne_nil .ten n)
  have hdigit : c.isDigit := by
    refine Radix.isDigit_of_mem_digits (m := n) ?_
    rw [hcr]
    exact List.mem_cons_self
  have hpoint : c ≠ '.' := by
    rintro rfl
    cases hdigit
  rw [hcr, List.cons_append] at hnumber
  rw [hcr, List.cons_append, step?_cons (Symbol.mem_chars_of_isDigit hdigit),
    startsNumber_cons hpoint, hdigit, if_pos rfl, hnumber]
  split
  · simp only [Option.map_some, List.length_cons, List.length_append, Option.some.injEq,
      Prod.mk.injEq, true_and]
    omega
  · rfl

theorem step?_name (k : KnownName) {v : Text} (hv : ∀ c ∈ v.head?, c ∈ Symbol.marks)
    (depth : Nat) : step? depth (k.text ++ v) = some (some (.name k.text), k.text.length) := by
  have hpart : ∀ c ∈ k.text, isNamePart c = true :=
    List.all_eq_true.1 (k.forall_text (P := fun t => t.all isNamePart = true) (by decide))
  have hletter := k.isAlpha_of_mem_head?
  have hlexeme : nameLexeme? k.text = some (.name k.text) := by
    have hplain : keywords.lookup k.text = none ∧ (k.text.all fun c => c.toNat < 128) = true :=
      k.forall_text (P := fun t => keywords.lookup t = none ∧ (t.all fun c => c.toNat < 128) = true)
        (by decide +kernel)
    rw [nameLexeme?, hplain.1, hplain.2]
    rfl
  have hrun := Text.takeWhile_append_eq hpart fun c hc => not_isNamePart_of_mem_marks c (hv c hc)
  have hchars : ∀ c ∈ k.text, c ∈ Symbol.chars := fun c hc => Symbol.mem_chars (s := .name k) hc
  obtain ⟨c, r, hcr⟩ := List.exists_cons_of_ne_nil k.text_ne_nil
  rw [hcr] at hpart hletter hlexeme hrun hchars
  have halpha : c.isAlpha := hletter c rfl
  have hpoint : c ≠ '.' := by
    rintro rfl
    cases halpha
  rw [List.cons_append] at hrun
  rw [hcr, List.cons_append, step?_cons (hchars c List.mem_cons_self), startsNumber_cons hpoint,
    Text.not_isDigit_of_isAlpha halpha, hpart c List.mem_cons_self]
  simp only [Bool.false_eq_true, if_false, if_true, hrun, hlexeme]
  rfl

/-- Nothing behind a mark makes a longer mark of it. -/
theorem markAt?_source {s : Symbol} (hs : s.isWord = false) {v : Text} (h : Behind s v) :
    (markAt? (s.source ++ v)).map (fun m => (some (Lexeme.mark m.1), m.2)) =
      some (some s.lexeme, s.source.length) := by
  have hmark : ∃ m, s.lexeme = .mark m ∧ (s.source, m) ∈ plainMarks ∧
      (s.isTight = false → '*' ∉ m.extenders ∧ '/' ∉ m.extenders) := by
    cases s with
    | number n => cases hs
    | name k => cases hs
    | operator op => cases op <;> exact ⟨_, rfl, by decide, by decide⟩
    | _ => exact ⟨_, rfl, by decide, by decide⟩
  obtain ⟨m, hm, hmem, hloose⟩ := hmark
  have hext : ∀ c ∈ v.head?, c ∉ m.extenders := by
    have hnot : ∀ c ∈ Symbol.chars, '=' ≠ c ∧ '>' ≠ c :=
      List.all_iff_forall_prop.1 (by decide)
    have hfew : ∀ c ∈ m.extenders, c = '=' ∨ c = '>' ∨ c = '*' ∨ c = '/' := by
      cases m <;> simp [Mark.extenders]
    intro c hc hmem
    have hc' := hnot c (h.chars c hc)
    cases htight : s.isTight with
    | true =>
      have := h.tight htight c hc
      rcases hfew c hmem with rfl | rfl | rfl | rfl
      · exact hc'.1 rfl
      · exact hc'.2 rfl
      · exact this.1 rfl
      · exact this.2 rfl
    | false =>
      rcases hfew c hmem with rfl | rfl | rfl | rfl
      · exact hc'.1 rfl
      · exact hc'.2 rfl
      · exact (hloose htight).1 hmem
      · exact (hloose htight).2 hmem
  rw [(markAt?_iff hmem v).2 hext, hm]
  rfl

theorem step?_mark {s : Symbol} (hs : s.isWord = false) {v : Text} (h : Behind s v) (depth : Nat) :
    step? depth (s.source ++ v) = some (some s.lexeme, s.source.length) := by
  have hfound := markAt?_source hs h
  have hfirst := Symbol.head?_source_of_mark hs
  obtain ⟨c, r, hcr⟩ := List.exists_cons_of_ne_nil s.source_ne_nil
  rw [hcr] at hfound hfirst
  have hmark : c ∈ Symbol.marks := hfirst c rfl
  have hpoint : c ≠ '.' := by
    rintro rfl
    exact absurd hmark (by decide)
  rw [hcr, List.cons_append, step?_cons (Symbol.mem_chars_of_mem_marks hmark),
    startsNumber_cons hpoint, not_isDigit_of_mem_marks c hmark, not_isNamePart_of_mem_marks c hmark]
  simpa using hfound

/-- The step at a symbol takes the symbol. -/
theorem step?_source {s : Symbol} {v : Text} (h : Behind s v) (depth : Nat) :
    step? depth (s.source ++ v) =
      if s.isReadable then some (some s.lexeme, s.source.length) else none := by
  cases s with
  | number n =>
    rw [Symbol.source, step?_number n (h.word rfl), Symbol.isReadable]
    simp only [decide_eq_true_eq]
    rfl
  | name k => exact step?_name k.own (h.word rfl) depth
  | _ => exact step?_mark rfl h depth

theorem lexemesFrom_symbolsSource {ss : List Symbol} (hss : ss.IsChain Apart) (depth : Nat) :
    lexemesFrom 0 depth (symbolsSource ss) =
      if ss.all Symbol.isReadable then some (ss.map Symbol.lexeme) else none := by
  induction ss generalizing depth with
  | nil => rfl
  | cons s ss ih =>
    have hchain := (List.isChain_cons.1 hss).2
    have hstep := step?_source (behind_symbolsSource hss) depth
    obtain ⟨c, r, hcr⟩ := List.exists_cons_of_ne_nil s.source_ne_nil
    rw [hcr] at hstep
    rw [symbolsSource_cons, hcr, List.cons_append, lexemesFrom, ← List.cons_append, hstep]
    cases hs : s.isReadable with
    | false => simp [hs]
    | true =>
      simp only [if_true, List.length_cons, Nat.add_sub_cancel, lexemesFrom_skip]
      rw [ih hchain]
      cases hall : ss.all Symbol.isReadable with
      | false => simp [hall]
      | true => simp [hs, hall]

/-- The lexemes of the text of a phrase. -/
theorem lexemes?_symbolsSource {ss : List Symbol} (hss : Phrase ss) :
    lexemes? (symbolsSource ss) =
      if ss.all Symbol.isReadable then some (ss.map Symbol.lexeme) else none := by
  have hchars : ∀ c ∈ symbolsSource ss, _ := fun c hc =>
    chars_not_gap c (mem_chars_of_mem_symbolsSource hc)
  have hzero : (symbolsSource ss).contains '\x00' = false := by
    rw [List.contains_eq_mem, decide_eq_false_iff_not]
    exact fun h => (hchars _ h).2.2.2.2 rfl
  have hbreaks : unifiedBreaks (symbolsSource ss) = symbolsSource ss :=
    unifiedBreaks_eq_self fun h => (hchars _ h).2.2.2.1 rfl
  have hskip : skipEmptyLines ((symbolsSource ss).length + 1) (symbolsSource ss) =
      some (symbolsSource ss) := by
    obtain ⟨s, hs, -⟩ := hss.first
    obtain ⟨t, rfl⟩ := List.head?_eq_some_iff.1 hs
    obtain ⟨c, r, hcr⟩ := List.exists_cons_of_ne_nil s.source_ne_nil
    have hc : c ∈ Symbol.chars := by
      refine Symbol.mem_chars_of_mem_source (s := s) ?_
      rw [hcr]
      exact List.mem_cons_self
    rw [symbolsSource_cons, hcr]
    obtain ⟨hgap, hhash, hbreak, -, -⟩ := chars_not_gap c hc
    exact skipEmptyLines_cons hgap (by simpa using hhash) (by simpa using hbreak) _ _
  rw [lexemes?, hzero, hbreaks]
  simp only [Bool.false_eq_true, if_false, hskip]
  exact lexemesFrom_symbolsSource hss.chain 0

end Abacus.Expr
