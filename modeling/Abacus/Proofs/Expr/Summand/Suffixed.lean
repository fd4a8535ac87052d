import Abacus.Proofs.Expr.Summand.Marked
import Abacus.Proofs.Expr.Summand.Trailing
import Abacus.Proofs.Numeral.Bare

/-!
# A letter behind digits in front of a sum

Digits with the letter of their base behind them are neither a literal nor a name.  Promotion makes
a literal of them only if they are binary with a leading zero, and then takes the letter for a
digit.
-/

namespace Abacus.Expr

open Numeral (plain suffixes)
open Radix (isDigitBelow)
open Text (isBlank isLetter isWord)

variable {c l : Char} {b : Base} {blank : Bool} {d : Nat} {ds s v w : Text} {e : Expr}
  {ls : List Lexeme}

/-! ## The word -/

/-- The letters that stand behind digits, in both cases. -/
def suffixLetters : List Char := ['h', 'H', 'b', 'B', 'o', 'O']

theorem mem_suffixLetters (hm : (l, b) ∈ suffixes) (hc : isLetter l c) : c ∈ suffixLetters := by
  have hall : ∀ m ∈ suffixes, m.1 ∈ suffixLetters ∧ m.1.toUpper ∈ suffixLetters := by decide
  rcases (Numeral.isAffix_of_suffix hm).cases hc with rfl | rfl
  · exact (hall _ hm).1
  · exact (hall _ hm).2

theorem suffixLetters_class : ∀ c ∈ suffixLetters, isWordPart c ∧ isDecimalPart c = false ∧
    (c == '0') = false ∧ c ≠ '_' := by
  decide

/-- Digits of a base and its letter behind them, with low lines among them and no mark in front. -/
structure IsSuffixed (w ds : Text) (c : Char) (b : Base) : Prop where
  plain : plain w = ds ++ [c]
  letter : ∃ l, (l, b) ∈ suffixes ∧ isLetter l c
  digits : ∀ d ∈ ds, isDigitBelow b.val d
  unmarked : Numeral.markedBase? (Numeral.plain w) = none

theorem exists_isSuffixed (h : Numeral.Spells (plain w) .suffixed b ds) :
    ∃ c, IsSuffixed w ds c b := by
  generalize hs : plain w = s at h
  cases h with
  | suffixed hm hc hne hds hmark => exact ⟨_, hs, ⟨_, hm, hc⟩, hds, hs ▸ hmark⟩

namespace IsSuffixed

theorem mem_suffixLetters (h : IsSuffixed w ds c b) : c ∈ suffixLetters := by
  obtain ⟨l, hm, hc⟩ := h.letter
  exact Expr.mem_suffixLetters hm hc

theorem mem (h : IsSuffixed w ds c b) : c ∈ w := by
  have hmem : c ∈ Numeral.plain w := by simp [h.plain]
  exact (Numeral.mem_plain.1 hmem).1

theorem ne_nil (h : IsSuffixed w ds c b) : w ≠ [] := List.ne_nil_of_mem h.mem

theorem isWordPart_of_mem (h : IsSuffixed w ds c b) : ∀ e ∈ w, isWordPart e := by
  obtain ⟨l, hm, -⟩ := h.letter
  intro e he
  by_cases hline : e = '_'
  · rw [hline]
    decide
  have hmem : e ∈ Numeral.plain w := Numeral.mem_plain.2 ⟨he, hline⟩
  rw [h.plain] at hmem
  rcases List.mem_append.1 hmem with hmem | hmem
  · refine @isWordPart_of_isRunOf 16 e (by decide) ?_
    rw [isRunOf,
      Radix.isDigitBelow_mono (Numeral.isAffix_of_suffix hm).le_sixteen (h.digits e hmem)]
    rfl
  · rw [List.mem_singleton.1 hmem]
    exact (suffixLetters_class c h.mem_suffixLetters).1

/-- No name ends in one of the letters or in a low line. -/
theorem not_isAllowedName (h : IsSuffixed w ds c b) : isAllowedName w = false := by
  rw [Bool.eq_false_iff]
  intro hallowed
  obtain ⟨k, rfl⟩ := exists_name_of_isAllowedName hallowed
  have hnames : ∀ p ∈ Builtin.names, ∀ c ∈ p.1.getLast?, c ≠ '_' ∧ c ∉ suffixLetters := by
    decide
  obtain ⟨e, he, -⟩ := k.getLast?_text
  obtain ⟨hline, hletter⟩ := hnames _ k.mem_names e he
  obtain ⟨u, hu⟩ := List.getLast?_eq_some_iff.1 he
  have hplain := h.plain
  rw [hu, Numeral.plain_concat_of_ne hline] at hplain
  obtain rfl : e = c := List.singleton_inj.1 (List.append_inj_right' hplain rfl)
  exact hletter h.mem_suffixLetters

/-- Without a mark in front no literal is read. -/
theorem numberAt?_ne (h : IsSuffixed w ds c b) (hv : Stops v) (k : Constant) :
    numberAt? (w ++ v) ≠ some (k, v) := by
  intro hnumber
  have hbase := literalBase?_append h.ne_nil hv
  cases hw : literalBase? w with
  | some base =>
    obtain ⟨m, t, rfl, -, hm⟩ := literalBase?_eq_some hw
    have hmarks : ∀ m ∈ ['x', 'X', 'o', 'O', 'b', 'B'], m ≠ '_' ∧
        ∃ p ∈ Numeral.marks, isLetter p.1 m := by decide
    obtain ⟨hline, p, hp, hletter⟩ := hmarks m hm
    have hunmarked := h.unmarked
    rw [Numeral.plain_cons_of_ne (by decide), Numeral.plain_cons_of_ne hline,
      Numeral.markedBase?_eq_some.2 ⟨p.1, m, Numeral.plain t, hp, rfl, hletter⟩] at hunmarked
    cases hunmarked
  | none =>
    rw [hw] at hbase
    obtain ⟨-, u, hu, hdecimal⟩ := numberAt?_of_decimal hbase hnumber
    obtain rfl := List.append_cancel_right hu
    have hnot := (suffixLetters_class c h.mem_suffixLetters).2.1
    rw [hdecimal c h.mem] at hnot
    cases hnot

end IsSuffixed

/-- Promotion takes the letter for a digit or leaves the word alone. -/
theorem IsSuffixed.promote_eq (h : IsSuffixed w ds c b) :
    promote w = w ∨ LeadingZero w ∧ promote w = marked w := by
  by_cases hzero : LeadingZero w
  · refine .inr ⟨hzero, promote_leadingZero hzero ?_⟩
    rw [List.all_eq_false]
    exact ⟨c, h.mem, by simp [(suffixLetters_class c h.mem_suffixLetters).2.2.1]⟩
  · exact .inl (promote_of_word (fun e he => (wordPart (h.isWordPart_of_mem e he)).word) hzero)

/-- Of the letters only that of binary numerals is a digit. -/
theorem IsSuffixed.base_eq (h : IsSuffixed w ds c b) (hzero : LeadingZero w) : b = .two := by
  obtain ⟨l, hm, hc⟩ := h.letter
  have hall : ∀ m ∈ suffixes, ∀ e ∈ suffixLetters, isLetter m.1 e → isRunOf 16 e → m.2 = .two := by
    decide
  exact hall _ hm c h.mem_suffixLetters hc (hzero.digits c h.mem)

/-- A word that is no name has no other form. -/
theorem withOwnNames_of_word (hw : ∀ c ∈ w, isWordPart c) (h : isAllowedName w = false) :
    withOwnNames w = w := by
  have hclass : ∀ c ∈ w, bindsName c ∧ c ≠ '^' := fun c hc =>
    Text.ascii_induction (P := fun c => isWordPart c → bindsName c ∧ c ≠ '^') (by decide +kernel)
      (wordPart (hw c hc)).ascii (hw c hc)
  have hcaret : '^' ∉ w := fun hmem => (hclass _ hmem).2 rfl
  cases w with
  | nil => rfl
  | cons c u =>
    have hnone : nameLength? none (c :: u) = none := by
      rw [nameLength?, List.takeWhile_eq_self_iff.2 fun e he => (wordPart (hw e he)).word, h]
      rfl
    have hrest := @ownNamesFrom_append (some c) u
      (fun e he => (hclass e (List.mem_cons_of_mem c he)).1) (hclass c List.mem_cons_self).1 []
    rw [List.append_nil] at hrest
    have hnames : ownNamesFrom none (c :: u) = c :: u := by
      rw [ownNamesFrom, Text.replaceFrom_cons_of_none hnone]
      refine congrArg (c :: ·) (hrest.trans ?_)
      exact List.append_nil u
    rw [withOwnNames_eq, hnames, flatMap_expandCaret_eq_self hcaret]

/-! ## Signs -/

/-- The signs that are split off a numeral, and whether they make it negative. -/
inductive Signs : Bool → Text → Prop
  | none : Signs false []
  | plus : Signs false ['+']
  | minus : Signs true ['-']
  | both : Signs true ['+', '-']

theorem exists_signs (s : Text) :
    ∃ signs, s = signs ++ (Numeral.splitSigns s).2 ∧ Signs (Numeral.splitSigns s).1 signs := by
  unfold Numeral.splitSigns
  split
  · dsimp only
    split
    · exact ⟨['+', '-'], rfl, .both⟩
    · exact ⟨['+'], rfl, .plus⟩
  · dsimp only
    split
    · exact ⟨['-'], rfl, .minus⟩
    · exact ⟨[], rfl, .none⟩

theorem Signs.isSign {negative : Bool} (h : Signs negative s) : ∀ c ∈ s, Numeral.isSign c := by
  cases h <;> decide

/-- The lexemes of signs. -/
def signLexemes (s : Text) : List Lexeme :=
  s.map fun c => .mark (if c == '-' then .minus else .plus)

/-- Signs in front of a word are lexemes by themselves. -/
theorem Lexes.of_signs (hs : ∀ c ∈ s, Numeral.isSign c) (hv : ∀ e ∈ v.head?, isWordPart e)
    (h : Lexes d (s ++ v) ls) : ∃ ls', ls = signLexemes s ++ ls' ∧ Lexes d v ls' := by
  induction s generalizing ls with
  | nil => exact ⟨ls, rfl, h⟩
  | cons c s ih =>
    obtain ⟨hc, htail⟩ := List.forall_mem_cons.1 hs
    have hnext : ∀ e ∈ (s ++ v).head?, e ≠ '=' ∧ e ≠ '>' := by
      intro e he
      cases s with
      | nil =>
        have hword := hv e he
        constructor <;> rintro rfl <;> cases hword
      | cons c' s =>
        cases he
        have hsign := htail _ List.mem_cons_self
        constructor <;> rintro rfl <;> cases hsign
    rw [Numeral.isSign, Bool.or_eq_true, beq_iff_eq, beq_iff_eq] at hc
    rw [List.cons_append] at h
    rcases hc with rfl | rfl
    · obtain ⟨ls₁, rfl, hrest⟩ := (lexes_mark_iff (m := .plus) (by decide) fun e he => by
        simpa [Mark.extenders] using (hnext e he).1).1 h
      obtain ⟨ls', rfl, hlexes⟩ := ih htail hrest
      exact ⟨ls', rfl, hlexes⟩
    · obtain ⟨ls₁, rfl, hrest⟩ := (lexes_mark_iff (m := .minus) (by decide) fun e he => by
        simpa [Mark.extenders] using hnext e he).1 h
      obtain ⟨ls', rfl, hlexes⟩ := ih htail hrest
      exact ⟨ls', rfl, hlexes⟩

/-- A number behind signs is read with its sign. -/
theorem Signs.exists_signedNumber {negative : Bool} (h : Signs negative s) (k : Constant) :
    ∃ a, SignedNumber a (signLexemes s ++ [.number k]) ∧
      evaluate a = (evaluate (.constant k)).map (signedValue negative) := by
  have hunary : ∀ {op : UnaryOp} {g : Float → Float} (a : Expr), unaryOperation? op = some g →
      evaluate (.unary op a) = (evaluate a).map g := by
    intro op g a hop
    rw [evaluate]
    cases evaluate a with
    | error f => rfl
    | ok x =>
      rw [hop]
      rfl
  have hnumber := SignedNumber.number k
  cases h with
  | none =>
    refine ⟨_, hnumber, ?_⟩
    cases evaluate (.constant k) <;> rfl
  | plus => exact ⟨_, .signed .plus hnumber, hunary _ rfl⟩
  | minus => exact ⟨_, .signed .minus hnumber, hunary _ rfl⟩
  | both =>
    refine ⟨_, .signed .plus (.signed .minus hnumber), ?_⟩
    rw [hunary _ rfl, hunary _ rfl]
    cases evaluate (.constant k) <;> rfl

/-! ## Sums -/

/-- Behind the blanks of a text that is trailed there is a blank or an arrow. -/
theorem Trails.head? (hv : Trails blank v) (s : Text) :
    ∀ e ∈ (v ++ ' ' :: s).head?, isBlank e ∨ e = '-' := by
  have hblanks : ∀ {x : Text} (y : Text), x ≠ [] → (∀ c ∈ x, isBlank c) →
      ∀ e ∈ (x ++ y).head?, isBlank e ∨ e = '-' := by
    intro x y hne hx e he
    obtain ⟨c, x, rfl⟩ := List.exists_cons_of_ne_nil hne
    cases he
    exact .inl (hx _ List.mem_cons_self)
  cases hv with
  | blanks hv =>
    by_cases hne : v = []
    · subst hne
      rintro _ ⟨⟩
      exact .inl rfl
    · exact hblanks _ hne hv
  | @arrow v hv t =>
    by_cases hne : v = []
    · subst hne
      rintro _ ⟨⟩
      exact .inr rfl
    · rw [List.append_assoc]
      exact hblanks _ hne hv
  | name hv hne hs =>
    rw [List.append_assoc]
    exact hblanks _ hne hv

theorem not_isWordPart_of_trails (h : isBlank c ∨ c = '-') : isWordPart c = false := by
  rcases h with hblank | rfl
  · exact Bool.eq_false_iff.2 fun hpart => by simp [(wordPart hpart).not_blank] at hblank
  · decide

/-- The word is no lexeme of a calculation, unless it is marked. -/
theorem IsSuffixed.not_lexes (h : IsSuffixed w ds c b) (hv : Trails blank v)
    (hls : Lexes d (w ++ (v ++ ' ' :: s)) ls) (hclean : Clean ls) : False := by
  have hhead := hv.head? s
  generalize v ++ ' ' :: s = t at hls hhead
  have hword := fun e he => not_isWordPart_of_trails (hhead e he)
  obtain ⟨a, q, hw⟩ := List.exists_cons_of_ne_nil h.ne_nil
  have hparts := h.isWordPart_of_mem
  rw [hw] at hls hparts
  by_cases hdigit : a.isDigit
  · have hletter : ∃ e ∈ a :: q, isDecimalPart e = false :=
      ⟨c, hw ▸ h.mem, (suffixLetters_class c h.mem_suffixLetters).2.1⟩
    obtain ⟨k, -, hnumber, hstops, -⟩ :=
      Lexes.of_figure hls hclean hdigit hparts hword (.inl hletter)
    exact h.numberAt?_ne hstops k (hw ▸ hnumber)
  · have hallowed := Lexes.isAllowedName_of_word hls hclean (by simpa using hdigit) hparts (by
      intro e he
      rcases hhead e he with hblank | rfl
      · exact .inr hblank
      · exact .inl (by decide))
    rw [← hw, h.not_isAllowedName] at hallowed
    cases hallowed

/-- A marked word is a number in front of what trails it. -/
theorem LeadingZero.lexes_marked (h : LeadingZero w) (hv : Trails blank v)
    (hls : Lexes d (marked w ++ (v ++ ' ' :: s)) ls) (hclean : Clean ls) :
    ∃ ls', ls = .number (.integer (markedValue w)) :: ls' ∧ Lexes d (v ++ ' ' :: s) ls' := by
  have hhead := hv.head? s
  generalize v ++ ' ' :: s = t at hls hhead ⊢
  have hparts : ∀ e ∈ marked w, isWordPart e :=
    (h.forall_mem (fun c => isWordPart_of_isRunOf (by decide)) (by decide)).2
  obtain ⟨k, ls', hnumber, hstops, rfl, hrest⟩ := Lexes.of_figure (w := 'x' :: w.filter (· != '_'))
    hls hclean (by decide) hparts (fun e he => not_isWordPart_of_trails (hhead e he))
    (.inl ⟨'x', by simp, by decide⟩)
  have hmarked := numberAt?_marked_append h hstops
  rw [marked, hnumber] at hmarked
  cases hmarked
  exact ⟨ls', rfl, hrest⟩

theorem not_isBlank_of_isSign (h : Numeral.isSign c) : isBlank c = false ∧ c ≠ '#' ∧ c ≠ '\r' := by
  rw [Numeral.isSign, Bool.or_eq_true, beq_iff_eq, beq_iff_eq] at h
  rcases h with rfl | rfl <;> decide

/-- A word of letters, digits and low lines keeps its place through all passes. -/
theorem exists_lexes_of_word {negative : Bool} {u signs x r : Text} {z : Float}
    (hu : ∀ c ∈ u, isBlank c) (hsigns : Signs negative signs) (hx : ∀ c ∈ x, isWordPart c)
    (hne : x ≠ []) (hown : withOwnNames x = x) (hv : Trails blank v)
    (hz : attempt (plusEnclosed (u ++ (signs ++ (x ++ v))) r) = .ok z) :
    ∃ v' e p rest ls, Trails blank v' ∧ '\x00' ∉ withOwnNames r ∧
      p ++ rest = signLexemes signs ++ ls ∧
      Lexes 0 (x ++ (v' ++ ' ' :: '+' :: ' ' :: enclosedText (ownLines r))) ls ∧ Spells .sum e p ∧
        (∀ l ∈ rest, l = .newline) ∧ result e = .ok z := by
  obtain ⟨v', hown', hv'⟩ :=
    isPass_withOwnNames.exists_trails (fun _ => startsName_withOwnNames) hv x
  have hplain : ∀ c ∈ signs ++ x, isBlank c = false ∧ c ≠ '#' ∧ c ≠ '\r' := by
    refine List.forall_mem_append.2 ⟨fun c hc => not_isBlank_of_isSign (hsigns.isSign c hc), ?_⟩
    intro c hc
    have hword := wordPart (hx c hc)
    refine ⟨hword.not_blank, ?_, ?_⟩ <;> rintro rfl <;> cases hword.name
  have hcuts : ∀ c ∈ signs, IsCut c := by
    cases hsigns <;> decide
  have hpasses : withOwnNames (u ++ (signs ++ (x ++ v))) = u ++ (signs ++ x ++ v') := by
    rw [isPass_withOwnNames.append_of_cuts fun c hc => isCut_of_isBlank (hu c hc),
      isPass_withOwnNames.append_of_cuts hcuts, hown', hown, List.append_assoc]
  obtain ⟨c, t, hct⟩ := List.exists_cons_of_ne_nil (List.append_ne_nil_of_right_ne_nil signs hne)
  have hlines : unifiedBreaks (c :: (t ++ v')) = signs ++ x ++ unifiedBreaks v' := by
    rw [← List.cons_append, ← hct]
    exact unifiedBreaks_append (fun hmem => (hplain _ hmem).2.2 rfl) v'
  obtain ⟨hblank, hhash, -⟩ := hplain c (by rw [hct]; exact List.mem_cons_self)
  rw [hct, List.cons_append] at hpasses
  obtain ⟨e, p, rest, hzero, hlexes, hp, hrest, hz⟩ :=
    exists_lexes_of_attempt hpasses hu hblank hhash hz
  rw [hlines, plusEnclosed, List.append_assoc, List.append_assoc] at hlexes
  obtain ⟨ls, heq, hlexes⟩ := Lexes.of_signs hsigns.isSign (by
    obtain ⟨a, q, rfl⟩ := List.exists_cons_of_ne_nil hne
    rintro _ ⟨⟩
    exact hx _ List.mem_cons_self) hlexes
  exact ⟨_, e, p, rest, ls, hv'.unifiedBreaks, hzero, heq, hlexes, hp, hrest, hz⟩

/-- A word with the letter of its base counts in a sum only if it is marked, as the number that the
mark gives it. -/
theorem IsSuffixed.exists_of_attempt {negative : Bool} {u signs x r : Text} {z : Float}
    (h : IsSuffixed w ds c b) (hu : ∀ c ∈ u, isBlank c) (hsigns : Signs negative signs)
    (hv : Trails blank v) (hr : SelfContained r) (hx : x = w ∨ LeadingZero w ∧ x = marked w)
    (hz : attempt (plusEnclosed (u ++ (signs ++ (x ++ v))) r) = .ok z) :
    blank = true ∧ LeadingZero w ∧ x = marked w ∧ ∃ y y' e', integerValue (markedValue w) = .ok y ∧
      ofText? (enclosedText r) = some e' ∧ evaluate e' = .ok y' ∧
        z = signedValue negative y + y' := by
  rcases hx with rfl | ⟨hzero, rfl⟩
  · exfalso
    obtain ⟨v', e, p, rest, ls, hv', -, heq, hlexes, hp, hrest, -⟩ := exists_lexes_of_word hu hsigns
      h.isWordPart_of_mem h.ne_nil (withOwnNames_of_word h.isWordPart_of_mem h.not_isAllowedName)
      hv hz
    exact h.not_lexes hv' hlexes (Clean.right (heq ▸ hp.clean hrest))
  · obtain ⟨v', e, p, rest, ls, hv', hnull, heq, hlexes, hp, hrest, hz⟩ :=
      exists_lexes_of_word hu hsigns
        (hzero.forall_mem (fun c => isWordPart_of_isRunOf (by decide)) (by decide)).2
      (by simp [marked]) (withOwnNames_leadingZero hzero).2 hv hz
    obtain ⟨ls₁, rfl, hrest₁⟩ := hzero.lexes_marked hv' hlexes (Clean.right (heq ▸ hp.clean hrest))
    obtain ⟨hblank, ls₂, rfl, hsummand⟩ := hv'.exists_plus hrest₁ hp hrest heq
    obtain ⟨a, ha, hvalue⟩ := hsigns.exists_signedNumber (.integer (markedValue w))
    obtain ⟨hz, -⟩ := result_eq_ok.1 hz
    obtain ⟨e', he', rfl⟩ := ofText?_of_sum hr ha hnull hsummand hp hz hrest
      (by rw [heq, List.append_assoc]; rfl)
    obtain ⟨-, ⟨y, hy⟩, y', hy'⟩ := evaluate_binary_ok hz
    rw [evaluate_add hy hy'] at hz
    cases hz
    rw [hvalue] at hy
    cases hk : evaluate (.constant (.integer (markedValue w))) with
    | error f =>
      rw [hk] at hy
      cases hy
    | ok y₁ =>
      rw [hk] at hy
      cases hy
      exact ⟨hblank, hzero, rfl, y₁, y', e', evaluate_integer.1 hk, he', hy', rfl⟩

end Abacus.Expr
