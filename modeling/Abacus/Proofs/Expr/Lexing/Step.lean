import Abacus.Proofs.Expr.Grammar.Spelling
import Abacus.Proofs.Expr.Lexing.Lines
import Abacus.Proofs.Expr.Lexing.Number
import Mathlib.Data.List.Nodup

/-!
# Step by step through a text

`Lexes` relates a text to its lexemes, one step after the other.  A step takes at least one
character, and how it takes a lexeme of a calculation does not depend on what follows, as long as
the first character that follows is the same or is a blank, a line break or a closing parenthesis.
-/

namespace Abacus.Expr

variable {d : Nat} {s p v v' : Text} {l : Lexeme} {ls : List Lexeme}

/-! ## Steps -/

theorem ne_nil_of_mem_marks : ∀ k ∈ marks, k.1 ≠ [] := by decide

theorem exists_of_markAt? {m : Mark} {n : Nat} (h : markAt? s = some (m, n)) :
    ∃ k v, s = k ++ v ∧ (k, m) ∈ marks ∧ n = k.length := by
  obtain ⟨⟨k, m'⟩, hfind, heq⟩ := Option.map_eq_some_iff.1 h
  cases heq
  have hstarts : Text.startsWith s k = true :=
    List.find?_some (p := fun m : Text × Mark => Text.startsWith s m.1) hfind
  obtain ⟨v, hv⟩ := List.isPrefixOf_iff_prefix.1 hstarts
  exact ⟨k, v, hv.symm, List.mem_of_find?_eq_some hfind, rfl⟩

/-- What a step takes of a text, and what comes of it. -/
inductive Taken (d : Nat) (p v : Text) : Option Lexeme → Prop
  | gap {c : Char} : p = [c] → isGap c → Taken d p v none
  | comment : p.head? = some '#' → (∀ c ∈ p, c ≠ '\n') → (∀ c ∈ v.head?, c = '\n') →
      Taken d p v none
  | lineBreak : p = ['\n'] → Taken d p v (if d = 0 then some .newline else none)
  | number {c : Constant} : startsNumber (p ++ v) → numberAt? (p ++ v) = some (c, v) →
      Taken d p v (some (.number c))
  | name {l : Lexeme} : (∀ c ∈ p, isNamePart c) → nameLexeme? p = some l → Taken d p v (some l)
  | mark {m : Mark} : (p, m) ∈ marks → Taken d p v (some (.mark m))

/-- A step takes a part of the text from its start, at least one character. -/
theorem exists_of_step? {o : Option Lexeme} {n : Nat} (h : step? d s = some (o, n)) :
    ∃ p v, s = p ++ v ∧ p ≠ [] ∧ n = p.length ∧ Taken d p v o := by
  cases s with
  | nil => cases h
  | cons c s =>
    have hsplit {q : Char → Bool} : (c :: s).takeWhile q ++ (c :: s).dropWhile q = c :: s :=
      List.takeWhile_append_dropWhile
    have hne {q : Char → Bool} (hq : q c) : (c :: s).takeWhile q ≠ [] := by simp [hq]
    rw [step?] at h
    split at h
    · rename_i hgap
      cases h
      exact ⟨[c], s, rfl, List.cons_ne_nil c [], rfl, .gap rfl hgap⟩
    split at h
    · rename_i hhash
      cases h
      obtain rfl := beq_iff_eq.1 hhash
      refine ⟨_, _, hsplit.symm, hne rfl, rfl, .comment rfl (fun e he => ?_) fun e he => ?_⟩
      · simpa using List.mem_takeWhile_imp he
      · simpa using Text.not_of_mem_head?_dropWhile he
    split at h
    · rename_i hbreak
      cases h
      obtain rfl := beq_iff_eq.1 hbreak
      exact ⟨['\n'], s, rfl, List.cons_ne_nil _ [], rfl, .lineBreak rfl⟩
    split at h
    · rename_i hstart
      obtain ⟨⟨k, r⟩, hnumber, heq⟩ := Option.map_eq_some_iff.1 h
      cases heq
      have hlen := length_lt_of_numberAt? hstart hnumber
      obtain ⟨-, u, hu, -⟩ := numberAt?_eq_some hnumber
      rw [hu] at hlen hstart hnumber ⊢
      refine ⟨u, r, rfl, ?_, by simp, .number hstart hnumber⟩
      rintro rfl
      exact Nat.lt_irrefl _ hlen
    split at h
    · rename_i hname
      obtain ⟨k, hk, heq⟩ := Option.map_eq_some_iff.1 h
      cases heq
      exact ⟨_, _, hsplit.symm, hne hname, rfl, .name (fun e he => List.mem_takeWhile_imp he) hk⟩
    · obtain ⟨⟨m, n⟩, hmark, heq⟩ := Option.map_eq_some_iff.1 h
      cases heq
      obtain ⟨k, v, hk, hmem, rfl⟩ := exists_of_markAt? hmark
      exact ⟨k, v, hk, ne_nil_of_mem_marks _ hmem, rfl, .mark hmem⟩

theorem taken_of_step? {o : Option Lexeme} (h : step? d (p ++ v) = some (o, p.length)) :
    Taken d p v o := by
  obtain ⟨q, w, hs, -, hlen, htaken⟩ := exists_of_step? h
  obtain ⟨rfl, rfl⟩ := List.append_inj hs hlen
  exact htaken

/-- Only a line break depends on the depth. -/
theorem step?_depth {c : Char} (hc : c ≠ '\n') (d d' : Nat) (s : Text) :
    step? d (c :: s) = step? d' (c :: s) := by
  rw [step?, step?, beq_eq_false_iff_ne.2 hc]
  rfl

theorem step?_break (d : Nat) (s : Text) :
    step? d ('\n' :: s) = some (if d = 0 then some .newline else none, 1) := rfl

theorem step?_gap {c : Char} (hc : isGap c) (d : Nat) (s : Text) :
    step? d (c :: s) = some (none, 1) := by
  rw [step?, if_pos hc]

/-! ## Lexemes -/

/-- What belongs to the step before is passed over. -/
theorem lexemesFrom_skip (u v : Text) (depth : Nat) :
    lexemesFrom u.length depth (u ++ v) = lexemesFrom 0 depth v := by
  induction u with
  | nil => rfl
  | cons c u ih => rw [List.length_cons, List.cons_append, lexemesFrom, ih]

theorem lexemesFrom_of_skip (hp : p ≠ []) (h : step? d (p ++ v) = some (none, p.length)) :
    lexemesFrom 0 d (p ++ v) = lexemesFrom 0 d v := by
  obtain ⟨c, p, rfl⟩ := List.exists_cons_of_ne_nil hp
  rw [List.cons_append] at h
  rw [List.cons_append, lexemesFrom, h]
  exact lexemesFrom_skip p v d

theorem lexemesFrom_of_lexeme (hp : p ≠ []) (h : step? d (p ++ v) = some (some l, p.length)) :
    lexemesFrom 0 d (p ++ v) = (lexemesFrom 0 (l.depthAfter d) v).map (l :: ·) := by
  obtain ⟨c, p, rfl⟩ := List.exists_cons_of_ne_nil hp
  rw [List.cons_append] at h
  rw [List.cons_append, lexemesFrom, h]
  exact congrArg (Option.map (l :: ·)) (lexemesFrom_skip p v _)

/-- A text is taken step by step, from a depth on. -/
inductive Lexes : Nat → Text → List Lexeme → Prop
  | nil (d : Nat) : Lexes d [] []
  | skip {d : Nat} {p v : Text} {ls : List Lexeme} : p ≠ [] →
      step? d (p ++ v) = some (none, p.length) → Lexes d v ls → Lexes d (p ++ v) ls
  | lexeme {d : Nat} {p v : Text} {l : Lexeme} {ls : List Lexeme} : p ≠ [] →
      step? d (p ++ v) = some (some l, p.length) → Lexes (l.depthAfter d) v ls →
        Lexes d (p ++ v) (l :: ls)

theorem lexes_iff : Lexes d s ls ↔ lexemesFrom 0 d s = some ls := by
  constructor
  · intro h
    induction h with
    | nil d => rfl
    | skip hp hstep _ ih => rw [lexemesFrom_of_skip hp hstep, ih]
    | lexeme hp hstep _ ih => rw [lexemesFrom_of_lexeme hp hstep, ih]; rfl
  · intro h
    induction hn : s.length using Nat.strong_induction_on generalizing d s ls with
    | _ n ih =>
      cases s with
      | nil =>
        cases h
        exact .nil d
      | cons c r =>
        cases hstep : step? d (c :: r) with
        | none =>
          rw [lexemesFrom, hstep] at h
          cases h
        | some x =>
          obtain ⟨o, k⟩ := x
          obtain ⟨p, v, hs, hp, rfl, -⟩ := exists_of_step? hstep
          have hlen : v.length < n := by
            have := List.length_pos_iff.2 hp
            rw [← hn, hs, List.length_append]
            omega
          rw [hs] at h hstep ⊢
          cases o with
          | none =>
            rw [lexemesFrom_of_skip hp hstep] at h
            exact .skip hp hstep (ih _ hlen h rfl)
          | some l =>
            rw [lexemesFrom_of_lexeme hp hstep] at h
            obtain ⟨ls, hls, rfl⟩ := Option.map_eq_some_iff.1 h
            exact .lexeme hp hstep (ih _ hlen hls rfl)

theorem Lexes.unique {ls' : List Lexeme} (h : Lexes d s ls) (h' : Lexes d s ls') : ls = ls' :=
  Option.some.inj ((lexes_iff.1 h).symm.trans (lexes_iff.1 h'))

/-- What a text starts with is taken first. -/
theorem Lexes.of_lexeme (h : Lexes d (p ++ v) ls) (hp : p ≠ [])
    (hstep : step? d (p ++ v) = some (some l, p.length)) :
    ∃ ls', ls = l :: ls' ∧ Lexes (l.depthAfter d) v ls' := by
  rw [lexes_iff, lexemesFrom_of_lexeme hp hstep] at h
  obtain ⟨ls', hls', rfl⟩ := Option.map_eq_some_iff.1 h
  exact ⟨ls', rfl, lexes_iff.2 hls'⟩

theorem Lexes.of_skip (h : Lexes d (p ++ v) ls) (hp : p ≠ [])
    (hstep : step? d (p ++ v) = some (none, p.length)) : Lexes d v ls := by
  rw [lexes_iff, lexemesFrom_of_skip hp hstep] at h
  exact lexes_iff.2 h

/-- Where there are lexemes, the first step succeeds. -/
theorem Lexes.exists_step {c : Char} (h : Lexes d (c :: s) ls) :
    ∃ o n, step? d (c :: s) = some (o, n) := by
  rw [lexes_iff, lexemesFrom] at h
  cases hstep : step? d (c :: s) with
  | none =>
    rw [hstep] at h
    cases h
  | some x => exact ⟨x.1, x.2, rfl⟩

/-! ## Lexemes of calculations -/

/-- The marks of calculations as they are written. -/
def plainMarks : List (Text × Mark) :=
  [(['+'], .plus), (['-'], .minus), (['*'], .star), (['*', '*'], .doubleStar), (['/'], .slash),
    (['('], .leftParen), ([')'], .rightParen), ([','], .comma)]

theorem mem_marks_of_mem_plainMarks : ∀ k ∈ plainMarks, k ∈ marks := by decide

/-- The characters that make another mark of a mark in front of them. -/
def Mark.extenders : Mark → List Char
  | .plus | .doubleStar => ['=']
  | .minus => ['=', '>']
  | .star => ['*', '=']
  | .slash => ['/', '=']
  | _ => []

theorem mem_plainMarks {k : Text} {m : Mark} (h : (k, m) ∈ marks) (hm : m.isPlain) :
    (k, m) ∈ plainMarks := by
  have : ∀ x ∈ marks, x.2.isPlain → x ∈ plainMarks := by decide
  exact this _ h hm

/-- No mark that a text starts with is longer than the one that is found. -/
theorem length_le_of_markAt? {m : Mark} {n : Nat} (h : markAt? s = some (m, n)) {x : Text × Mark}
    (hx : x ∈ marks) (hs : Text.startsWith s x.1) : x.1.length ≤ n := by
  have hsorted : marks.Pairwise fun y x => x.1.length ≤ y.1.length := by decide
  obtain ⟨y, hfind, heq⟩ := Option.map_eq_some_iff.1 h
  cases heq
  obtain ⟨-, ys, zs, hmarks, hbefore⟩ := List.find?_eq_some_iff_append.1 hfind
  rw [hmarks, List.mem_append, List.mem_cons] at hx
  rw [hmarks, List.pairwise_append, List.pairwise_cons] at hsorted
  rcases hx with hx | rfl | hx
  · have := hbefore x hx
    rw [hs] at this
    cases this
  · exact Nat.le_refl _
  · exact hsorted.2.1.1 x hx

/-- The longest mark that a text starts with is found. -/
theorem markAt?_eq_some_iff {k : Text} {m : Mark} (hk : (k, m) ∈ marks) (v : Text) :
    markAt? (k ++ v) = some (m, k.length) ↔
      ∀ x ∈ marks, Text.startsWith (k ++ v) x.1 → x.1.length ≤ k.length := by
  have hnodup : (marks.map Prod.fst).Nodup := by decide
  have hstarts : Text.startsWith (k ++ v) k = true :=
    List.isPrefixOf_iff_prefix.2 (List.prefix_append k v)
  refine ⟨fun h x hx hs => length_le_of_markAt? h hx hs, fun h => ?_⟩
  cases hmark : markAt? (k ++ v) with
  | none =>
    have hnone := List.find?_eq_none.1 (Option.map_eq_none_iff.1 hmark) _ hk
    exact absurd hstarts hnone
  | some x =>
    obtain ⟨m', n⟩ := x
    obtain ⟨k', v', hs, hk', rfl⟩ := exists_of_markAt? hmark
    have hlen : k.length = k'.length := by
      refine Nat.le_antisymm (length_le_of_markAt? hmark hk hstarts) (h _ hk' ?_)
      rw [hs]
      exact List.isPrefixOf_iff_prefix.2 (List.prefix_append k' v')
    obtain rfl : k = k' := (List.append_inj hs hlen).1
    have hsame : (k, m') = (k, m) := List.inj_on_of_nodup_map hnodup hk' hk rfl
    rw [(Prod.mk.inj hsame).2]

theorem mem_marks_of_extender :
    ∀ k ∈ plainMarks, ∀ c ∈ k.2.extenders, ∃ x ∈ marks, x.1 = k.1 ++ [c] := by
  decide

theorem exists_extender : ∀ k ∈ plainMarks, ∀ x ∈ marks, k.1.isPrefixOf x.1 →
    k.1.length < x.1.length → ∃ c ∈ k.2.extenders, (k.1 ++ [c]).isPrefixOf x.1 := by
  decide

/-- A mark of calculations is found where no character extends it. -/
theorem markAt?_iff {k : Text} {m : Mark} (h : (k, m) ∈ plainMarks) (v : Text) :
    markAt? (k ++ v) = some (m, k.length) ↔ ∀ c ∈ v.head?, c ∉ m.extenders := by
  have hmem : (k, m) ∈ marks := mem_marks_of_mem_plainMarks _ h
  rw [markAt?_eq_some_iff hmem]
  constructor
  · intro hlongest c hc hext
    obtain ⟨u, rfl⟩ := List.head?_eq_some_iff.1 hc
    obtain ⟨x, hx, hxk⟩ : ∃ x ∈ marks, x.1 = k ++ [c] := mem_marks_of_extender _ h c hext
    have hlen := hlongest x hx (by
      rw [hxk]
      exact List.isPrefixOf_iff_prefix.2 ⟨u, by simp⟩)
    rw [hxk, List.length_append, List.length_singleton] at hlen
    omega
  · intro hv x hx hs
    by_contra hlen
    rw [Nat.not_le] at hlen
    have hxs : x.1 <+: k ++ v := List.isPrefixOf_iff_prefix.1 hs
    have hkx : k <+: x.1 :=
      List.prefix_of_prefix_length_le (List.prefix_append k v) hxs hlen.le
    obtain ⟨c, hext, hcx⟩ :=
      exists_extender _ h x hx (List.isPrefixOf_iff_prefix.2 hkx) hlen
    have hcv : [c] <+: v :=
      (List.prefix_append_right_inj k).1 ((List.isPrefixOf_iff_prefix.1 hcx).trans hxs)
    obtain ⟨u, rfl⟩ := hcv
    exact hv c rfl hext

/-- The characters that end a lexeme of a calculation in front of them: a closing parenthesis, the
blanks between lexemes and line breaks. -/
def closers : List Char := [')', ' ', '\t', '\x0c', '\n']

/-- What follows is the same at its first character, or starts with a character that ends a
lexeme. -/
def Resembles (v' v : Text) : Prop := v'.head? = v.head? ∨ ∃ c ∈ closers, v'.head? = some c

theorem Resembles.head (h : Resembles v' v) {P : Char → Prop} (hv : ∀ c ∈ v.head?, P c)
    (hclosers : ∀ c ∈ closers, P c) : ∀ c ∈ v'.head?, P c := by
  intro c hc
  rcases h with h | ⟨d, hd, h⟩
  · exact hv c (h ▸ hc)
  · rw [h] at hc
    cases hc
    exact hclosers c hd

theorem Resembles.stops (h : Resembles v' v) (hv : Stops v) : Stops v' :=
  h.head hv (List.all_iff_forall_prop.1 (by decide))

theorem startsNumber_cons {c : Char} (hc : c ≠ '.') (r : Text) :
    startsNumber (c :: r) = c.isDigit := by
  rw [startsNumber.eq_def]
  split
  · rename_i h
    exact absurd (List.cons.inj h).1 hc
  · rename_i h
    rw [(List.cons.inj h).1]
  · rename_i h
    cases h

theorem not_stops_of_startsNumber (h : startsNumber s) : ¬ Stops s := by
  intro hs
  cases s with
  | nil => cases h
  | cons c s =>
    have hstop := hs c rfl
    by_cases hc : c = '.'
    · rw [hc] at hstop
      cases hstop
    · rw [startsNumber_cons hc] at h
      rw [isStop, isNamePart_of_isDigit h] at hstop
      cases hstop

theorem startsNumber_append {c : Char} {q : Text} (h : Resembles v' v)
    (hv : c = '.' → q = [] → ∀ e ∈ v.head?, e.isDigit = false) :
    startsNumber (c :: (q ++ v')) = startsNumber (c :: (q ++ v)) := by
  by_cases hc : c = '.'
  · subst hc
    cases q with
    | cons e q => rfl
    | nil =>
      have hnone : ∀ w : Text, (∀ c ∈ w.head?, c.isDigit = false) →
          startsNumber ('.' :: w) = false := by
        intro w hw
        cases w with
        | nil => rfl
        | cons e w => exact hw e rfl
      rw [List.nil_append, List.nil_append, hnone v (hv rfl rfl),
        hnone v' (h.head (hv rfl rfl) (by decide))]
  · rw [startsNumber_cons hc, startsNumber_cons hc]

theorem numberAt?_length {c : Constant} {r : Text} (h : numberAt? (p ++ v) = some (c, r))
    (hlen : (p ++ v).length - r.length = p.length) : r = v := by
  obtain ⟨-, u, hu, -⟩ := numberAt?_eq_some h
  have hup : u.length = p.length := by
    have := congrArg List.length hu
    simp only [List.length_append] at this hlen
    omega
  exact (List.append_inj hu.symm hup).2

/-- A mark of calculations is found in front of what resembles what follows it. -/
theorem markAt?_append {m : Mark} (hm : m.isPlain) (hv : Resembles v' v)
    (h : markAt? (p ++ v) = some (m, p.length)) : markAt? (p ++ v') = some (m, p.length) := by
  obtain ⟨k, w, hk, hmem, hlen⟩ := exists_of_markAt? h
  obtain rfl : p = k := (List.append_inj hk hlen).1
  have hplain := mem_plainMarks hmem hm
  have hclosers : ∀ m : Mark, ∀ c ∈ closers, c ∉ m.extenders := by
    intro m
    cases m <;> decide
  exact (markAt?_iff hplain v').2 (hv.head ((markAt?_iff hplain v).1 h) (hclosers m))

/-- A number is taken in front of what resembles what follows it, if no part of another literal
follows. -/
theorem numberStep_append {o : Option Lexeme} (hp : p ≠ []) (hv : Resembles v' v)
    (hstops : ∀ c, o = some (.number c) → Stops v)
    (h : (numberAt? (p ++ v)).map (fun x => (some (.number x.1), (p ++ v).length - x.2.length)) =
      some (o, p.length)) :
    Stops v ∧ (numberAt? (p ++ v')).map
      (fun x => (some (.number x.1), (p ++ v').length - x.2.length)) = some (o, p.length) := by
  obtain ⟨⟨k, r⟩, hnumber, heq⟩ := Option.map_eq_some_iff.1 h
  simp only [Prod.mk.injEq] at heq
  obtain ⟨rfl, hlen⟩ := heq
  obtain rfl : r = v := numberAt?_length hnumber hlen
  have hr : Stops r := hstops k rfl
  refine ⟨hr, ?_⟩
  rw [numberAt?_append hp hr (hv.stops hr) hnumber, Option.map_some, List.length_append,
    Nat.add_sub_cancel]

/-- A name is taken in front of what resembles what follows it. -/
theorem nameStep_append {o : Option Lexeme} (hv : Resembles v' v)
    (h : (nameLexeme? ((p ++ v).takeWhile isNamePart)).map
      (fun l => (some l, ((p ++ v).takeWhile isNamePart).length)) = some (o, p.length)) :
    (nameLexeme? ((p ++ v').takeWhile isNamePart)).map
      (fun l => (some l, ((p ++ v').takeWhile isNamePart).length)) = some (o, p.length) := by
  have hlen : ((p ++ v).takeWhile isNamePart).length = p.length := by
    obtain ⟨l, -, heq⟩ := Option.map_eq_some_iff.1 h
    exact (Prod.mk.inj heq).2
  obtain ⟨hp, hstop⟩ := Text.of_length_takeWhile hlen
  rw [Text.takeWhile_append_eq hp hstop] at h
  rwa [Text.takeWhile_append_eq hp (hv.head hstop (by decide))]

/-- A mark of calculations is taken in front of what resembles what follows it. -/
theorem markStep_append {o : Option Lexeme} (hv : Resembles v' v)
    (hplain : ∀ l ∈ o, l.isPlain ∨ l = .newline)
    (h : (markAt? (p ++ v)).map (fun x => (some (.mark x.1), x.2)) = some (o, p.length)) :
    (markAt? (p ++ v')).map (fun x => (some (.mark x.1), x.2)) = some (o, p.length) := by
  obtain ⟨⟨m, n⟩, hmark, heq⟩ := Option.map_eq_some_iff.1 h
  simp only [Prod.mk.injEq] at heq
  obtain ⟨rfl, rfl⟩ := heq
  have hm : m.isPlain := (hplain _ rfl).resolve_right nofun
  rw [markAt?_append hm hv hmark, Option.map_some]

/-- How a lexeme of a calculation is taken does not depend on what follows.  Behind a number no
part of another literal may follow. -/
theorem step?_append {o : Option Lexeme} (hp : p ≠ [])
    (h : step? d (p ++ v) = some (o, p.length)) (hhash : p.head? ≠ some '#')
    (hplain : ∀ l ∈ o, l.isPlain ∨ l = .newline) (hstops : ∀ c, o = some (.number c) → Stops v)
    (hv : Resembles v' v) : step? d (p ++ v') = some (o, p.length) := by
  obtain ⟨c, q, rfl⟩ := List.exists_cons_of_ne_nil hp
  have hc : (c == '#') = false := by simpa using hhash
  rw [List.cons_append, step?, hc, if_neg Bool.false_ne_true] at h ⊢
  by_cases hgap : isGap c = true
  · rwa [if_pos hgap] at h ⊢
  rw [if_neg hgap] at h ⊢
  by_cases hbreak : (c == '\n') = true
  · rwa [if_pos hbreak] at h ⊢
  rw [if_neg hbreak] at h ⊢
  by_cases hstart : startsNumber (c :: (q ++ v)) = true
  · rw [if_pos hstart] at h
    obtain ⟨hr, hstep⟩ := numberStep_append (p := c :: q) hp hv hstops h
    have hfigure : ∀ c ∈ v.head?, c.isDigit = false := fun c hc =>
      (Bool.or_eq_false_iff.1 (isFigurePart_of_isStop (hr c hc))).1
    rw [startsNumber_append hv fun _ _ => hfigure, if_pos hstart]
    exact hstep
  have hfigure : c = '.' → q = [] → ∀ e ∈ v.head?, e.isDigit = false := by
    rintro rfl rfl e he
    obtain ⟨r, rfl⟩ := List.head?_eq_some_iff.1 he
    exact Bool.not_eq_true _ ▸ hstart
  rw [if_neg hstart] at h
  rw [startsNumber_append hv hfigure, if_neg hstart]
  by_cases hname : isNamePart c = true
  · rw [if_pos hname] at h ⊢
    exact nameStep_append (p := c :: q) hv h
  · rw [if_neg hname] at h ⊢
    exact markStep_append (p := c :: q) hv hplain h

/-! ## Behind a number -/

theorem nameLexeme?_ne_number {c : Constant} : nameLexeme? s ≠ some (.number c) := by
  intro h
  rw [nameLexeme?] at h
  split at h
  · cases h
  · split at h
    · cases h
    · split at h <;> cases h

theorem isWord_of_nameLexeme? (h : nameLexeme? s = some l) : l.isWord := by
  rw [nameLexeme?] at h
  split at h
  · cases h
    rfl
  · split at h
    · cases h
      rfl
    · split at h
      · cases h
        rfl
      · cases h

/-- At a part of a name a word is taken. -/
theorem Lexes.exists_word {c : Char} (h : Lexes d (c :: s) ls) (hc : isNamePart c) :
    ∃ l ls', ls = l :: ls' ∧ l.isWord := by
  have hne : ∀ e ∈ [' ', '\t', '\x0c', '#', '\n'], c ≠ e := by
    rintro e he rfl
    have hnot : ∀ e ∈ [' ', '\t', '\x0c', '#', '\n'], isNamePart e = false :=
      List.all_iff_forall_prop.1 (by decide)
    rw [hnot c he] at hc
    cases hc
  simp only [List.forall_mem_cons] at hne
  obtain ⟨hspace, htab, hfeed, hhash, hbreak, -⟩ := hne
  have hgap : ¬ isGap c = true := by
    rw [isGap_iff]
    simp [hspace, htab, hfeed]
  obtain ⟨o, n, hstep⟩ := h.exists_step
  have hword : ∃ l, o = some l ∧ l.isWord := by
    rw [step?, if_neg hgap, if_neg (by simpa using hhash), if_neg (by simpa using hbreak),
      if_pos hc] at hstep
    split at hstep
    · obtain ⟨k, -, heq⟩ := Option.map_eq_some_iff.1 hstep
      cases heq
      exact ⟨_, rfl, rfl⟩
    · obtain ⟨l, hl, heq⟩ := Option.map_eq_some_iff.1 hstep
      cases heq
      exact ⟨l, rfl, isWord_of_nameLexeme? hl⟩
  obtain ⟨l, rfl, hl⟩ := hword
  obtain ⟨p, v, hs, hp, rfl, -⟩ := exists_of_step? hstep
  rw [hs] at h hstep
  obtain ⟨ls', hls, -⟩ := h.of_lexeme hp hstep
  exact ⟨l, ls', hls, hl⟩

/-- At a point there is a number or a mark that no calculation has. -/
theorem Lexes.of_point (h : Lexes d ('.' :: s) ls) :
    ∃ l ls', ls = l :: ls' ∧ (l.isWord ∨ l.isPlain = false ∧ l ≠ .newline) := by
  have hmarks : ∀ k ∈ marks, k.1.head? = some '.' → k.2.isPlain = false := by decide
  obtain ⟨o, n, hstep⟩ := h.exists_step
  have hlexeme : ∃ l, o = some l ∧ (l.isWord ∨ l.isPlain = false ∧ l ≠ .newline) := by
    rw [step?, if_neg (by decide), if_neg (by decide), if_neg (by decide)] at hstep
    split at hstep
    · obtain ⟨k, -, heq⟩ := Option.map_eq_some_iff.1 hstep
      cases heq
      exact ⟨_, rfl, .inl rfl⟩
    · rw [if_neg (by decide)] at hstep
      obtain ⟨⟨m, n⟩, hmark, heq⟩ := Option.map_eq_some_iff.1 hstep
      cases heq
      obtain ⟨k, w, hk, hmem, rfl⟩ := exists_of_markAt? hmark
      refine ⟨_, rfl, .inr ⟨hmarks _ hmem ?_, nofun⟩⟩
      obtain ⟨c, t, rfl⟩ := List.exists_cons_of_ne_nil (ne_nil_of_mem_marks _ hmem)
      rw [(List.cons.inj hk).1]
      rfl
  obtain ⟨l, rfl, hl⟩ := hlexeme
  obtain ⟨p, v, hs, hp, rfl, -⟩ := exists_of_step? hstep
  rw [hs] at h hstep
  obtain ⟨ls', hls, -⟩ := h.of_lexeme hp hstep
  exact ⟨l, ls', hls, hl⟩

/-- Lexemes of a calculation, among which line breaks may stand. -/
structure Clean (ls : List Lexeme) : Prop where
  plain : ∀ l ∈ ls, l.isPlain ∨ l = .newline
  parted : ls.IsChain Lexeme.Parted

theorem Clean.tail (h : Clean (l :: ls)) : Clean ls :=
  ⟨fun k hk => h.plain k (List.mem_cons_of_mem l hk), (List.isChain_cons.1 h.parted).2⟩

theorem Clean.head (h : Clean (l :: ls)) : l.isPlain ∨ l = .newline := h.plain l List.mem_cons_self

theorem parted_newline (l : Lexeme) : l.Parted .newline := by
  cases l <;> trivial

/-- Lexemes that spell a tree, with line breaks behind them. -/
theorem Spells.clean {t : Tier} {e : Expr} {q rest : List Lexeme} (h : Spells t e q)
    (hrest : ∀ l ∈ rest, l = .newline) : Clean (q ++ rest) := by
  have hchain : rest.IsChain Lexeme.Parted := by
    clear h
    induction rest with
    | nil => exact List.isChain_nil
    | cons l rest ih =>
      obtain ⟨rfl, hbreaks⟩ := List.forall_mem_cons.1 hrest
      exact List.isChain_cons.2 ⟨fun _ _ => trivial, ih hbreaks⟩
  constructor
  · exact List.forall_mem_append.2
      ⟨fun l hl => .inl (h.isPlain l hl), fun l hl => .inr (hrest l hl)⟩
  · refine List.isChain_append.2 ⟨h.isChain, hchain, fun l _ k hk => ?_⟩
    rw [hrest k (List.mem_of_mem_head? hk)]
    exact parted_newline l

/-- Behind a number of a calculation the text stops. -/
theorem Lexes.stops {c : Constant} (h : Lexes d s ls) (hclean : Clean (.number c :: ls)) :
    Stops s := by
  have hnext : ∀ l ls', ls = l :: ls' → l.isWord = false ∧ (l.isPlain ∨ l = .newline) := by
    rintro l ls' rfl
    exact ⟨(List.isChain_cons.1 hclean.parted).1 l rfl, hclean.tail.head⟩
  intro e he
  obtain ⟨t, rfl⟩ := List.head?_eq_some_iff.1 he
  by_contra hstop
  have hpart : isNamePart e = true ∨ (e == '.') = true := by
    cases hname : isNamePart e with
    | true => exact .inl rfl
    | false => exact .inr (by simpa [isStop, hname] using hstop)
  rcases hpart with hname | hpoint
  · obtain ⟨l, ls', hls, hword⟩ := h.exists_word hname
    rw [(hnext l ls' hls).1] at hword
    cases hword
  · rw [beq_iff_eq.1 hpoint] at h
    obtain ⟨l, ls', hls, hword | ⟨hplain, hbreak⟩⟩ := h.of_point
    · rw [(hnext l ls' hls).1] at hword
      cases hword
    · rcases (hnext l ls' hls).2 with hl | hl
      · rw [hl] at hplain
        cases hplain
      · exact hbreak hl

end Abacus.Expr
