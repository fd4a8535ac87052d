import Abacus.Proofs.Expr.Lexing.Grouping
import Abacus.Proofs.Expr.Summand.Cuts

/-!
# Lexemes of texts in parentheses behind a plus

A text in parentheses is read by itself, wherever it stands.  Behind a number with a plus it makes
up a sum, and no other tree is read off such a text.
-/

namespace Abacus.Expr

open Text (isBlank)

variable {d : Nat} {c : Char} {s t u v w p r : Text} {a e : Expr} {l : Lexeme}
  {ls q rest : List Lexeme}

/-! ## Single steps -/

theorem lexes_lexeme_iff (hp : p ≠ []) (hstep : step? d (p ++ v) = some (some l, p.length)) :
    Lexes d (p ++ v) ls ↔ ∃ ls', ls = l :: ls' ∧ Lexes (l.depthAfter d) v ls' := by
  constructor
  · exact fun h => h.of_lexeme hp hstep
  · rintro ⟨ls', rfl, h⟩
    exact .lexeme hp hstep h

theorem lexes_skip_iff (hp : p ≠ []) (hstep : step? d (p ++ v) = some (none, p.length)) :
    Lexes d (p ++ v) ls ↔ Lexes d v ls :=
  ⟨fun h => h.of_skip hp hstep, fun h => .skip hp hstep h⟩

theorem lexes_gap_iff (hc : isGap c) : Lexes d (c :: v) ls ↔ Lexes d v ls :=
  lexes_skip_iff (p := [c]) (List.cons_ne_nil c []) (step?_gap hc d v)

/-- A sign is a lexeme by itself where nothing extends it. -/
theorem lexes_mark_iff {m : Mark} (hm : ([c], m) ∈ plainMarks)
    (hv : ∀ e ∈ v.head?, e ∉ m.extenders) :
    Lexes d (c :: v) ls ↔
      ∃ ls', ls = .mark m :: ls' ∧ Lexes ((Lexeme.mark m).depthAfter d) v ls' := by
  have hclass : ∀ k ∈ plainMarks, ∀ e ∈ k.1.head?, isGap e = false ∧ (e == '#') = false ∧
      (e == '\n') = false ∧ e ≠ '.' ∧ e.isDigit = false ∧ isNamePart e = false := by
    decide +kernel
  obtain ⟨hgap, hhash, hbreak, hpoint, hdigit, hname⟩ := hclass _ hm c rfl
  have hmark : markAt? (c :: v) = some (m, 1) := (markAt?_iff hm v).2 hv
  refine lexes_lexeme_iff (p := [c]) (List.cons_ne_nil c []) ?_
  rw [List.singleton_append, step?, hgap, hhash, hbreak, startsNumber_cons hpoint, hdigit, hname,
    hmark]
  rfl

theorem lexes_plus_iff : Lexes d (' ' :: '+' :: ' ' :: v) ls ↔
    ∃ ls', ls = .mark .plus :: ls' ∧ Lexes d v ls' := by
  have hplus := @lexes_mark_iff d '+' (' ' :: v) ls .plus (by decide) (by simp [Mark.extenders])
  rw [lexes_gap_iff (by decide), hplus]
  exact exists_congr fun ls' => and_congr_right fun _ => lexes_gap_iff (by decide)

/-! ## Texts without blanks in front -/

/-- In a text that starts with a lexeme no lines are passed over. -/
theorem lexemes?_of_head (hc : isBlank c = false) (hhash : c ≠ '#') :
    lexemes? (c :: s) = some ls ↔ '\x00' ∉ c :: s ∧ Lexes 0 (unifiedBreaks (c :: s)) ls := by
  have hne : ∀ e, isBlank e = true → c ≠ e := by
    rintro _ he rfl
    rw [hc] at he
    cases he
  have hgap : isGap c = false := by
    rw [← Bool.not_eq_true, isGap_iff, not_or, not_or]
    exact ⟨hne ' ' (by decide), hne '\t' (by decide), hne '\x0c' (by decide)⟩
  rw [lexemes?_eq_some, unifiedBreaks_cons (hne '\r' (by decide)),
    skipEmptyLines_cons hgap hhash (hne '\n' (by decide))]
  simp

/-- The text whose lexemes are taken, but for blanks at its ends. -/
def ownLines (s : Text) : Text := unifiedBreaks (withOwnNames s)

theorem groups_ownLines (s : Text) : groups (ownLines s) = groups s := by
  rw [ownLines, groups_unifiedBreaks, groups_withOwnNames]

theorem parentheses_ownLines (s : Text) : parentheses (ownLines s) = parentheses s := by
  rw [parentheses_eq_filterMap, groups_ownLines, ← parentheses_eq_filterMap]

theorem hash_mem_ownLines : '#' ∈ ownLines s ↔ '#' ∈ s := by
  rw [← hash_mem_groups, groups_ownLines, hash_mem_groups]

theorem lexemes?_enclosedText : lexemes? (Text.trim (withOwnNames (enclosedText r))) = some ls ↔
    '\x00' ∉ withOwnNames r ∧ Lexes 0 (enclosedText (ownLines r)) ls := by
  rw [isPass_withOwnNames.enclosedText, trim_enclosedText]
  have hhead := @lexemes?_of_head '(' (withOwnNames r ++ [')']) ls (by decide) (by decide)
  rw [enclosedText, hhead]
  change _ ∧ Lexes 0 (unifiedBreaks (enclosedText _)) ls ↔ _
  rw [unifiedBreaks_enclosedText]
  simp [ownLines]

theorem lexemes?_plusEnclosed (hu : withOwnNames u = t ++ c :: w) (ht : ∀ c ∈ t, isBlank c)
    (hc : isBlank c = false) (hhash : c ≠ '#') :
    lexemes? (Text.trim (withOwnNames (plusEnclosed u r))) = some ls ↔ '\x00' ∉ c :: w ∧
      '\x00' ∉ withOwnNames r ∧
        Lexes 0 (plusEnclosed (unifiedBreaks (c :: w)) (ownLines r)) ls := by
  have hhead := @lexemes?_of_head c (w ++ ' ' :: '+' :: ' ' :: enclosedText (withOwnNames r)) ls
    hc hhash
  rw [isPass_withOwnNames.plusEnclosed, hu, trim_plusEnclosed ht ⟨c, w, rfl, hc⟩, plusEnclosed,
    List.cons_append, hhead]
  change _ ∧ Lexes 0 (unifiedBreaks (plusEnclosed (c :: w) _)) ls ↔ _
  rw [unifiedBreaks_plusEnclosed]
  simp [ownLines, enclosedText, and_assoc]

/-! ## Trees -/

theorem Spells.ofLexemes?_eq (h : Spells .sum e q) : Expr.ofLexemes? q = some e := by
  have hread := @Spells.ofLexemes? e q [] h nofun
  rwa [List.append_nil] at hread

/-- The parentheses of a text are all its own. -/
structure SelfContained (s : Text) : Prop where
  balanced : Balanced (parentheses s)
  hash_notMem : '#' ∉ s

theorem SelfContained.closed (hr : SelfContained r) (h : Lexes d (enclosedText (ownLines r)) ls) :
    Closed ls :=
  h.closed (fun hmem => hr.hash_notMem (hash_mem_ownLines.1 hmem))
    (by rw [parentheses_ownLines]; exact hr.balanced)

theorem head?_of_enclosedText (h : Lexes d (enclosedText s) ls) :
    ls.head? = some (.mark .leftParen) := by
  obtain ⟨ls', rfl, -⟩ := (lexes_mark_iff (m := .leftParen) (by decide)
    (by simp [Mark.extenders])).1 h
  rfl

/-- A text in parentheses is read as a tree with a value where its lexemes spell the tree. -/
theorem ofText?_enclosedText {x : Float} (hr : SelfContained r) (he : evaluate e = .ok x) :
    ofText? (enclosedText r) = some e ↔ '\x00' ∉ withOwnNames r ∧
      ∃ ls, Lexes 0 (enclosedText (ownLines r)) ls ∧ Spells .sum e ls := by
  rw [ofText?]
  constructor
  · intro h
    cases hls : lexemes? (Text.trim (withOwnNames (enclosedText r))) with
    | none =>
      rw [hls] at h
      cases h
    | some ls =>
      rw [hls] at h
      obtain ⟨hzero, hlexes⟩ := lexemes?_enclosedText.1 hls
      obtain ⟨c, hc⟩ := exists_calculation? fun n hn => admitted_of_occurs hn he
      obtain ⟨p, rest, rfl, hp, hrest⟩ := spells_of_ofLexemes? h hc
      obtain rfl := hr.closed hlexes p rest rfl hp.balanced (List.length_pos_iff.1 hp.length_pos)
      rw [List.append_nil] at hlexes
      exact ⟨hzero, p, hlexes, hp⟩
  · rintro ⟨hzero, ls, hls, h⟩
    rw [lexemes?_enclosedText.2 ⟨hzero, hls⟩]
    exact h.ofLexemes?_eq

/-- Only one tree is spelled by a number with signs. -/
theorem SignedNumber.eq_of_spells (h : SignedNumber a q) (he : Spells .sum e q) : e = a := by
  have hsum : Spells .sum a q := .loosen (t := .sum) (.loosen (t := .term) h.spells)
  exact Option.some.inj (he.ofLexemes?_eq.symm.trans hsum.ofLexemes?_eq)

theorem evaluate_add {b : Expr} {x y : Float} (ha : evaluate a = .ok x) (hb : evaluate b = .ok y) :
    evaluate (.binary .add a b) = .ok (x + y) := by
  rw [evaluate, ha, hb]
  rfl

theorem evaluate_integer {n : Nat} {x : Float} :
    evaluate (.constant (.integer n)) = .ok x ↔ integerValue n = .ok x := by
  rw [evaluate, literalValue, mapError_eq_ok]

/-- What is read off lexemes of a number, a plus and a text in parentheses is the sum of the number
and what is read off that text. -/
theorem ofText?_of_sum (hr : SelfContained r) (hp : SignedNumber a q)
    (hzero : '\x00' ∉ withOwnNames r) (hls : Lexes 0 (enclosedText (ownLines r)) ls) {x : Float}
    {p : List Lexeme} (h : Spells .sum e p) (hx : evaluate e = .ok x)
    (hrest : ∀ l ∈ rest, l = .newline) (heq : p ++ rest = q ++ .mark .plus :: ls) :
    ∃ b, ofText? (enclosedText r) = some b ∧ e = .binary .add a b := by
  obtain ⟨a', b, ha, hb, rfl⟩ := h.exists_of_sum hp (hr.closed hls) hrest heq
  obtain ⟨y, hy⟩ := (evaluate_binary_ok hx).2.2
  exact ⟨b, (ofText?_enclosedText hr hy).2 ⟨hzero, ls, hls, hb⟩, by rw [hp.eq_of_spells ha]⟩

/-- A sum with a value is read off the lexemes of its parts. -/
theorem exists_lexes_of_attempt {z : Float} (hu : withOwnNames u = t ++ c :: w)
    (ht : ∀ c ∈ t, isBlank c) (hc : isBlank c = false) (hhash : c ≠ '#')
    (h : attempt (plusEnclosed u r) = .ok z) : ∃ e p rest, '\x00' ∉ withOwnNames r ∧
      Lexes 0 (plusEnclosed (unifiedBreaks (c :: w)) (ownLines r)) (p ++ rest) ∧
        Spells .sum e p ∧ (∀ l ∈ rest, l = .newline) ∧ result e = .ok z := by
  obtain ⟨e, p, rest, hls, hp, hrest, hz⟩ := exists_spells h
  obtain ⟨-, hzero, hlexes⟩ := (lexemes?_plusEnclosed hu ht hc hhash).1 hls
  exact ⟨e, p, rest, hzero, hlexes, hp, hrest, hz⟩

end Abacus.Expr
