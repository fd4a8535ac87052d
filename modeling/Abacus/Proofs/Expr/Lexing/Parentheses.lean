import Abacus.Proofs.Expr.Grammar.Sums
import Abacus.Proofs.Expr.Lexing.Words

/-!
# Parentheses in texts and among lexemes

In a text without comments every parenthesis is a lexeme, and every such lexeme is a parenthesis of
the text.  So the depth of parentheses can be followed in the text, and lexemes that keep the depth
and start where a text is enclosed in parentheses reach to its end.
-/

namespace Abacus.Expr

variable {d n k : Nat} {s u v p : Text} {ls q r : List Lexeme} {o : Option Lexeme}

/-! ## Depth -/

/-- One level further out nothing is closed that was not. -/
theorem depthBehind?_succ (h : depthBehind? n ls = some k) :
    depthBehind? (n + 1) ls = some (k + 1) := by
  fun_induction depthBehind? n ls with
  | case1 n =>
    cases h
    rfl
  | case2 n ls ih => exact ih h
  | case3 ls => cases h
  | case4 n ls ih => exact ih h
  | case5 n l ls hleft hzero hsucc ih =>
    rw [depthBehind?]
    · exact ih h
    · exact hleft
    · rintro ⟨⟩
    · rintro m - hl
      cases n with
      | zero => exact hzero rfl hl
      | succ n => exact hsucc n rfl hl

/-- A lexeme that is no parenthesis keeps the depth. -/
theorem depthBehind?_cons {l : Lexeme} (hleft : l ≠ .mark .leftParen)
    (hright : l ≠ .mark .rightParen) (n : Nat) (ls : List Lexeme) :
    depthBehind? n (l :: ls) = depthBehind? n ls := by
  rw [depthBehind?]
  · exact hleft
  · exact fun _ => hright
  · exact fun _ _ => hright

theorem balanced_nil : Balanced [] := fun _ => rfl

/-- Line breaks are no parentheses. -/
theorem balanced_of_newlines (h : ∀ l ∈ ls, l = .newline) : Balanced ls := by
  induction ls with
  | nil => exact balanced_nil
  | cons l ls ih =>
    obtain ⟨rfl, hls⟩ := List.forall_mem_cons.1 h
    exact fun n => (@depthBehind?_cons .newline nofun nofun n ls).trans (ih hls n)

/-! ## Parentheses of a text -/

/-- The lexeme of a parenthesis. -/
def parenthesis? (c : Char) : Option Lexeme :=
  if c = '(' then some (.mark .leftParen) else if c = ')' then some (.mark .rightParen) else none

/-- The parentheses of a text, as lexemes. -/
def parentheses (s : Text) : List Lexeme := s.filterMap parenthesis?

@[simp] theorem parentheses_append (u v : Text) :
    parentheses (u ++ v) = parentheses u ++ parentheses v := List.filterMap_append

theorem parentheses_eq_nil (h : ∀ c ∈ u, c ≠ '(' ∧ c ≠ ')') : parentheses u = [] := by
  rw [parentheses, List.filterMap_eq_nil_iff]
  intro c hc
  obtain ⟨hleft, hright⟩ := h c hc
  rw [parenthesis?, if_neg hleft, if_neg hright]

theorem parentheses_mark : ∀ k ∈ marks, k.2 = .leftParen ∧ k.1 = ['('] ∨
    k.2 = .rightParen ∧ k.1 = [')'] ∨
    (k.2 ≠ .leftParen ∧ k.2 ≠ .rightParen ∧ ∀ c ∈ k.1, c ≠ '(' ∧ c ≠ ')') := by
  decide

/-- What a step takes changes the depth as the lexeme does that comes of it. -/
theorem Taken.depthBehind? (h : Taken d p v o) (hhash : p.head? ≠ some '#') (n : Nat)
    (ls : List Lexeme) :
    depthBehind? n (o.toList ++ ls) = depthBehind? n (parentheses p ++ ls) := by
  have hword : ∀ {p : Text}, (∀ c ∈ p, isNamePart c) → ∀ c ∈ p, c ≠ '(' ∧ c ≠ ')' := by
    intro p hp c hc
    constructor <;> rintro rfl <;> cases hp _ hc
  cases h with
  | @gap c hp hc =>
    rw [hp, parentheses_eq_nil]
    · rfl
    · rcases isGap_iff.1 hc with rfl | rfl | rfl <;> decide
  | comment hstart => exact absurd hstart hhash
  | lineBreak hp =>
    have hnil : parentheses ['\n'] = [] := rfl
    rw [hp, hnil]
    split
    · exact @depthBehind?_cons .newline nofun nofun n ls
    · rfl
  | @number k hstart hnumber =>
    obtain ⟨p', hp', hparts⟩ := numberAt?_parts hnumber
    obtain rfl := List.append_cancel_right hp'
    rw [parentheses_eq_nil]
    · exact @depthBehind?_cons (.number k) nofun nofun n ls
    · intro c hc
      rcases hparts with hparts | hparts
      · constructor <;> rintro rfl <;> cases hparts _ hc
      · constructor <;> rintro rfl <;> cases hparts _ hc
  | @name l hname hl =>
    rw [parentheses_eq_nil (hword hname)]
    have hl := isWord_of_nameLexeme? hl
    refine depthBehind?_cons ?_ ?_ n ls <;> rintro rfl <;> cases hl
  | @mark m hm =>
    rcases parentheses_mark _ hm with ⟨hm, hp⟩ | ⟨hm, hp⟩ | ⟨hleft, hright, hp⟩
    · dsimp only at hm hp
      rw [hm, hp]
      rfl
    · dsimp only at hm hp
      rw [hm, hp]
      rfl
    · rw [parentheses_eq_nil hp]
      exact depthBehind?_cons (by simpa using hleft) (by simpa using hright) n ls

/-- Lexemes lead to the same depth as the part of the text that they are read off. -/
theorem Lexes.exists_append (h : Lexes d s (q ++ r)) (hhash : '#' ∉ s) : ∃ u v d', s = u ++ v ∧
    Lexes d' v r ∧ (q ≠ [] → u ≠ []) ∧ (r = [] → v = []) ∧
      ∀ n, Expr.depthBehind? n q = Expr.depthBehind? n (parentheses u) := by
  generalize hls : q ++ r = ls at h
  induction h generalizing q with
  | nil d =>
    obtain ⟨rfl, rfl⟩ := List.append_eq_nil_iff.1 hls
    exact ⟨[], [], d, rfl, .nil d, fun hne => absurd rfl hne, fun _ => rfl, fun _ => rfl⟩
  | @skip d p v ls hp hstep hrest ih =>
    rw [List.mem_append, not_or] at hhash
    obtain ⟨u, v', d', rfl, hv, -, hnil, hdepth⟩ := ih hhash.2 hls
    have hnone := (taken_of_step? hstep).depthBehind? fun h => hhash.1 (List.mem_of_mem_head? h)
    refine ⟨p ++ u, v', d', (List.append_assoc _ _ _).symm, hv, fun _ => by simp [hp], hnil,
      fun n => ?_⟩
    rw [hdepth, parentheses_append, ← hnone]
    rfl
  | @lexeme d p v l ls hp hstep hrest ih =>
    cases q with
    | nil =>
      rw [List.nil_append] at hls
      rw [hls]
      exact ⟨[], p ++ v, d, rfl, .lexeme hp hstep hrest, fun hne => absurd rfl hne, nofun,
        fun _ => rfl⟩
    | cons l' q =>
      obtain ⟨rfl, hls'⟩ := List.cons.inj hls
      rw [List.mem_append, not_or] at hhash
      obtain ⟨u, v', d', rfl, hv, -, hnil, hdepth⟩ := ih hhash.2 hls'
      have hsome := (taken_of_step? hstep).depthBehind? fun h =>
        hhash.1 (List.mem_of_mem_head? h)
      refine ⟨p ++ u, v', d', (List.append_assoc _ _ _).symm, hv, fun _ => by simp [hp], hnil,
        fun n => ?_⟩
      rw [parentheses_append, ← hsome]
      change Expr.depthBehind? n ([l'] ++ q) = Expr.depthBehind? n ([l'] ++ parentheses u)
      rw [depthBehind?_append, depthBehind?_append]
      exact congrArg _ (funext hdepth)

/-- The lexemes of a text are balanced if its parentheses are. -/
theorem Lexes.balanced_iff (h : Lexes d s ls) (hhash : '#' ∉ s) :
    Balanced ls ↔ Balanced (parentheses s) := by
  rw [← List.append_nil ls] at h
  obtain ⟨u, v, -, rfl, -, -, hnil, hdepth⟩ := h.exists_append hhash
  rw [hnil rfl, List.append_nil]
  exact forall_congr' fun n => by rw [hdepth]

/-! ## Texts in parentheses -/

/-- A text in parentheses. -/
def enclosedText (s : Text) : Text := '(' :: (s ++ [')'])

/-- Where a text is enclosed in parentheses, no beginning of its lexemes keeps the depth but all of
them. -/
theorem Lexes.closed (h : Lexes d (enclosedText s) ls) (hhash : '#' ∉ s)
    (hs : Balanced (parentheses s)) : Closed ls := by
  rintro q r rfl hq hne
  have hhash : '#' ∉ enclosedText s := by simpa [enclosedText] using hhash
  obtain ⟨u, v, d', huv, hv, hu, -, hdepth⟩ := h.exists_append hhash
  obtain ⟨c, u, rfl⟩ := List.exists_cons_of_ne_nil (hu hne)
  obtain ⟨rfl, hsplit⟩ : '(' = c ∧ s ++ [')'] = u ++ v := List.cons.inj huv
  rcases List.eq_nil_or_concat v with rfl | ⟨v, c, rfl⟩
  · exact hv.unique (.nil d')
  · -- the closing parenthesis is left, so that the depth has not been reached again
    exfalso
    rw [List.concat_eq_append, ← List.append_assoc] at hsplit
    obtain ⟨rfl, -⟩ := List.append_inj' hsplit rfl
    have hzero := hs 0
    rw [parentheses_append, depthBehind?_append, Option.bind_eq_some_iff] at hzero
    obtain ⟨k, hk, -⟩ := hzero
    have hopen : depthBehind? 0 (parentheses ('(' :: u)) = depthBehind? 1 (parentheses u) := rfl
    have hkept := hq 0
    rw [hdepth, hopen, depthBehind?_succ hk] at hkept
    cases hkept

end Abacus.Expr
