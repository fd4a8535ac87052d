import Abacus.Proofs.Expr.Summand.Reading

/-!
# Values in parentheses

A text that has a value keeps it in parentheses, if the blanks at its ends are blanks between
lexemes or line breaks: inside parentheses a line break is passed over as a gap is.  Other blanks
are trimmed from the ends of a text and are no part of an expression anywhere else.
-/

namespace Abacus.Expr

open Text (isBlank)

variable {d k n : Nat} {c : Char} {l : Lexeme} {s u v r : Text} {ls p rest : List Lexeme}
  {x : Float}

/-! ## One level deeper -/

/-- In parentheses a lexeme leaves one level more behind it than outside. -/
theorem depthBehind?_of_isPlain (hl : l.isPlain) (h : depthBehind? d (l :: p) = some k) :
    l.depthAfter (d + 1) = l.depthAfter d + 1 ∧ depthBehind? (l.depthAfter d) p = some k := by
  cases l with
  | mark m =>
    cases m with
    | leftParen => exact ⟨rfl, h⟩
    | rightParen =>
      cases d with
      | zero => cases h
      | succ d => exact ⟨rfl, h⟩
    | _ => first | exact ⟨rfl, h⟩ | cases hl
  | keyword k => cases hl
  | newline => cases hl
  | _ => exact ⟨rfl, h⟩

/-- Only a line break is taken in another way one level deeper. -/
theorem step?_deeper {o : Option Lexeme} (hp : s ≠ []) (h : step? d (s ++ v) = some (o, s.length))
    (ho : o ≠ some .newline) : step? (d + 1) (s ++ v) = some (o, s.length) := by
  obtain ⟨c, s, rfl⟩ := List.exists_cons_of_ne_nil hp
  by_cases hc : c = '\n'
  · subst hc
    rw [List.cons_append, step?_break] at h ⊢
    simp only [Option.some.injEq, Prod.mk.injEq] at h
    obtain ⟨rfl, hlen⟩ := h
    rw [← hlen, if_neg (Nat.succ_ne_zero d)]
    split at ho
    · exact absurd rfl ho
    · rw [if_neg (by assumption)]
  · rwa [List.cons_append, step?_depth hc (d + 1) d]

/-- A line break is the only text of its lexeme. -/
theorem eq_of_step?_newline (h : step? d (s ++ v) = some (some .newline, s.length)) :
    s = ['\n'] := by
  generalize ho : some Lexeme.newline = o at h
  cases taken_of_step? h with
  | lineBreak hs => exact hs
  | @name l _ hl =>
    cases ho
    cases isWord_of_nameLexeme? hl
  | _ => cases ho

theorem resembles_append (hv : ∀ c ∈ v.head?, c ∈ closers) (u : Text) : Resembles (u ++ v) u := by
  cases u with
  | cons c u => exact .inl rfl
  | nil =>
    cases v with
    | nil => exact .inl rfl
    | cons c v => exact .inr ⟨c, hv c rfl, rfl⟩

/-- The lexemes of a calculation are the same one level deeper, with something behind that ends
lexemes; the line breaks at the end are passed over. -/
theorem Lexes.deeper (h : Lexes d s (p ++ rest)) (hclean : Clean (p ++ rest)) (hhash : '#' ∉ s)
    (hp : ∀ l ∈ p, l.isPlain) (hrest : ∀ l ∈ rest, l = .newline)
    (hdepth : depthBehind? d p = some k)
    (hv : ∀ c ∈ v.head?, c ∈ closers) (hls : Lexes (k + 1) v ls) :
    Lexes (d + 1) (s ++ v) (p ++ ls) := by
  generalize hq : p ++ rest = q at h hclean
  induction h generalizing p rest with
  | nil d =>
    obtain ⟨rfl, rfl⟩ := List.append_eq_nil_iff.1 hq
    cases hdepth
    exact hls
  | @skip d w u q hw hstep _ ih =>
    rw [List.mem_append, not_or] at hhash
    have htail := ih hhash.2 hp hrest hdepth hq hclean
    have happend := step?_append hw hstep (fun h => hhash.1 (List.mem_of_mem_head? h)) nofun nofun
      (resembles_append hv u)
    rw [List.append_assoc]
    exact .skip hw (step?_deeper hw happend nofun) htail
  | @lexeme d w u l q hw hstep hlexes ih =>
    rw [List.mem_append, not_or] at hhash
    have happend := step?_append hw hstep (fun h => hhash.1 (List.mem_of_mem_head? h))
      (by rintro _ ⟨⟩; exact hclean.head) (by rintro c ⟨⟩; exact hlexes.stops hclean)
      (resembles_append hv u)
    rw [List.append_assoc]
    cases p with
    | nil =>
      -- a line break behind the calculation
      rw [List.nil_append] at hq
      rw [hq] at hrest
      obtain ⟨rfl, hbreaks⟩ := List.forall_mem_cons.1 hrest
      obtain rfl := eq_of_step?_newline hstep
      have htail := ih (p := []) hhash.2 nofun hbreaks hdepth rfl hclean.tail
      refine .skip hw ?_ htail
      rw [List.singleton_append, step?_break]
      rfl
    | cons l' p =>
      obtain ⟨rfl, rfl⟩ := List.cons.inj hq
      obtain ⟨hl, hp⟩ := List.forall_mem_cons.1 hp
      obtain ⟨hafter, hbehind⟩ := depthBehind?_of_isPlain hl hdepth
      have htail := ih hhash.2 hp hrest hbehind rfl hclean.tail
      rw [← hafter] at htail
      refine .lexeme hw (step?_deeper hw happend ?_) htail
      rintro ⟨⟩
      cases hl

/-! ## Spaces -/

/-- The blanks that lexemes may stand between in parentheses. -/
def IsSpace (c : Char) : Prop := isGap c ∨ c = '\n'

instance (c : Char) : Decidable (IsSpace c) := inferInstanceAs (Decidable (isGap c ∨ c = '\n'))

theorem lexes_spaces_iff (hu : ∀ c ∈ u, IsSpace c) :
    Lexes (d + 1) (u ++ v) ls ↔ Lexes (d + 1) v ls := by
  induction u with
  | nil => rfl
  | cons c u ih =>
    obtain ⟨hc, hu⟩ := List.forall_mem_cons.1 hu
    have hstep : step? (d + 1) (c :: (u ++ v)) = some (none, 1) := by
      rcases hc with hc | rfl
      · exact step?_gap hc _ _
      · rfl
    rw [← ih hu]
    exact lexes_skip_iff (p := [c]) (List.cons_ne_nil c []) hstep

theorem head_mem_closers (hv : ∀ c ∈ v, IsSpace c) : ∀ c ∈ (v ++ [')']).head?, c ∈ closers := by
  cases v with
  | nil =>
    rintro _ ⟨⟩
    decide
  | cons c v =>
    rintro _ ⟨⟩
    rcases hv c List.mem_cons_self with hc | rfl
    · rw [isGap_iff] at hc
      rcases hc with rfl | rfl | rfl <;> decide
    · decide

/-- Line breaks on the two sides of something that is no blank do not meet. -/
theorem unifiedBreaks_append_of_last (hu : ∀ c ∈ u.getLast?, isBlank c = false) (hne : u ≠ [])
    (v : Text) : unifiedBreaks (u ++ v) = unifiedBreaks u ++ unifiedBreaks v := by
  obtain ⟨u, c, rfl⟩ := (List.eq_nil_or_concat u).resolve_left hne
  rw [List.concat_eq_append] at hu ⊢
  have hc : isBlank c = false := hu c (by simp)
  have hbreak : c ≠ '\n' := by
    rintro rfl
    cases hc
  have hreturn : c ≠ '\r' := by
    rintro rfl
    cases hc
  rw [List.append_assoc, List.singleton_append, unifiedBreaks_append_cons hbreak,
    unifiedBreaks_append_cons hbreak, unifiedBreaks_cons hreturn, unifiedBreaks_cons hreturn,
    List.append_assoc]
  rfl

/-! ## The value -/

/-- The blanks of a text in own names are those of the text. -/
theorem mem_of_mem_withOwnNames (hc : isBlank c) (h : c ∈ withOwnNames s) : c ∈ s := by
  have hfilter := @filter_withOwnNames isBlank (fun c hword => by
    rw [← Bool.not_eq_true]
    intro hblank
    rw [Text.not_isWord_of_isBlank hblank] at hword
    cases hword) (by decide) s
  exact List.mem_of_mem_filter (hfilter ▸ List.mem_filter.2 ⟨h, hc⟩)

/-- What is read of a text is read between parentheses, with blanks and line breaks around it. -/
theorem Lexes.enclosed {e : Expr} (h : Lexes 0 s (p ++ rest)) (hp : Spells .sum e p)
    (hrest : ∀ l ∈ rest, l = .newline) (hhash : '#' ∉ s) (hu : ∀ c ∈ u, IsSpace c)
    (hv : ∀ c ∈ v, IsSpace c) : Lexes 0 ('(' :: (u ++ (s ++ (v ++ [')']))))
      (.mark .leftParen :: (p ++ [.mark .rightParen])) := by
  have hclosing : Lexes 1 (v ++ [')']) [.mark .rightParen] := by
    rw [lexes_spaces_iff hv]
    exact (lexes_mark_iff (m := .rightParen) (by decide) (by simp)).2 ⟨[], rfl, .nil _⟩
  have hinner : Lexes 1 (s ++ (v ++ [')'])) (p ++ [.mark .rightParen]) :=
    h.deeper (hp.clean hrest) hhash hp.isPlain hrest (hp.balanced 0) (head_mem_closers hv) hclosing
  refine (lexes_mark_iff (m := .leftParen) (by decide) (by simp [Mark.extenders])).2 ⟨_, rfl, ?_⟩
  exact (lexes_spaces_iff hu).2 hinner

/-- A text with a value has it in parentheses as well. -/
theorem exists_ofText?_enclosedText (h : attempt r = .ok x) (hhash : '#' ∉ r)
    (hblank : ∀ c ∈ r, isBlank c → IsSpace c ∨ c = '\r') :
    ∃ e, ofText? (enclosedText r) = some e ∧ evaluate e = .ok x := by
  obtain ⟨e, p, rest, hls, hp, hrest, hx⟩ := exists_spells h
  have hx := (result_eq_ok.1 hx).1
  have hr : SelfContained r := ⟨balanced_of_attempt h hhash, hhash⟩
  refine ⟨e, (ofText?_enclosedText hr hx).2 ?_, hx⟩
  obtain ⟨u, v, hown, hu, hv⟩ := Text.exists_trim (withOwnNames r)
  have htrimmed := Text.isTrimmed_trim (withOwnNames r)
  generalize Text.trim (withOwnNames r) = m at hls hown htrimmed
  have hspace : ∀ w, (∀ c ∈ w, isBlank c) → (∀ c ∈ w, c ∈ withOwnNames r) →
      ∀ c ∈ unifiedBreaks w, IsSpace c := fun w hw hmem =>
    forall_mem_unifiedBreaks (.inr rfl) fun c hc =>
      hblank c (mem_of_mem_withOwnNames (hw c hc) (hmem c hc)) (hw c hc)
  have hhash' : '#' ∉ withOwnNames r := by
    rwa [← hash_mem_groups, groups_withOwnNames, hash_mem_groups]
  -- between the blanks there is a text, since there are lexemes
  cases m with
  | nil =>
    obtain ⟨-, _, heq, hlexes⟩ := lexemes?_eq_some.1 hls
    cases heq
    obtain ⟨l, q, rfl, -⟩ := hp.exists_cons
    cases hlexes.unique (.nil 0)
  | cons c m =>
    have hc : isBlank c = false := htrimmed.head c rfl
    have hc' : c ≠ '#' := by
      rintro rfl
      exact hhash' (by simp [hown])
    obtain ⟨hzero, hlexes⟩ := (lexemes?_of_head hc hc').1 hls
    have hbreak : c ≠ '\n' := by
      rintro rfl
      cases hc
    have hlines : ownLines r =
        unifiedBreaks u ++ (unifiedBreaks (c :: m) ++ unifiedBreaks v) := by
      rw [ownLines, hown, List.cons_append, unifiedBreaks_append_cons hbreak, ← List.cons_append,
        unifiedBreaks_append_of_last htrimmed.last (List.cons_ne_nil c m)]
    refine ⟨?_, .mark .leftParen :: (p ++ [.mark .rightParen]), ?_, (Spells.enclosed hp).to_sum⟩
    · have hblanks : ∀ w : Text, (∀ c ∈ w, isBlank c) → '\x00' ∉ w := by
        intro w hw hmem
        cases hw _ hmem
      rw [hown, List.mem_append, List.mem_append, not_or, not_or]
      exact ⟨hblanks u hu, hzero, hblanks v hv⟩
    · have hhash'' : '#' ∉ unifiedBreaks (c :: m) := by
        rw [← hash_mem_groups, groups_unifiedBreaks, hash_mem_groups]
        exact fun hmem => hhash' (hown ▸ List.mem_append_right u (List.mem_append_left v hmem))
      rw [enclosedText, hlines, List.append_assoc, List.append_assoc]
      exact hlexes.enclosed hp hrest hhash'' (hspace u hu fun c hc => by simp [hown, hc])
        (hspace v hv fun c hc => by simp [hown, hc])

end Abacus.Expr
