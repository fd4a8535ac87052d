import Abacus.Expr.Lexer
import Mathlib.Data.List.TakeWhile

/-!
# Line breaks and empty lines

Unifying line breaks leaves every other character where it is.  A text that starts with a character
of a lexeme has no empty lines in front; `SkipsTo` relates a text to what is behind its empty lines.
-/

namespace Abacus.Expr

variable {s u v : Text}

theorem unifiedBreaks_cons {c : Char} (hc : c ≠ '\r') (s : Text) :
    unifiedBreaks (c :: s) = c :: unifiedBreaks s :=
  unifiedBreaks.eq_4 c s (fun _ h => absurd h hc) hc

theorem unifiedBreaks_return (h : s.head? ≠ some '\n') :
    unifiedBreaks ('\r' :: s) = '\n' :: unifiedBreaks s :=
  unifiedBreaks.eq_3 s fun r hr => h (by rw [hr]; rfl)

theorem unifiedBreaks_append (hu : '\r' ∉ u) (v : Text) :
    unifiedBreaks (u ++ v) = u ++ unifiedBreaks v := by
  induction u with
  | nil => rfl
  | cons c u ih =>
    rw [List.mem_cons, not_or] at hu
    rw [List.cons_append, unifiedBreaks_cons (Ne.symm hu.1), ih hu.2, List.cons_append]

theorem unifiedBreaks_eq_self (h : '\r' ∉ s) : unifiedBreaks s = s := by
  have := unifiedBreaks_append h []
  rwa [List.append_nil, unifiedBreaks, List.append_nil] at this

/-- A property of all characters but carriage returns holds where line breaks are unified, if it
holds of the line break. -/
theorem forall_mem_unifiedBreaks {P : Char → Prop} (hbreak : P '\n') (h : ∀ c ∈ s, P c ∨ c = '\r') :
    ∀ c ∈ unifiedBreaks s, P c := by
  fun_induction unifiedBreaks s with
  | case1 => exact nofun
  | case2 s ih =>
    exact List.forall_mem_cons.2 ⟨hbreak, ih fun c hc => h c (by simp [hc])⟩
  | case3 s _ ih => exact List.forall_mem_cons.2 ⟨hbreak, ih fun c hc => h c (by simp [hc])⟩
  | case4 c s _ hc ih =>
    refine List.forall_mem_cons.2 ⟨?_, ih fun c hc => h c (by simp [hc])⟩
    exact (h c List.mem_cons_self).resolve_right hc

/-- A line break in front of anything but a line feed stands for itself. -/
theorem unifiedBreaks_append_cons {c : Char} (hc : c ≠ '\n') (u v : Text) :
    unifiedBreaks (u ++ c :: v) = unifiedBreaks u ++ unifiedBreaks (c :: v) := by
  fun_induction unifiedBreaks u with
  | case1 => rfl
  | case2 u ih => exact congrArg ('\n' :: ·) ih
  | case3 u hu ih =>
    have hhead : (u ++ c :: v).head? ≠ some '\n' := by
      cases u with
      | nil => simpa using hc
      | cons d u =>
        rintro ⟨⟩
        exact hu u rfl
    rw [List.cons_append, unifiedBreaks_return hhead, ih]
    rfl
  | case4 d u _ hd ih =>
    rw [List.cons_append, unifiedBreaks_cons hd, ih]
    rfl

theorem head?_unifiedBreaks (s : Text) :
    (unifiedBreaks s).head? = s.head?.map fun c => if c = '\r' then '\n' else c := by
  cases s with
  | nil => rfl
  | cons c s =>
    by_cases hc : c = '\r'
    · subst hc
      by_cases hs : s.head? = some '\n'
      · obtain ⟨r, rfl⟩ := List.head?_eq_some_iff.1 hs
        rfl
      · rw [unifiedBreaks_return hs]
        rfl
    · rw [unifiedBreaks_cons hc]
      simp [hc]

theorem isGap_iff {c : Char} : isGap c = true ↔ c = ' ' ∨ c = '\t' ∨ c = '\x0c' := by
  simp [isGap, or_assoc]

/-! ## Empty lines -/

theorem skipEmptyLines_nil (n : Nat) : skipEmptyLines n [] = some [] := by
  cases n <;> rfl

theorem skipEmptyLines_of_nil (h : s.dropWhile isGap = []) (n : Nat) :
    skipEmptyLines (n + 1) s = some [] := by
  rw [skipEmptyLines, h]

theorem skipEmptyLines_of_break (h : s.dropWhile isGap = '\n' :: u) (n : Nat) :
    skipEmptyLines (n + 1) s = skipEmptyLines n u := by
  rw [skipEmptyLines, h]
  rfl

theorem skipEmptyLines_of_comment (h : s.dropWhile isGap = '#' :: u) (n : Nat) :
    skipEmptyLines (n + 1) s = skipEmptyLines n (u.dropWhile (· != '\n')).tail := by
  rw [skipEmptyLines, h]
  cases hu : u.dropWhile (· != '\n') with
  | nil =>
    rw [List.tail_nil, skipEmptyLines_nil]
    simp [hu]
  | cons c r => simp [hu]

theorem skipEmptyLines_of_lexeme {c : Char} (h : s.dropWhile isGap = c :: u) (hhash : c ≠ '#')
    (hbreak : c ≠ '\n') (n : Nat) :
    skipEmptyLines (n + 1) s = if indentation s = 0 then some (c :: u) else none := by
  rw [skipEmptyLines, h]
  split
  · rename_i heq
    cases heq
  · rename_i heq
    exact absurd (List.cons.inj heq).1 hbreak
  · rename_i heq
    exact absurd (List.cons.inj heq).1 hhash
  · rfl

/-- Lines without a lexeme are passed over, down to the first line that has one. -/
inductive SkipsTo : Text → Text → Prop
  | nil {s : Text} (hs : s.dropWhile isGap = []) : SkipsTo s []
  | lineBreak {s u r : Text} (hs : s.dropWhile isGap = '\n' :: u) (h : SkipsTo u r) : SkipsTo s r
  | comment {s u r : Text} (hs : s.dropWhile isGap = '#' :: u)
      (h : SkipsTo (u.dropWhile (· != '\n')).tail r) : SkipsTo s r
  | lexeme {c : Char} {s u : Text} (hs : s.dropWhile isGap = c :: u) (hhash : c ≠ '#')
      (hbreak : c ≠ '\n') : SkipsTo s (c :: u)

theorem SkipsTo.of_nil {r : Text} (h : SkipsTo s r) (hs : s.dropWhile isGap = []) : r = [] := by
  cases h with
  | nil => rfl
  | lineBreak h | comment h | lexeme h => cases hs.symm.trans h

theorem SkipsTo.of_lineBreak {r : Text} (h : SkipsTo s r) (hs : s.dropWhile isGap = '\n' :: u) :
    SkipsTo u r := by
  cases h with
  | lineBreak h h' =>
    cases hs.symm.trans h
    exact h'
  | lexeme h _ hbreak =>
    cases hs.symm.trans h
    exact absurd rfl hbreak
  | nil h | comment h => cases hs.symm.trans h

theorem SkipsTo.of_comment {r : Text} (h : SkipsTo s r) (hs : s.dropWhile isGap = '#' :: u) :
    SkipsTo (u.dropWhile (· != '\n')).tail r := by
  cases h with
  | comment h h' =>
    cases hs.symm.trans h
    exact h'
  | lexeme h hhash =>
    cases hs.symm.trans h
    exact absurd rfl hhash
  | nil h | lineBreak h => cases hs.symm.trans h

theorem SkipsTo.of_lexeme {c : Char} {r : Text} (h : SkipsTo s r)
    (hs : s.dropWhile isGap = c :: u) (hhash : c ≠ '#') (hbreak : c ≠ '\n') : r = c :: u := by
  cases h with
  | lexeme h => exact h.symm.trans hs
  | lineBreak h =>
    cases hs.symm.trans h
    exact absurd rfl hbreak
  | comment h =>
    cases hs.symm.trans h
    exact absurd rfl hhash
  | nil h => cases hs.symm.trans h

theorem skipsTo_of_skipEmptyLines {n : Nat} {r : Text} (hn : s.length < n)
    (h : skipEmptyLines n s = some r) : SkipsTo s r := by
  induction n generalizing s with
  | zero => cases hn
  | succ n ih =>
    have hlen := (List.dropWhile_sublist (l := s) isGap).length_le
    cases hs : s.dropWhile isGap with
    | nil =>
      rw [skipEmptyLines_of_nil hs] at h
      cases h
      exact .nil hs
    | cons c u =>
      rw [hs, List.length_cons] at hlen
      by_cases hbreak : c = '\n'
      · subst hbreak
        rw [skipEmptyLines_of_break hs] at h
        exact .lineBreak hs (ih (by omega) h)
      by_cases hhash : c = '#'
      · subst hhash
        rw [skipEmptyLines_of_comment hs] at h
        refine .comment hs (ih ?_ h)
        have hline := (List.dropWhile_sublist (l := u) (· != '\n')).length_le
        rw [List.length_tail]
        omega
      · rw [skipEmptyLines_of_lexeme hs hhash hbreak] at h
        split at h
        · cases h
          exact .lexeme hs hhash hbreak
        · cases h

/-- A line that starts with a lexeme is not passed over. -/
theorem skipEmptyLines_cons {c : Char} (hgap : isGap c = false) (hhash : c ≠ '#')
    (hbreak : c ≠ '\n') (n : Nat) (r : Text) :
    skipEmptyLines (n + 1) (c :: r) = some (c :: r) := by
  have hindentation : indentation (c :: r) = 0 := by
    rw [indentation, List.takeWhile_cons_of_neg (by simp [hgap])]
    rfl
  rw [skipEmptyLines_of_lexeme (List.dropWhile_cons_of_neg (by simp [hgap])) hhash hbreak,
    if_pos hindentation]

end Abacus.Expr
