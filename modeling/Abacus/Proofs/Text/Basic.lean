import Abacus.Text.Case
import Mathlib.Data.List.TakeWhile

/-!
# Texts that trimming and lowering leave alone

A class takes a prefix up to the first character that is not of the class.  Trimming changes nothing
where no blank stands at either end, and lower case is taken character by character in a text of
ASCII characters.
-/

namespace Abacus.Text

variable {s : Text}

theorem trimWhile_eq_self {p : Char → Bool} (h : ∀ c ∈ s, p c = false) : trimWhile p s = s := by
  have hdrop : ∀ t : Text, (∀ c ∈ t, p c = false) → t.dropWhile p = t := by
    intro t ht
    cases t with
    | nil => rfl
    | cons c r => rw [List.dropWhile_cons, if_neg (by simp [ht c])]
  rw [trimWhile, hdrop s h, hdrop s.reverse (fun c hc => h c (List.mem_reverse.1 hc)),
    List.reverse_reverse]

/-- A text without blanks is trimmed already. -/
theorem trim_eq_self (h : ∀ c ∈ s, isBlank c = false) : trim s = s := trimWhile_eq_self h

/-- The longest prefix of a class, where what follows does not start with a character of it. -/
theorem takeWhile_append_eq {p : Char → Bool} {u v : Text} (hu : ∀ c ∈ u, p c = true)
    (hv : ∀ c ∈ v.head?, p c = false) : (u ++ v).takeWhile p = u := by
  rw [List.takeWhile_append_of_pos hu]
  cases v with
  | nil => simp
  | cons c r => simp [hv c rfl]

theorem dropWhile_append_eq {p : Char → Bool} {u v : Text} (hu : ∀ c ∈ u, p c = true)
    (hv : ∀ c ∈ v.head?, p c = false) : (u ++ v).dropWhile p = v := by
  rw [List.dropWhile_append_of_pos hu]
  cases v with
  | nil => rfl
  | cons c r => simp [hv c rfl]

/-- The longest prefix of a class ends where a text outside the class is appended. -/
theorem takeWhile_append_of_head {p : Char → Bool} {u v : Text} (hv : ∀ c ∈ v.head?, p c = false) :
    (u ++ v).takeWhile p = u.takeWhile p := by
  induction u with
  | nil =>
    cases v with
    | nil => rfl
    | cons c r => simp [hv c rfl]
  | cons c u ih => rw [List.cons_append, List.takeWhile_cons, List.takeWhile_cons, ih]

theorem dropWhile_append_of_head {p : Char → Bool} {u v : Text} (hv : ∀ c ∈ v.head?, p c = false) :
    (u ++ v).dropWhile p = u.dropWhile p ++ v := by
  induction u with
  | nil =>
    cases v with
    | nil => rfl
    | cons c r => simp [hv c rfl]
  | cons c u ih =>
    rw [List.cons_append, List.dropWhile_cons, List.dropWhile_cons, ih]
    split <;> rfl

theorem not_of_mem_head?_dropWhile {p : Char → Bool} {c : Char} (h : c ∈ (s.dropWhile p).head?) :
    p c = false := by
  have hnot := List.head?_dropWhile_not p s
  rw [h] at hnot
  simpa using hnot

/-- No blank stands at either end. -/
structure IsTrimmed (s : Text) : Prop where
  head : ∀ c ∈ s.head?, isBlank c = false
  last : ∀ c ∈ s.getLast?, isBlank c = false

theorem dropWhile_eq_of_head {p : Char → Bool} (h : ∀ c ∈ s.head?, p c = false) :
    s.dropWhile p = s := by
  cases s with
  | nil => rfl
  | cons c r => rw [List.dropWhile_cons, if_neg (by simp [h c rfl])]

theorem IsTrimmed.trim_eq (h : IsTrimmed s) : trim s = s := by
  have hlast : ∀ c ∈ s.reverse.head?, isBlank c = false := by
    rw [List.head?_reverse]
    exact h.last
  rw [trim, trimWhile, dropWhile_eq_of_head h.head, dropWhile_eq_of_head hlast,
    List.reverse_reverse]

theorem isTrimmed_trim (s : Text) : IsTrimmed (trim s) := by
  constructor
  · intro c hc
    rw [trim, trimWhile, List.head?_reverse] at hc
    -- the last character of what is left from behind is the first one of what is left in front
    obtain ⟨t, ht⟩ := List.dropWhile_suffix (l := (s.dropWhile isBlank).reverse) isBlank
    have hlast : c ∈ (s.dropWhile isBlank).reverse.getLast? := by
      rw [← ht, List.getLast?_append, hc]
      rfl
    rw [List.getLast?_reverse] at hlast
    exact not_of_mem_head?_dropWhile hlast
  · intro c hc
    rw [trim, trimWhile, List.getLast?_reverse] at hc
    exact not_of_mem_head?_dropWhile hc

/-- What is trimmed from a text are blanks at its ends. -/
theorem exists_trim (s : Text) : ∃ u v, s = u ++ (trim s ++ v) ∧ (∀ c ∈ u, isBlank c) ∧
    ∀ c ∈ v, isBlank c := by
  refine ⟨s.takeWhile isBlank, ((s.dropWhile isBlank).reverse.takeWhile isBlank).reverse, ?_,
    fun c hc => List.mem_takeWhile_imp hc, fun c hc => ?_⟩
  · rw [trim, trimWhile, ← List.reverse_append, List.takeWhile_append_dropWhile,
      List.reverse_reverse, List.takeWhile_append_dropWhile]
  · exact List.mem_takeWhile_imp (List.mem_reverse.1 hc)

/-- Blanks stand in front of a trimmed text or behind it only if there are none. -/
theorem IsTrimmed.eq_nil_of_front {v : Text} (hs : IsTrimmed (v ++ s)) (hv : ∀ c ∈ v, isBlank c) :
    v = [] := by
  cases v with
  | nil => rfl
  | cons c v =>
    have := hs.head c rfl
    simp [hv c List.mem_cons_self] at this

theorem IsTrimmed.eq_nil_of_back {v : Text} (hs : IsTrimmed (s ++ v)) (hv : ∀ c ∈ v, isBlank c) :
    v = [] := by
  rcases List.eq_nil_or_concat v with rfl | ⟨t, c, rfl⟩
  · rfl
  · have := hs.last c (by simp)
    simp [hv c (by simp)] at this

/-- Blanks around a trimmed text are what trimming takes away. -/
theorem trim_between {u v : Text} (hu : ∀ c ∈ u, isBlank c) (hs : IsTrimmed s)
    (hv : ∀ c ∈ v, isBlank c) : trim (u ++ (s ++ v)) = s := by
  cases s with
  | nil =>
    have hblank : ∀ c ∈ u ++ v, isBlank c := List.forall_mem_append.2 ⟨hu, hv⟩
    rw [List.nil_append, trim, trimWhile, List.dropWhile_eq_nil_iff.2 hblank]
    rfl
  | cons c s =>
    have hlast : ∀ d ∈ (c :: s).reverse.head?, isBlank d = false := by
      rw [List.head?_reverse]
      exact hs.last
    have hhead : ∀ d ∈ (c :: s ++ v).head?, isBlank d = false := hs.head
    rw [trim, trimWhile, dropWhile_append_eq hu hhead, List.reverse_append,
      dropWhile_append_eq (fun d hd => hv d (List.mem_reverse.1 hd)) hlast, List.reverse_reverse]

theorem IsTrimmed.append {t : Text} (hs : IsTrimmed s) (hne : s ≠ []) (ht : IsTrimmed t)
    (hne' : t ≠ []) (u : Text) : IsTrimmed (s ++ (u ++ t)) := by
  obtain ⟨c, s, rfl⟩ := List.exists_cons_of_ne_nil hne
  refine ⟨hs.head, fun d hd => ht.last d ?_⟩
  rw [List.getLast?_append, List.getLast?_append, List.getLast?_eq_some_getLast hne'] at hd
  rw [List.getLast?_eq_some_getLast hne']
  exact hd

/-- The text without its blanks. -/
def nonblanks (s : Text) : Text := s.filter fun c => !isBlank c

theorem nonblanks_append (s t : Text) : nonblanks (s ++ t) = nonblanks s ++ nonblanks t :=
  List.filter_append s t

theorem nonblanks_eq_nil : nonblanks s = [] ↔ ∀ c ∈ s, isBlank c := by
  simp [nonblanks, List.filter_eq_nil_iff]

/-- Trimming takes nothing but blanks. -/
theorem nonblanks_trim (s : Text) : nonblanks (trim s) = nonblanks s := by
  obtain ⟨u, v, hs, hu, hv⟩ := exists_trim s
  have hnonblanks : nonblanks s = nonblanks (u ++ (trim s ++ v)) := congrArg nonblanks hs
  rw [hnonblanks, nonblanks_append, nonblanks_append, nonblanks_eq_nil.2 hu, nonblanks_eq_nil.2 hv,
    List.nil_append, List.append_nil]

/-- A longest prefix of a class as long as a part of the text is that part. -/
theorem of_length_takeWhile {p : Char → Bool} {u v : Text}
    (h : ((u ++ v).takeWhile p).length = u.length) :
    (∀ c ∈ u, p c = true) ∧ ∀ c ∈ v.head?, p c = false := by
  obtain ⟨hu, hv⟩ := List.append_inj
    (List.takeWhile_append_dropWhile (p := p) (l := u ++ v)) h
  constructor
  · intro c hc
    rw [← hu] at hc
    exact List.mem_takeWhile_imp hc
  · intro c hc
    rw [← hv] at hc
    exact not_of_mem_head?_dropWhile hc

theorem withoutLastBreak_eq_self (h : '\n' ∉ s) : withoutLastBreak s = s := by
  rw [withoutLastBreak, if_neg]
  intro hlast
  exact h (List.mem_of_getLast? hlast)

theorem lowerFrom_eq_map {before : Text} (h : ∀ c ∈ s, c.toNat < 128) :
    lowerFrom before s = s.map Char.toLower := by
  induction s generalizing before with
  | nil => rfl
  | cons c r ih =>
    have hc : c.toNat < 128 := h c List.mem_cons_self
    rw [lowerFrom, lowerChar, if_pos hc, ih fun d hd => h d (List.mem_cons_of_mem c hd)]
    rfl

/-- The lower case of an ASCII text. -/
theorem lower_eq_map (h : ∀ c ∈ s, c.toNat < 128) : lower s = s.map Char.toLower :=
  lowerFrom_eq_map h

example : lower "0B1f".toList = "0b1f".toList := by decide

end Abacus.Text
