import Abacus.Proofs.Numeral.Bare
import Abacus.Proofs.Numeral.Target

/-!
# The first separator

Within one line an input is split at the first of its separators, and nothing but the separator and
blanks is lost.  Line breaks get in the way on both sides: a separator behind a line break is not
found, and of what stands behind a separator only the first line is kept.
-/

namespace Abacus.Numeral

open Text (Pattern isBlank isLetter nonblanks)

/-- An arrow, or the word `to` in any case between blanks. -/
inductive IsSeparator : Text → Prop
  | arrow : IsSeparator ['-', '>']
  | word {u v : Text} {t o : Char} (hu : ∀ c ∈ u, isBlank c) (hu' : u ≠ []) (ht : isLetter 't' t)
      (ho : isLetter 'o' o) (hv : ∀ c ∈ v, isBlank c) (hv' : v ≠ []) :
      IsSeparator (u ++ t :: o :: v)

/-- A text taken apart at its first separator, which is as long as it can be. -/
structure FirstSeparator (s l sep r : Text) : Prop where
  eq : s = l ++ (sep ++ r)
  isSeparator : IsSeparator sep
  leftmost : ∀ l' sep' r', IsSeparator sep' → s = l' ++ (sep' ++ r') → l.length ≤ l'.length
  longest : ∀ sep' r', IsSeparator sep' → s = l ++ (sep' ++ r') → sep'.length ≤ sep.length

variable {s l sep r : Text}

/-! ## Separators -/

theorem isBlank_of_isLetter_t {c : Char} (hc : isLetter 't' c) : isBlank c = false := by
  rcases cases_of_isLetter (by decide) (by decide) hc with rfl | rfl <;> decide

/-- A separator is more than blanks. -/
theorem IsSeparator.nonblanks_ne_nil (h : IsSeparator sep) : nonblanks sep ≠ [] := by
  rw [ne_eq, Text.nonblanks_eq_nil]
  intro hblank
  cases h with
  | arrow => exact absurd (hblank '-' (by simp)) (by decide)
  | word _ _ ht =>
    have := hblank _ (List.mem_append_right _ List.mem_cons_self)
    simp [isBlank_of_isLetter_t ht] at this

theorem IsSeparator.ne_nil (h : IsSeparator sep) : sep ≠ [] := by
  rintro rfl
  exact h.nonblanks_ne_nil rfl

theorem exists_of_separatorLength? {k : Nat} (h : separatorLength? s = some k) :
    ∃ sep r, s = sep ++ r ∧ sep.length = k ∧ IsSeparator sep := by
  rw [separatorLength?] at h
  split at h
  · rename_i harrow
    obtain ⟨r, rfl⟩ := List.isPrefixOf_iff_prefix.1 harrow
    exact ⟨_, r, rfl, Option.some.inj h, .arrow⟩
  · obtain ⟨segs, hsegs, rfl⟩ := Option.map_eq_some_iff.1 h
    obtain ⟨u, s₁, segs₁, rfl, hu', hu, h₁, rfl⟩ := Pattern.segments?_run_eq_some hsegs
    obtain ⟨t, s₂, segs₂, rfl, ht, h₂, rfl⟩ := Pattern.segments?_one_eq_some h₁
    obtain ⟨o, s₃, segs₃, rfl, ho, h₃, rfl⟩ := Pattern.segments?_one_eq_some h₂
    obtain ⟨v, r, segs₄, rfl, hv', hv, h₄, rfl⟩ := Pattern.segments?_run_eq_some h₃
    cases h₄
    refine ⟨u ++ t :: o :: v, r, by simp, by simp, ?_⟩
    exact .word hu (List.ne_nil_of_length_pos hu') ht ho hv (List.ne_nil_of_length_pos hv')

/-- The word takes the blanks on both sides. -/
theorem separatorLength?_word {u v : Text} {t o : Char} (hu : ∀ c ∈ u, isBlank c) (hu' : u ≠ [])
    (ht : isLetter 't' t) (ho : isLetter 'o' o) (hv : ∀ c ∈ v, isBlank c) (hv' : v ≠ [])
    (hr : ∀ c ∈ r.head?, isBlank c = false) :
    separatorLength? (u ++ t :: o :: (v ++ r)) = some (u ++ t :: o :: v).length := by
  have harrow : ¬ Text.startsWith (u ++ t :: o :: (v ++ r)) ['-', '>'] := by
    obtain ⟨c, u, rfl⟩ := List.exists_cons_of_ne_nil hu'
    have hc : c ≠ '-' := by
      rintro rfl
      exact absurd (hu '-' List.mem_cons_self) (by decide)
    simp [Text.startsWith, hc.symm]
  have htail : ∀ c, (t :: o :: (v ++ r)).head? = some c → isBlank c = false := by
    rintro _ ⟨⟩
    exact isBlank_of_isLetter_t ht
  rw [separatorLength?, if_neg harrow, Pattern.length?, toWord, Text.Piece.some,
    Pattern.segments?_run_append hu (List.length_pos_iff.2 hu') (by simp) (.inl htail),
    Pattern.segments?_one_cons, if_pos ht, Pattern.segments?_one_cons, if_pos ho,
    Pattern.segments?_run_append hv (List.length_pos_iff.2 hv') (by simp) (.inl hr)]
  simp [Pattern.segments?]
  omega

/-- A text that starts with a separator starts with one that is at least as long. -/
theorem IsSeparator.exists_length? (h : IsSeparator sep) (r : Text) :
    ∃ k, separatorLength? (sep ++ r) = some k ∧ sep.length ≤ k := by
  cases h with
  | arrow => exact ⟨2, rfl, Nat.le_refl 2⟩
  | @word u v t o hu hu' ht ho hv hv' =>
    have hblanks : ∀ c ∈ v ++ r.takeWhile isBlank, isBlank c :=
      List.forall_mem_append.2 ⟨hv, fun c hc => List.mem_takeWhile_imp hc⟩
    have hstop : ∀ c ∈ (r.dropWhile isBlank).head?, isBlank c = false := fun c hc =>
      Text.not_of_mem_head?_dropWhile hc
    have hk := separatorLength?_word hu hu' ht ho hblanks
      (List.append_ne_nil_of_left_ne_nil hv' _) hstop
    rw [List.append_assoc, List.takeWhile_append_dropWhile] at hk
    have heq : u ++ t :: o :: v ++ r = u ++ t :: o :: (v ++ r) :=
      List.append_assoc u (t :: o :: v) r
    exact ⟨_, heq ▸ hk, by simp⟩

/-! ## The first one -/

theorem not_firstSeparator_nil : ¬ FirstSeparator [] l sep r := by
  intro h
  exact h.isSeparator.ne_nil (List.append_eq_nil_iff.1 (List.append_eq_nil_iff.1 h.eq.symm).2).1

/-- The first separator of a text that starts with one. -/
theorem firstSeparator_iff_of_length? {k : Nat} (h : separatorLength? s = some k) :
    FirstSeparator s l sep r ↔ l = [] ∧ sep = s.take k ∧ r = s.drop k := by
  obtain ⟨sep₀, r₀, rfl, rfl, hsep₀⟩ := exists_of_separatorLength? h
  have hlongest : ∀ sep' r', IsSeparator sep' → sep₀ ++ r₀ = sep' ++ r' →
      sep'.length ≤ sep₀.length := fun sep' r' hsep' heq => by
    obtain ⟨k, hk, hle⟩ := hsep'.exists_length? r'
    rw [← heq, h] at hk
    cases hk
    exact hle
  rw [List.take_left, List.drop_left]
  constructor
  · intro hfirst
    obtain rfl : l = [] :=
      List.length_eq_zero_iff.1 (Nat.le_zero.1 (hfirst.leftmost [] sep₀ r₀ hsep₀ rfl))
    have hlen : sep₀.length = sep.length := Nat.le_antisymm (hfirst.longest sep₀ r₀ hsep₀ rfl)
      (hlongest sep r hfirst.isSeparator hfirst.eq)
    have heq : sep₀ ++ r₀ = sep ++ r := hfirst.eq
    obtain ⟨hsep, hr⟩ := List.append_inj heq hlen
    exact ⟨rfl, hsep.symm, hr.symm⟩
  · rintro ⟨rfl, rfl, rfl⟩
    exact ⟨rfl, hsep₀, fun _ _ _ _ _ => Nat.zero_le _, hlongest⟩

/-- A separator in a text that does not start with one is behind its first character. -/
theorem IsSeparator.exists_cons {c : Char} (hsep : IsSeparator sep)
    (h : separatorLength? (c :: s) = none) (heq : c :: s = l ++ (sep ++ r)) :
    ∃ l', l = c :: l' ∧ s = l' ++ (sep ++ r) := by
  cases l with
  | nil =>
    obtain ⟨k, hk, -⟩ := hsep.exists_length? r
    rw [List.nil_append] at heq
    rw [← heq, h] at hk
    cases hk
  | cons d l =>
    obtain ⟨rfl, rfl⟩ := List.cons.inj heq
    exact ⟨l, rfl, rfl⟩

theorem firstSeparator_cons_iff {c : Char} (h : separatorLength? (c :: s) = none) :
    FirstSeparator (c :: s) l sep r ↔ ∃ l', l = c :: l' ∧ FirstSeparator s l' sep r := by
  constructor
  · intro hfirst
    obtain ⟨l₀, rfl, heq⟩ := hfirst.isSeparator.exists_cons h hfirst.eq
    refine ⟨l₀, rfl, heq, hfirst.isSeparator, fun l' sep' r' hsep' heq' => ?_,
      fun sep' r' hsep' heq' => ?_⟩
    · exact Nat.le_of_succ_le_succ
        (hfirst.leftmost (c :: l') sep' r' hsep' (congrArg (c :: ·) heq'))
    · exact hfirst.longest sep' r' hsep' (congrArg (c :: ·) heq')
  · rintro ⟨l₀, rfl, hfirst⟩
    refine ⟨congrArg (c :: ·) hfirst.eq, hfirst.isSeparator, fun l' sep' r' hsep' heq' => ?_,
      fun sep' r' hsep' heq' => ?_⟩
    · obtain ⟨l₁, rfl, heq₁⟩ := hsep'.exists_cons h heq'
      exact Nat.succ_le_succ (hfirst.leftmost l₁ sep' r' hsep' heq₁)
    · exact hfirst.longest sep' r' hsep' (List.cons.inj heq').2

/-- A text with a separator has a first one. -/
theorem exists_firstSeparator (hsep : IsSeparator sep) (h : s = l ++ (sep ++ r)) :
    ∃ l sep r, FirstSeparator s l sep r := by
  induction s generalizing l with
  | nil =>
    exact absurd (List.append_eq_nil_iff.1 (List.append_eq_nil_iff.1 h.symm).2).1 hsep.ne_nil
  | cons c s ih =>
    cases hk : separatorLength? (c :: s) with
    | some k => exact ⟨_, _, _, (firstSeparator_iff_of_length? hk).2 ⟨rfl, rfl, rfl⟩⟩
    | none =>
      obtain ⟨l₀, rfl, heq⟩ := hsep.exists_cons hk h
      obtain ⟨l', sep', r', hfirst⟩ := ih heq
      exact ⟨_, _, _, (firstSeparator_cons_iff hk).2 ⟨l', rfl, hfirst⟩⟩

theorem FirstSeparator.unique {l' sep' r' : Text} (h : FirstSeparator s l sep r)
    (h' : FirstSeparator s l' sep' r') : l = l' ∧ sep = sep' ∧ r = r' := by
  have hlen : l.length = l'.length := Nat.le_antisymm
    (h.leftmost l' sep' r' h'.isSeparator h'.eq) (h'.leftmost l sep r h.isSeparator h.eq)
  obtain ⟨rfl, hrest⟩ := List.append_inj (h.eq.symm.trans h'.eq) hlen
  have hlen' : sep.length = sep'.length := Nat.le_antisymm
    (h'.longest sep r h.isSeparator h.eq) (h.longest sep' r' h'.isSeparator h'.eq)
  exact ⟨rfl, List.append_inj hrest hlen'⟩

/-- A text is split at its first separator if no line break stands in front of it. -/
theorem splitSeparator?_eq_some_iff :
    splitSeparator? s = some (l, r) ↔ ∃ sep, FirstSeparator s l sep r ∧ '\n' ∉ l := by
  induction s generalizing l with
  | nil => simp [splitSeparator?, not_firstSeparator_nil]
  | cons c s ih =>
    rw [splitSeparator?]
    cases hk : separatorLength? (c :: s) with
    | some k =>
      simp only [firstSeparator_iff_of_length? hk, Option.some.injEq, Prod.mk.injEq]
      constructor
      · rintro ⟨rfl, rfl⟩
        exact ⟨_, ⟨rfl, rfl, rfl⟩, List.not_mem_nil⟩
      · rintro ⟨sep, ⟨rfl, -, rfl⟩, -⟩
        exact ⟨rfl, rfl⟩
    | none =>
      simp only [firstSeparator_cons_iff hk]
      by_cases hc : c = '\n'
      · simp only [hc, beq_self_eq_true, if_true]
        constructor
        · intro hnone
          cases hnone
        · rintro ⟨sep, ⟨l', rfl, -⟩, hl⟩
          exact absurd List.mem_cons_self hl
      · rw [if_neg (by simpa using hc), Option.map_eq_some_iff]
        constructor
        · rintro ⟨⟨l', r'⟩, hsplit, heq⟩
          cases heq
          obtain ⟨sep, hfirst, hl'⟩ := ih.1 hsplit
          refine ⟨sep, ⟨l', rfl, hfirst⟩, ?_⟩
          simp [hl', Ne.symm hc]
        · rintro ⟨sep, ⟨l', rfl, hfirst⟩, hl⟩
          refine ⟨(l', r), ih.2 ⟨sep, hfirst, ?_⟩, rfl⟩
          exact fun hl' => hl (List.mem_cons_of_mem c hl')

/-! ## Requests -/

variable {text : Text}

theorem Request.ofText_eq (h : FirstSeparator (Text.trim text) l sep r) :
    Request.ofText text = if '\n' ∈ l then ⟨Text.trim text, []⟩
      else ⟨Text.trim l, Text.trim (r.takeWhile (· != '\n'))⟩ := by
  rw [Request.ofText]
  split
  · rename_i l' r' hsplit
    obtain ⟨sep', h', hl'⟩ := splitSeparator?_eq_some_iff.1 hsplit
    obtain ⟨rfl, -, rfl⟩ := h.unique h'
    rw [if_neg hl']
  · rename_i hsplit
    split
    · rfl
    · rename_i hl
      rw [splitSeparator?_eq_some_iff.2 ⟨sep, h, hl⟩] at hsplit
      cases hsplit

/-- The value is what stands in front of the first separator, and the tag is what stands behind it;
without a separator the whole text is the value. -/
def SplitsFirst (text : Text) : Prop :=
  (∀ sep, IsSeparator sep → sep <:+: Text.trim text → ∃ l sep r,
    FirstSeparator (Text.trim text) l sep r ∧
      Request.ofText text = ⟨Text.trim l, Text.trim r⟩) ∧
  ((∀ sep, IsSeparator sep → ¬ sep <:+: Text.trim text) →
    Request.ofText text = ⟨Text.trim text, []⟩)

theorem FirstSeparator.nonblanks_eq (h : FirstSeparator (Text.trim text) l sep r) :
    nonblanks text = nonblanks l ++ (nonblanks sep ++ nonblanks r) := by
  rw [← Text.nonblanks_trim, h.eq, Text.nonblanks_append, Text.nonblanks_append]

/-- Behind a line break in a trimmed text something is left. -/
theorem nonblanks_dropWhile_ne_nil {p : Char → Bool} (h : FirstSeparator (Text.trim text) l sep r)
    (hr : ∃ c ∈ r, p c = false) : nonblanks (r.dropWhile p) ≠ [] := by
  obtain ⟨d, hd, hpd⟩ := hr
  have hne : r.dropWhile p ≠ [] := by
    rw [ne_eq, List.dropWhile_eq_nil_iff]
    intro hall
    simp [hall d hd] at hpd
  obtain ⟨c, hc⟩ : ∃ c, (r.dropWhile p).getLast? = some c :=
    ⟨_, List.getLast?_eq_some_getLast hne⟩
  have hend : isBlank c = false := by
    refine (Text.isTrimmed_trim text).last c ?_
    rw [h.eq, ← List.takeWhile_append_dropWhile (p := p) (l := r), List.getLast?_append,
      List.getLast?_append, List.getLast?_append, hc]
    rfl
  rw [ne_eq, Text.nonblanks_eq_nil]
  intro hblank
  simp [hblank c (List.mem_of_getLast? hc)] at hend

/-- What stands on either side of the first separator is kept if it is one line. -/
theorem FirstSeparator.ofText_iff (h : FirstSeparator (Text.trim text) l sep r) :
    Request.ofText text = ⟨Text.trim l, Text.trim r⟩ ↔ '\n' ∉ l ∧ '\n' ∉ r := by
  rw [Request.ofText_eq h]
  constructor
  · intro heq
    by_cases hl : '\n' ∈ l
    · -- the separator would be in the value
      rw [if_pos hl] at heq
      have hvalue : nonblanks text = nonblanks l := by
        rw [← Text.nonblanks_trim, (Request.mk.inj heq).1, Text.nonblanks_trim]
      rw [h.nonblanks_eq, List.append_right_eq_self] at hvalue
      exact absurd (List.append_eq_nil_iff.1 hvalue).1 h.isSeparator.nonblanks_ne_nil
    · rw [if_neg hl] at heq
      refine ⟨hl, fun hr => ?_⟩
      have htag : nonblanks (r.takeWhile (· != '\n')) = nonblanks r := by
        rw [← Text.nonblanks_trim, (Request.mk.inj heq).2, Text.nonblanks_trim]
      have hsplit := List.takeWhile_append_dropWhile (p := (· != '\n')) (l := r)
      rw [← hsplit, Text.nonblanks_append, hsplit, List.self_eq_append_right] at htag
      exact nonblanks_dropWhile_ne_nil h ⟨'\n', hr, rfl⟩ htag
  · rintro ⟨hl, hr⟩
    have hline : ∀ c ∈ r, (c != '\n') = true := fun c hc =>
      bne_iff_ne.2 fun heq => hr (heq ▸ hc)
    rw [if_neg hl, List.takeWhile_eq_self_iff.2 hline]

theorem Request.ofText_of_no_separator (h : ∀ sep, IsSeparator sep → ¬ sep <:+: Text.trim text) :
    Request.ofText text = ⟨Text.trim text, []⟩ := by
  rw [Request.ofText]
  split
  · rename_i l r hsplit
    obtain ⟨sep, hfirst, -⟩ := splitSeparator?_eq_some_iff.1 hsplit
    exact absurd ⟨l, r, by rw [hfirst.eq, List.append_assoc]⟩ (h sep hfirst.isSeparator)
  · rfl

/-- An input is split without loss exactly if no line break stands on either side of its first
separator.  With a line break in front it is not split at all, and what stands behind the first line
break after the separator is lost. -/
theorem splitsFirst_iff (text : Text) :
    (SplitsFirst text ↔
      ∀ l sep r, FirstSeparator (Text.trim text) l sep r → '\n' ∉ l ∧ '\n' ∉ r) ∧
    (∀ l sep r, FirstSeparator (Text.trim text) l sep r →
      Request.ofText text = if '\n' ∈ l then ⟨Text.trim text, []⟩
        else ⟨Text.trim l, Text.trim (r.takeWhile (· != '\n'))⟩) ∧
    (SplitsFirst text → ∀ l sep r, FirstSeparator (Text.trim text) l sep r →
      nonblanks text = nonblanks (Request.ofText text).value ++
        (nonblanks sep ++ nonblanks (Request.ofText text).tag)) := by
  have hsplits : SplitsFirst text → ∀ l sep r, FirstSeparator (Text.trim text) l sep r →
      Request.ofText text = ⟨Text.trim l, Text.trim r⟩ := by
    intro h l sep r hfirst
    obtain ⟨l', sep', r', hfirst', heq⟩ := h.1 sep hfirst.isSeparator
      ⟨l, r, by rw [hfirst.eq, List.append_assoc]⟩
    obtain ⟨rfl, -, rfl⟩ := hfirst.unique hfirst'
    exact heq
  refine ⟨⟨fun h l sep r hfirst => ?_, fun h => ⟨?_, Request.ofText_of_no_separator⟩⟩,
    fun l sep r => Request.ofText_eq, fun h l sep r hfirst => ?_⟩
  · exact hfirst.ofText_iff.1 (hsplits h l sep r hfirst)
  · rintro sep hsep ⟨l, r, heq⟩
    obtain ⟨l', sep', r', hfirst⟩ :=
      exists_firstSeparator hsep (heq.symm.trans (List.append_assoc l sep r))
    exact ⟨l', sep', r', hfirst, hfirst.ofText_iff.2 (h l' sep' r' hfirst)⟩
  · rw [hsplits h l sep r hfirst, Text.nonblanks_trim, Text.nonblanks_trim, hfirst.nonblanks_eq]

/-- Of two separators the first one counts, the other one is part of the tag. -/
theorem splitsFirst_twoSeparators :
    let text := " ff TO  hex -> 2\n".toList
    SplitsFirst text ∧ ∃ l sep r, FirstSeparator (Text.trim text) l sep r ∧
      Request.ofText text = ⟨"ff".toList, "hex -> 2".toList⟩ ∧
      nonblanks text = nonblanks "ff".toList ++ (nonblanks sep ++ nonblanks "hex -> 2".toList) := by
  intro text
  obtain ⟨hiff, -, hkept⟩ := splitsFirst_iff text
  have hbreak : '\n' ∉ Text.trim text := by decide +kernel
  have hsplits : SplitsFirst text := hiff.2 fun l sep r hfirst => by
    rw [hfirst.eq, List.mem_append, List.mem_append, not_or, not_or] at hbreak
    exact ⟨hbreak.1, hbreak.2.2⟩
  have harrow : ['-', '>'] <:+: Text.trim text := ⟨"ff TO  hex ".toList, " 2".toList, rfl⟩
  obtain ⟨l, sep, r, hfirst, -⟩ := hsplits.1 _ .arrow harrow
  exact ⟨hsplits, l, sep, r, hfirst, rfl, hkept hsplits l sep r hfirst⟩

/-- With a line break in front of it a separator is not found. -/
theorem not_splitsFirst_secondLine : ¬ SplitsFirst "1\n2 -> hex".toList := by
  intro h
  have harrow : ['-', '>'] <:+: Text.trim "1\n2 -> hex".toList :=
    ⟨"1\n2 ".toList, " hex".toList, rfl⟩
  obtain ⟨l, sep, r, hfirst, heq⟩ := h.1 _ .arrow harrow
  have hsplit := splitSeparator?_eq_some_iff.2 ⟨sep, hfirst, (hfirst.ofText_iff.1 heq).1⟩
  cases hsplit

end Abacus.Numeral
