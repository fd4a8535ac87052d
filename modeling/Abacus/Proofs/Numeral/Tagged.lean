import Abacus.Proofs.Numeral.Separator

/-!
# Values with a tag behind them

A separator and a tag behind a value that has none add one rendering and leave the others alone.
The separator that was put there is the first one, unless the value ends with a word `to` of its
own: then that word becomes the separator as soon as a blank follows it.
-/

namespace Abacus.Numeral

open Text (isBlank isLetter)

variable {s t g w l sep r : Text}

/-- The text holds no separator. -/
def Unseparated (s : Text) : Prop := ∀ sep, IsSeparator sep → ¬ sep <:+: s

/-- The text ends with the word `to` behind a blank. -/
def EndsInTo (s : Text) : Prop :=
  ∃ u c t o, s = u ++ [c, t, o] ∧ isBlank c ∧ isLetter 't' t ∧ isLetter 'o' o

theorem unseparated_of_splitSeparator? (h : splitSeparator? s = none) (hline : '\n' ∉ s) :
    Unseparated s := by
  rintro sep hsep ⟨l, r, rfl⟩
  obtain ⟨l', sep', r', hfirst⟩ := exists_firstSeparator hsep (List.append_assoc l sep r)
  have hline' : '\n' ∉ l' := fun hmem => hline (hfirst.eq ▸ List.mem_append_left _ hmem)
  rw [splitSeparator?_eq_some_iff.2 ⟨sep', hfirst, hline'⟩] at h
  cases h

theorem word_letters {a b : Char} (ha : isLetter 't' a) (hb : isLetter 'o' b) :
    ∀ c ∈ [a, b], isBlank c = false ∧ Text.isDecimal c = false ∧ c ≠ '#' := by
  rcases cases_of_isLetter (by decide) (by decide) ha with rfl | rfl <;>
    rcases cases_of_isLetter (by decide) (by decide) hb with rfl | rfl <;> decide

/-! ## Where a separator can stand -/

/-- Blanks and the two letters of a word do not come to an end within a text and go on behind a
blank that follows it, if the last character of the text is no blank. -/
theorem not_word_across {a u x : Text} {t o e : Char} (hu : ∀ c ∈ u, isBlank c)
    (ht : isLetter 't' t) (ho : isLetter 'o' o) (hne : a ≠ [])
    (hlast : ∀ c ∈ a.getLast?, isBlank c = false) (he : isBlank e) : u ++ [t, o] ≠ a ++ e :: x := by
  intro heq
  rcases List.append_eq_append_iff.1 heq with ⟨y, rfl, hy⟩ | ⟨y, rfl, hy⟩
  · have hmem : e ∈ [t, o] := hy ▸ List.mem_append_right y List.mem_cons_self
    simp [(word_letters ht ho e hmem).1] at he
  · obtain ⟨c, hc⟩ : ∃ c, a.getLast? = some c := ⟨_, List.getLast?_eq_some_getLast hne⟩
    have hblank := hu c (List.mem_append_left y (List.mem_of_getLast? hc))
    simp [hlast c hc] at hblank

/-- An arrow that starts in a text with a blank behind it stands in the text. -/
theorem arrow_within {a : Text} {e : Char} (hne : a ≠ []) (he : isBlank e)
    (h : a ++ e :: w = ['-', '>'] ++ r) : ∃ x, a = ['-', '>'] ++ x := by
  match a, h with
  | [], _ => exact absurd rfl hne
  | [c], h =>
    cases h
    exact absurd he (by decide)
  | c :: d :: a, h =>
    cases h
    exact ⟨a, rfl⟩

/-- A word that starts in a text with a blank behind it is a separator in the text, or the text ends
in the word. -/
theorem word_within {a u v : Text} {t o e : Char} (hne : a ≠ [])
    (hlast : ∀ c ∈ a.getLast?, isBlank c = false) (he : isBlank e) (hu : ∀ c ∈ u, isBlank c)
    (hu' : u ≠ []) (ht : isLetter 't' t) (ho : isLetter 'o' o) (hv : ∀ c ∈ v, isBlank c)
    (hv' : v ≠ []) (h : a ++ e :: w = (u ++ [t, o]) ++ (v ++ r)) :
    EndsInTo a ∨ ∃ sep x, IsSeparator sep ∧ a = sep ++ x := by
  have hends : a = u ++ [t, o] → EndsInTo a := by
    rintro rfl
    obtain ⟨u, c, rfl⟩ := (List.eq_nil_or_concat u).resolve_left hu'
    exact ⟨u, c, t, o, by simp, hu c (by simp), ht, ho⟩
  rcases List.append_eq_append_iff.1 h with ⟨x, hx, hrest⟩ | ⟨x, rfl, hx⟩
  · cases x with
    | nil => exact .inl (hends (by simpa using hx.symm))
    | cons d x =>
      obtain ⟨rfl, -⟩ := List.cons.inj hrest
      exact absurd hx (not_word_across hu ht ho hne hlast he)
  · cases x with
    | nil => exact .inl (hends (List.append_nil _))
    | cons d x =>
      -- a blank of the text follows the letters
      obtain ⟨f, v, rfl⟩ := List.exists_cons_of_ne_nil hv'
      obtain ⟨rfl, -⟩ := List.cons.inj hx
      have hword : IsSeparator (u ++ t :: o :: [f]) :=
        .word hu hu' ht ho (fun c hc => by
          obtain rfl := List.mem_singleton.1 hc
          exact hv c List.mem_cons_self) (by simp)
      exact .inr ⟨_, x, hword, by simp⟩

/-- What follows a text without a separator behind a blank makes none that starts in the text. -/
theorem le_length_of_separator {e : Char} (hs : Text.IsTrimmed s) (hnone : Unseparated s)
    (hto : ¬ EndsInTo s) (he : isBlank e) (hsep : IsSeparator sep)
    (heq : s ++ e :: w = l ++ (sep ++ r)) : s.length ≤ l.length := by
  by_contra hlt
  -- the part of the text from where the separator starts
  obtain ⟨a, rfl, ha⟩ : ∃ a, s = l ++ a ∧ a ++ e :: w = sep ++ r := by
    rcases List.append_eq_append_iff.1 heq with ⟨y, rfl, -⟩ | ⟨a, rfl, ha⟩
    · simp at hlt
    · exact ⟨a, rfl, ha.symm⟩
  have hne : a ≠ [] := by
    rintro rfl
    simp at hlt
  have hlast : ∀ c ∈ a.getLast?, isBlank c = false := fun c hc => by
    refine hs.last c ?_
    rw [List.getLast?_append, hc]
    rfl
  cases hsep with
  | arrow =>
    obtain ⟨x, rfl⟩ := arrow_within hne he ha
    exact hnone _ .arrow ⟨l, x, by simp⟩
  | word hu hu' ht ho hv hv' =>
    rcases word_within hne hlast he hu hu' ht ho hv hv' (by simpa using ha) with
      ⟨y, c, t, o, rfl, hends⟩ | ⟨sep, x, hsep, rfl⟩
    · exact hto ⟨l ++ y, c, t, o, by simp, hends⟩
    · exact hnone sep hsep ⟨l, x, by simp⟩

/-- If no separator starts within a text, the first one of what follows is the first one. -/
theorem FirstSeparator.append (h : FirstSeparator w l sep r)
    (hle : ∀ l' sep' r', IsSeparator sep' → s ++ w = l' ++ (sep' ++ r') → s.length ≤ l'.length) :
    FirstSeparator (s ++ w) (s ++ l) sep r := by
  refine ⟨by rw [h.eq, List.append_assoc], h.isSeparator, fun l' sep' r' hsep' heq => ?_,
    fun sep' r' hsep' heq => ?_⟩
  · obtain ⟨l'', rfl⟩ : ∃ l'', l' = s ++ l'' := by
      have hfront : s <+: l' := List.prefix_of_prefix_length_le ⟨w, heq⟩ ⟨_, rfl⟩
        (hle l' sep' r' hsep' heq)
      exact hfront.imp fun _ => Eq.symm
    rw [List.append_assoc, List.append_cancel_left_eq] at heq
    rw [List.length_append, List.length_append]
    exact Nat.add_le_add_left (h.leftmost l'' sep' r' hsep' heq) _
  · rw [List.append_assoc, List.append_cancel_left_eq] at heq
    exact h.longest sep' r' hsep' heq

/-- An arrow between blanks. -/
theorem firstSeparator_arrow (hs : Text.IsTrimmed s) (hnone : Unseparated s) (hto : ¬ EndsInTo s)
    (r : Text) : FirstSeparator (s ++ " ->".toList ++ r) (s ++ [' ']) ['-', '>'] r := by
  have harrow : FirstSeparator (" ->".toList ++ r) [' '] ['-', '>'] r := by
    refine (firstSeparator_cons_iff ?_).2
      ⟨[], rfl, (firstSeparator_iff_of_length? rfl).2 ⟨rfl, rfl, rfl⟩⟩
    rfl
  rw [List.append_assoc]
  exact harrow.append fun l' sep' r' hsep' => le_length_of_separator hs hnone hto (by decide) hsep'

/-- The word between blanks, all those in front of the tag included. -/
theorem firstSeparator_word (hs : Text.IsTrimmed s) (hnone : Unseparated s) (hto : ¬ EndsInTo s)
    {v : Text} (hv : ∀ c ∈ v, isBlank c) (hr : ∀ c ∈ r.head?, isBlank c = false) :
    FirstSeparator (s ++ " to ".toList ++ (v ++ r)) s (" to ".toList ++ v) r := by
  have hword : FirstSeparator (" to ".toList ++ (v ++ r)) [] (" to ".toList ++ v) r := by
    have hblank : ∀ c ∈ ' ' :: v, isBlank c := List.forall_mem_cons.2 ⟨by decide, hv⟩
    have hlen := separatorLength?_word (u := [' ']) (t := 't') (o := 'o') (by decide) (by simp)
      (by decide) (by decide) hblank (by simp) hr
    refine (firstSeparator_iff_of_length? hlen).2 ⟨rfl, ?_, ?_⟩
    · simp
    · simp
  have h := hword.append fun l' sep' r' hsep' =>
    le_length_of_separator hs hnone hto (by decide) hsep'
  rwa [List.append_nil, ← List.append_assoc] at h

/-! ## What a tag adds -/

/-- Trimming takes nothing of a value, and leaves of the tag blanks and the trimmed tag. -/
theorem exists_trim_append (hs : Text.IsTrimmed s) (hne : s ≠ []) (hg : Text.trim g ≠ [])
    (k : Text) : ∃ u, (∀ c ∈ u, isBlank c) ∧ (∀ c ∈ u ++ Text.trim g, c ∈ g) ∧
      Text.trim (s ++ k ++ g) = s ++ k ++ (u ++ Text.trim g) := by
  obtain ⟨u, v, hsplit, hu, hv⟩ := Text.exists_trim g
  refine ⟨u, hu, fun c hc => ?_, ?_⟩
  · rw [hsplit, ← List.append_assoc]
    exact List.mem_append_left v hc
  · have heq : s ++ k ++ g = s ++ k ++ (u ++ (Text.trim g ++ v)) := congrArg (s ++ k ++ ·) hsplit
    have hbetween := Text.trim_between (List.forall_mem_nil _)
      (hs.append hne (Text.isTrimmed_trim g) hg (k ++ u)) hv
    rw [heq]
    simpa using hbetween

theorem ofText_arrow (hs : Text.IsTrimmed s) (hne : s ≠ []) (hnone : Unseparated s)
    (hto : ¬ EndsInTo s) (hline : '\n' ∉ s) (hg : Text.trim g ≠ []) (hgline : '\n' ∉ g) :
    Request.ofText (s ++ " -> ".toList ++ g) = ⟨s, Text.trim g⟩ := by
  obtain ⟨u, hu, hmem, htrim⟩ := exists_trim_append hs hne hg " -> ".toList
  have hfirst : FirstSeparator (Text.trim (s ++ " -> ".toList ++ g)) (s ++ [' ']) ['-', '>']
      (' ' :: (u ++ Text.trim g)) := by
    rw [htrim]
    have := firstSeparator_arrow hs hnone hto (' ' :: (u ++ Text.trim g))
    simpa using this
  have htail : '\n' ∉ ' ' :: (u ++ Text.trim g) := by
    rw [List.mem_cons, not_or]
    exact ⟨by decide, fun hbreak => hgline (hmem _ hbreak)⟩
  have hvalue := Text.trim_between (List.forall_mem_nil _) hs (v := [' ']) (by decide)
  have htag := Text.trim_between (u := ' ' :: u) (List.forall_mem_cons.2 ⟨by decide, hu⟩)
    (Text.isTrimmed_trim g) (List.forall_mem_nil _)
  rw [List.nil_append] at hvalue
  rw [List.append_nil] at htag
  rw [hfirst.ofText_iff.2 ⟨by simpa using hline, htail⟩, hvalue]
  exact congrArg (Request.mk s) htag

theorem ofText_word (hs : Text.IsTrimmed s) (hne : s ≠ []) (hnone : Unseparated s)
    (hto : ¬ EndsInTo s) (hline : '\n' ∉ s) (hg : Text.trim g ≠ []) (hgline : '\n' ∉ g) :
    Request.ofText (s ++ " to ".toList ++ g) = ⟨s, Text.trim g⟩ := by
  obtain ⟨u, hu, hmem, htrim⟩ := exists_trim_append hs hne hg " to ".toList
  have hfirst : FirstSeparator (Text.trim (s ++ " to ".toList ++ g)) s (" to ".toList ++ u)
      (Text.trim g) := by
    rw [htrim]
    exact firstSeparator_word hs hnone hto hu (Text.isTrimmed_trim g).head
  have htail : '\n' ∉ Text.trim g := fun hbreak => hgline (hmem _ (List.mem_append_right u hbreak))
  rw [hfirst.ofText_iff.2 ⟨hline, htail⟩, hs.trim_eq, (Text.isTrimmed_trim g).trim_eq]

/-! ## A word at the end of the value -/

variable {x v u d sign : Text} {n : Numeral}

theorem exists_splitSigns (s : Text) :
    ∃ p, s = p ++ (splitSigns s).2 ∧ ∀ c ∈ p, isSign c := by
  unfold splitSigns
  split <;> dsimp only <;> split
  · exact ⟨['+', '-'], rfl, by decide⟩
  · exact ⟨['+'], rfl, by decide⟩
  · exact ⟨['-'], rfl, by decide⟩
  · exact ⟨[], rfl, List.forall_mem_nil _⟩

/-- In a line that is read without a base of its own stand no other characters than in such texts,
signs and low lines apart. -/
theorem isBareChar_of_readBare (hs : Text.IsTrimmed s) (hline : '\n' ∉ s) (h : readBare s = .ok n)
    {c : Char} (hc : c ∈ s) (hsign : isSign c = false) (hlow : c ≠ '_') : IsBareChar c := by
  obtain ⟨p, hp, hsigns⟩ := exists_splitSigns s
  obtain ⟨ds, m, hspelled, hread⟩ := exists_spelledDigits?_of_readBare h
  rw [hs.trim_eq] at hspelled
  have hmem : c ∈ plain (splitSigns s).2 := by
    refine mem_plain.2 ⟨?_, hlow⟩
    rw [hp] at hc
    refine (List.mem_append.1 hc).resolve_left fun hc => ?_
    simp [hsigns c hc] at hsign
  rcases spells_of_read hspelled hread with hspells | ⟨-, t, ht, -⟩
  · exact hspells.isBareChar hread c hmem
  · have hbreak : '\n' ∈ plain (splitSigns s).2 := by simp [ht]
    have hbreak' : '\n' ∈ s := by
      rw [hp]
      exact List.mem_append_right p (mem_plain.1 hbreak).1
    exact absurd hbreak' hline

/-- In blanks followed by characters that are none all blanks come first. -/
theorem isBlank_of_append {e q z : Text} {c : Char} (hv : ∀ c ∈ v, isBlank c)
    (he : ∀ c ∈ e, isBlank c = false) (hc : isBlank c) (heq : v ++ e = q ++ c :: z) :
    ∀ d ∈ q, isBlank d := by
  rcases List.append_eq_append_iff.1 heq with ⟨y, -, hy⟩ | ⟨y, rfl, -⟩
  · have hmem : c ∈ e := hy ▸ List.mem_append_right y List.mem_cons_self
    simp [he c hmem] at hc
  · exact fun d hd => hv d (List.mem_append_left y hd)

theorem HashForm.exists_concat (h : HashForm (x ++ (v ++ w)) u sign d) (hx : Text.IsTrimmed x)
    (hs : Text.IsTrimmed (x ++ (v ++ w))) (hv : ∀ c ∈ v, isBlank c) (hne : v ≠ []) (hw : '#' ∉ w) :
    ∃ y, x = y ++ ['#'] := by
  generalize hsplit : x ++ (v ++ w) = s at h hs
  obtain @⟨v₀, u, v₁, v₂, sign, d, v₃, -, -, -, h₂, hsign, hned, hd, h₃⟩ := h
  have hend : ∀ c ∈ sign ++ d, isBlank c = false := isBlank_of_mem_sign_append hsign fun c hc =>
    isBlank_of_isCaselessDigitChar (isCaselessDigitChar_of_isDigitChar (hd c hc))
  obtain rfl : v₃ = [] := by
    refine Text.IsTrimmed.eq_nil_of_back
      (s := v₀ ++ (u ++ (v₁ ++ '#' :: (v₂ ++ (sign ++ d))))) ?_ h₃
    simpa using hs
  have heq : x ++ (v ++ w) = (v₀ ++ (u ++ (v₁ ++ ['#']))) ++ (v₂ ++ (sign ++ d)) := by
    rw [hsplit]
    simp
  rcases List.append_eq_append_iff.1 heq with ⟨y, hy, hrest⟩ | ⟨q, rfl, hrest⟩
  · -- the hash stands in front of the blanks
    rcases List.eq_nil_or_concat y with rfl | ⟨y, c, rfl⟩
    · exact ⟨v₀ ++ (u ++ v₁), by simpa using hy.symm⟩
    · have hhash : '#' ∈ v ++ w := by
        have hlast := congrArg List.getLast? hy
        obtain rfl : c = '#' := by simpa using hlast.symm
        rw [hrest]
        simp
      rcases List.mem_append.1 hhash with hhash | hhash
      · exact absurd (hv _ hhash) (by decide)
      · exact absurd hhash hw
  · -- only blanks stand behind the hash
    obtain ⟨c, v, rfl⟩ := List.exists_cons_of_ne_nil hne
    have hq := isBlank_of_append h₂ hend (hv c List.mem_cons_self) hrest
    obtain rfl := hx.eq_nil_of_back hq
    exact ⟨v₀ ++ (u ++ v₁), by simp⟩

theorem WordForm.exists_front (h : WordForm (x ++ (v ++ w)) u sign d) (hx : Text.IsTrimmed x)
    (hs : Text.IsTrimmed (x ++ (v ++ w))) (hv : ∀ c ∈ v, isBlank c) (hne : v ≠ [])
    (hw : ∀ c ∈ w, Text.isDecimal c = false) :
    ∃ b v₁, IsWord b ∧ (∀ c ∈ v₁, isBlank c) ∧ IsRadix u ∧ x = b ++ (v₁ ++ u) := by
  generalize hsplit : x ++ (v ++ w) = s at h hs
  obtain @⟨v₀, b, v₁, u, v₂, sign, d, v₃, h₀, hb, h₁, hu, -, h₂, hsign, hned, hd, h₃⟩ := h
  have hend : ∀ c ∈ sign ++ d, isBlank c = false := isBlank_of_mem_sign_append hsign fun c hc =>
    isBlank_of_isCaselessDigitChar (hd c hc)
  obtain rfl := hs.eq_nil_of_front h₀
  obtain rfl : v₃ = [] := by
    refine Text.IsTrimmed.eq_nil_of_back (s := b ++ (v₁ ++ (u ++ (v₂ ++ (sign ++ d))))) ?_ h₃
    simpa using hs
  refine ⟨b, v₁, hb, h₁, hu, ?_⟩
  have heq : x ++ (v ++ w) = (b ++ (v₁ ++ u)) ++ (v₂ ++ (sign ++ d)) := by
    rw [hsplit]
    simp
  rcases List.append_eq_append_iff.1 heq with ⟨y, hy, hrest⟩ | ⟨q, rfl, hrest⟩
  · -- the digits of the base stand in front of the blanks
    rcases List.eq_nil_or_concat y with rfl | ⟨y, c, rfl⟩
    · simpa using hy.symm
    · obtain ⟨u', e, rfl⟩ :=
        (List.eq_nil_or_concat u).resolve_left (List.length_pos_iff.1 hu.pos)
      have hdecimal := hu.decimal e (by simp)
      have hmem : e ∈ v ++ w := by
        have hlast := congrArg List.getLast? hy
        obtain rfl : e = c := by simpa using hlast
        rw [hrest]
        simp
      rcases List.mem_append.1 hmem with hmem | hmem
      · have hblank := hv e hmem
        simp [isBlank_of_isDecimal hdecimal] at hblank
      · simp [hw e hmem] at hdecimal
  · -- only blanks stand behind them
    obtain ⟨c, v, rfl⟩ := List.exists_cons_of_ne_nil hne
    have hq := isBlank_of_append h₂ hend (hv c List.mem_cons_self) hrest
    obtain rfl := hx.eq_nil_of_back hq
    simp

/-- A character that stands only where a base is named keeps a line from being read without one. -/
theorem read_ne_ok (hs : Text.IsTrimmed s) (hline : '\n' ∉ s) (hexplicit : explicitBase? s = none)
    {c : Char} (hc : c ∈ s) (hsign : isSign c = false) (hlow : c ≠ '_') (hbare : ¬ IsBareChar c) :
    read s ≠ .ok n := by
  intro h
  rw [read, hexplicit] at h
  exact hbare (isBareChar_of_readBare hs hline h hc hsign hlow)

/-- A base and a hash are not read without digits. -/
theorem read_concat_hash_ne_ok (hs : Text.IsTrimmed (s ++ ['#'])) (hline : '\n' ∉ s ++ ['#']) :
    read (s ++ ['#']) ≠ .ok n := by
  have hmem : '#' ∈ s ++ ['#'] := by simp
  refine read_ne_ok hs hline ?_ hmem (by decide) (by decide) fun h => h.ne_hash rfl
  rw [Option.eq_none_iff_forall_ne_some]
  rintro ⟨way, u, ds⟩ h
  obtain ⟨sign, d, -, ⟨-, hform⟩ | ⟨-, hform⟩⟩ := explicitBase?_eq_some.1 h
  · generalize hsplit : s ++ ['#'] = s' at hform
    obtain @⟨v₀, u, v₁, v₂, sign, d, v₃, -, -, -, -, -, hne, hd, h₃⟩ := hform
    -- the last character is a digit or a blank
    obtain ⟨c, hc⟩ : ∃ c, (d ++ v₃).getLast? = some c :=
      ⟨_, List.getLast?_eq_some_getLast (List.append_ne_nil_of_left_ne_nil hne v₃)⟩
    have heq : s ++ ['#'] = (v₀ ++ (u ++ (v₁ ++ '#' :: (v₂ ++ sign)))) ++ (d ++ v₃) := by
      rw [hsplit]
      simp
    obtain rfl : '#' = c := by
      have hlast := congrArg List.getLast? heq
      rw [List.getLast?_concat, List.getLast?_append, hc] at hlast
      exact Option.some.inj hlast
    rcases List.mem_append.1 (List.mem_of_getLast? hc) with hc | hc
    · exact absurd (hd _ hc) (by decide)
    · exact absurd (h₃ _ hc) (by decide)
  · exact hform.hash_notMem hmem

/-- The word and a base are not read without digits. -/
theorem read_word_ne_ok {b : Text} (hs : Text.IsTrimmed (b ++ (v ++ u)))
    (hline : '\n' ∉ b ++ (v ++ u)) (hhash : '#' ∉ b ++ (v ++ u)) (hb : IsWord b)
    (hv : ∀ c ∈ v, isBlank c) (hu : IsRadix u) : read (b ++ (v ++ u)) ≠ .ok n := by
  have hexplicit : explicitBase? (b ++ (v ++ u)) = none := by
    rw [Option.eq_none_iff_forall_ne_some]
    rintro ⟨way, u', ds⟩ h
    obtain ⟨sign, d, -, ⟨-, hform⟩ | ⟨-, hform⟩⟩ := explicitBase?_eq_some.1 h
    · exact hhash hform.hash_mem
    generalize hsplit : b ++ (v ++ u) = s' at hform hs
    obtain @⟨v₀, b', v₁, u', v₂, sign, d, v₃, h₀, hb', h₁, hu', hne, h₂, -⟩ := hform
    obtain rfl := hs.eq_nil_of_front h₀
    rw [List.nil_append] at hsplit
    -- the digits of the base would go on behind a blank
    have hlen : b.length = b'.length := by
      cases hb
      cases hb'
      rfl
    obtain ⟨-, hrest⟩ := List.append_inj hsplit hlen
    have hdrop := congrArg (List.dropWhile isBlank) hrest
    have hhead : ∀ {u r : Text}, IsRadix u → ∀ c ∈ (u ++ r).head?, isBlank c = false :=
      fun hu c hc => hu.forall_head c hc
    have hhead' := hhead (r := []) hu
    rw [List.append_nil] at hhead'
    rw [Text.dropWhile_append_eq hv hhead', Text.dropWhile_append_eq h₁ (hhead hu')] at hdrop
    obtain ⟨c, v₂, rfl⟩ := List.exists_cons_of_ne_nil hne
    have hblank := h₂ c List.mem_cons_self
    have hmem : c ∈ u := by simp [hdrop]
    simp [isBlank_of_isDecimal (hu.decimal c hmem)] at hblank
  obtain @⟨_, _, l, _, -, -, hl, -⟩ := hb
  have hsign : isSign l = false := by
    rw [Bool.eq_false_iff]
    intro hsign
    rw [isSign, Bool.or_eq_true, beq_iff_eq, beq_iff_eq] at hsign
    rcases hsign with rfl | rfl <;> exact absurd hl (by decide)
  have hlow : l ≠ '_' := by
    rintro rfl
    exact absurd hl (by decide)
  refine read_ne_ok hs hline hexplicit (by simp : l ∈ _) hsign hlow fun h => ?_
  simp [h.not_letter] at hl

/-- A value that ends in the word behind blanks is not read without the word. -/
theorem read_front_ne_ok {m : Numeral} (hx : Text.IsTrimmed x) (hs : Text.IsTrimmed (x ++ (v ++ w)))
    (hline : '\n' ∉ x ++ (v ++ w)) (hv : ∀ c ∈ v, isBlank c) (hne : v ≠ []) (hhash : '#' ∉ w)
    (hdecimal : ∀ c ∈ w, Text.isDecimal c = false) (h : read (x ++ (v ++ w)) = .ok m) :
    read x ≠ .ok n := by
  have hline' : '\n' ∉ x := fun hmem => hline (List.mem_append_left _ hmem)
  cases hexplicit : explicitBase? (x ++ (v ++ w)) with
  | none =>
    obtain ⟨c, v, rfl⟩ := List.exists_cons_of_ne_nil hne
    have hblank := hv c List.mem_cons_self
    have hsign : isSign c = false := (blank_cases hblank).2.1
    have hlow : c ≠ '_' := by
      rintro rfl
      exact absurd hblank (by decide)
    refine absurd h (read_ne_ok hs hline hexplicit (by simp : c ∈ _) hsign hlow fun h => ?_)
    simp [h.not_blank] at hblank
  | some parts =>
    obtain ⟨way, u, ds⟩ := parts
    obtain ⟨sign, d, -, ⟨-, hform⟩ | ⟨-, hform⟩⟩ := explicitBase?_eq_some.1 hexplicit
    · obtain ⟨y, rfl⟩ := hform.exists_concat hx hs hv hne hhash
      exact read_concat_hash_ne_ok hx hline'
    · have hnot : '#' ∉ x := fun hmem => hform.hash_notMem (List.mem_append_left _ hmem)
      obtain ⟨b, v₁, hb, h₁, hu, rfl⟩ := hform.exists_front hx hs hv hne hdecimal
      exact read_word_ne_ok hx hline' hnot hb h₁ hu

/-- A text that ends in the word, with the blanks in front of it. -/
theorem EndsInTo.exists_front (h : EndsInTo s) (hs : Text.IsTrimmed s) : ∃ x v t o,
    s = x ++ (v ++ [t, o]) ∧ Text.IsTrimmed x ∧ (∀ c ∈ v, isBlank c) ∧ v ≠ [] ∧ isLetter 't' t ∧
      isLetter 'o' o := by
  obtain ⟨y, c, t, o, rfl, hc, ht, ho⟩ := h
  obtain ⟨u, v, hsplit, hu, hv⟩ := Text.exists_trim (y ++ [c])
  obtain rfl : u = [] := by
    refine Text.IsTrimmed.eq_nil_of_front (s := Text.trim (y ++ [c]) ++ (v ++ [t, o])) ?_ hu
    have heq : y ++ [c, t, o] = (y ++ [c]) ++ [t, o] := by simp
    rw [heq, hsplit] at hs
    simpa using hs
  have hne : v ≠ [] := by
    rintro rfl
    rw [List.nil_append, List.append_nil] at hsplit
    have hlast := (Text.isTrimmed_trim (y ++ [c])).last c (by rw [← hsplit]; simp)
    simp [hc] at hlast
  refine ⟨Text.trim (y ++ [c]), v, t, o, ?_, Text.isTrimmed_trim _, hv, hne, ht, ho⟩
  rw [List.nil_append] at hsplit
  rw [← List.append_assoc, ← hsplit]
  simp

/-- Behind a value that ends in the word this word is the first separator. -/
theorem value_of_endsInTo {t o e : Char} {text : Text} (hx : Text.IsTrimmed x)
    (hnone : Unseparated (x ++ (v ++ [t, o]))) (hline : '\n' ∉ x) (hv : ∀ c ∈ v, isBlank c)
    (hne : v ≠ []) (ht : isLetter 't' t) (ho : isLetter 'o' o) (he : isBlank e)
    (htext : Text.trim text = x ++ (v ++ [t, o]) ++ e :: w) : (Request.ofText text).value = x := by
  have hword : IsSeparator (v ++ t :: o :: [e]) :=
    .word hv hne ht ho (by simpa using he) (by simp)
  have hx' : Unseparated x := fun sep hsep hwithin =>
    hnone sep hsep (hwithin.trans ⟨[], v ++ [t, o], rfl⟩)
  have hto : ¬ EndsInTo x := by
    rintro ⟨y, c, t', o', rfl, hc, ht', ho'⟩
    have hword' : IsSeparator ([c] ++ t' :: o' :: v) :=
      .word (by simpa using hc) (by simp) ht' ho' hv hne
    exact hnone _ hword' ⟨y, [t, o], by simp⟩
  obtain ⟨l, sep, r, hfirst⟩ := exists_firstSeparator (s := Text.trim text) (l := x) (r := w) hword
    (by rw [htext]; simp)
  obtain ⟨d, v, rfl⟩ := List.exists_cons_of_ne_nil hne
  have hle : x.length ≤ l.length := by
    refine le_length_of_separator (w := v ++ t :: o :: e :: w) (r := r) hx hx' hto
      (hv d List.mem_cons_self) hfirst.isSeparator ?_
    rw [← hfirst.eq, htext]
    simp
  have hge : l.length ≤ x.length := hfirst.leftmost x _ w hword (by rw [htext]; simp)
  obtain rfl : l = x := by
    have heq := hfirst.eq
    rw [htext, List.append_assoc] at heq
    exact (List.append_inj_left heq (Nat.le_antisymm hle hge)).symm
  rw [Request.ofText_eq hfirst, if_neg hline]
  exact hx.trim_eq

/-- The separators that stand between blanks. -/
def spacedSeparators : List Text := [" -> ".toList, " to ".toList]

theorem ofText_spaced {k : Text} (hk : k ∈ spacedSeparators) (hs : Text.IsTrimmed s) (hne : s ≠ [])
    (hnone : Unseparated s) (hto : ¬ EndsInTo s) (hline : '\n' ∉ s) (hg : Text.trim g ≠ [])
    (hgline : '\n' ∉ g) : Request.ofText (s ++ k ++ g) = ⟨s, Text.trim g⟩ := by
  rcases List.mem_pair.1 hk with rfl | rfl
  · exact ofText_arrow hs hne hnone hto hline hg hgline
  · exact ofText_word hs hne hnone hto hline hg hgline

theorem baseOfTag_trim (g : Text) : baseOfTag (Text.trim g) = baseOfTag g := by
  rw [baseOfTag, (Text.isTrimmed_trim g).trim_eq, ← baseOfTag]

end Abacus.Numeral

namespace Abacus.Conversion

open Numeral
open Text (isBlank isDecimal isLetter)

/-- A separator and a known tag behind a value without them change the rendering that comes first
and nothing else, unless the value ends in the word `to`.  That word then becomes the separator, and
what is left of the value is no numeral. -/
theorem ofText_tagged (t g : Text) (hnone : Unseparated (Text.trim t)) (hline : '\n' ∉ Text.trim t)
    (hg : Text.trim g ≠ []) (hgline : '\n' ∉ g) {n : Numeral} (hn : Numeral.ofText t = .ok n)
    {R : Conversion} (hR : Conversion.ofText t = .ok R) {target : Option Base}
    (htarget : baseOfTag g = .ok target) {k : Text} (hk : k ∈ spacedSeparators) :
    (¬ EndsInTo (Text.trim t) → Conversion.ofText (Text.trim t ++ k ++ g) =
      .ok { R with first := target.map fun b => Radix.render b n.value }) ∧
    (EndsInTo (Text.trim t) →
      ∃ f, Conversion.ofText (Text.trim t ++ k ++ g) = .error (.numeral f)) := by
  have hs := Text.isTrimmed_trim t
  obtain ⟨target', hread⟩ := exists_read_of_ofText hn
  rw [Request.ofText_of_no_separator hnone] at hread
  have hne : Text.trim t ≠ [] := fun hnil => by
    rw [hnil] at hread
    cases hread
  obtain rfl : ofNumeral n = R := by
    rw [Conversion.ofText, hn] at hR
    exact Except.ok.inj hR
  constructor
  · intro hto
    have htag : (⟨Text.trim t, Text.trim g⟩ : Request).hasTarget = true := by
      simpa [Request.hasTarget] using hg
    rw [Conversion.ofText, Numeral.ofText, ofText_spaced hk hs hne hnone hto hline hg hgline]
    dsimp only
    rw [hread]
    dsimp only
    rw [if_pos htag, baseOfTag_trim, htarget]
    rfl
  · intro hto
    obtain ⟨e, k, rfl, he⟩ : ∃ e k', k = e :: k' ∧ isBlank e := by
      rcases List.mem_pair.1 hk with rfl | rfl <;> exact ⟨' ', _, rfl, by decide⟩
    obtain ⟨u, -, -, htrim⟩ := exists_trim_append hs hne hg (e :: k)
    obtain ⟨x, v, t', o, hsplit, hx, hv, hvne, ht, ho⟩ := hto.exists_front hs
    rw [hsplit] at hnone hline hread hs
    have hxline : '\n' ∉ x := fun hmem => hline (List.mem_append_left _ hmem)
    have hvalue : (Request.ofText (Text.trim t ++ e :: k ++ g)).value = x := by
      refine value_of_endsInTo (w := k ++ (u ++ Text.trim g)) hx hnone hxline hv hvne ht ho he ?_
      rw [htrim, hsplit]
      simp
    have hhash : '#' ∉ [t', o] := fun hmem => (word_letters ht ho _ hmem).2.2 rfl
    have hdecimal : ∀ c ∈ [t', o], isDecimal c = false := fun c hc => (word_letters ht ho c hc).2.1
    cases hfront : read x with
    | ok m => exact absurd hfront (read_front_ne_ok hx hs hline hv hvne hhash hdecimal hread)
    | error f =>
      refine ⟨f, ?_⟩
      rw [Conversion.ofText, Numeral.ofText, hvalue, hfront]
      rfl

/-- A signed value with blanks around its hash, and in the same base a value that ends in the
word. -/
theorem ofText_tagged_hash :
    Conversion.ofText "30 # -fF to  bin ".toList = .ok (.ofInt (-465) (some .two)) ∧
      ∃ f, Conversion.ofText "30 # to to  bin ".toList = .error (.numeral f) := by
  have hk : " to ".toList ∈ spacedSeparators := List.mem_cons_of_mem _ List.mem_cons_self
  have htarget : baseOfTag " bin ".toList = .ok (some .two) := rfl
  have hfigures : ¬ EndsInTo "30 # -fF".toList := by
    rintro ⟨u, c, t, o, heq, -, -, ho⟩
    obtain rfl : 'F' = o := by simpa using congrArg List.getLast? heq
    exact absurd ho (by decide)
  have hword : EndsInTo "30 # to".toList :=
    ⟨"30 #".toList, ' ', 't', 'o', rfl, by decide, by decide, by decide⟩
  constructor
  · have hn : Numeral.ofText "30 # -fF".toList = .ok ⟨-465, .clamp 30, .radixHash, none⟩ := rfl
    have hR : Conversion.ofText "30 # -fF".toList = .ok (.ofInt (-465) none) := rfl
    exact (ofText_tagged "30 # -fF".toList " bin ".toList
      (unseparated_of_splitSeparator? rfl (by decide)) (by decide) (by decide) (by decide)
      hn hR htarget hk).1 hfigures
  · have hn : Numeral.ofText "30 # to".toList = .ok ⟨894, .clamp 30, .radixHash, none⟩ := rfl
    have hR : Conversion.ofText "30 # to".toList = .ok (.ofInt 894 none) := rfl
    exact (ofText_tagged "30 # to".toList " bin ".toList
      (unseparated_of_splitSeparator? rfl (by decide)) (by decide) (by decide) (by decide)
      hn hR htarget hk).2 hword

/-- The arrow behind such a value is not the first separator. -/
theorem not_tagged_of_endsInTo : ¬ ∀ (t g : Text) (n : Numeral) (R : Conversion)
    (target : Option Base), (Request.ofText t).tag = [] → Unseparated t →
    Numeral.ofText t = .ok n → Conversion.ofText t = .ok R → '\n' ∉ g → Text.trim g ≠ [] →
    baseOfTag g = .ok target → Conversion.ofText (Text.trim t ++ " -> ".toList ++ g) =
      .ok { R with first := target.map fun b => Radix.render b n.value } := by
  intro h
  have hn : Numeral.ofText "36# to".toList = .ok ⟨1068, .clamp 36, .radixHash, none⟩ := rfl
  have hR : Conversion.ofText "36# to".toList = .ok (.ofInt 1068 none) := rfl
  have htagged := h "36# to".toList "hex".toList _ _ (some .sixteen) rfl
    (unseparated_of_splitSeparator? rfl (by decide)) hn hR (by decide) (by decide) rfl
  cases htagged

end Abacus.Conversion
