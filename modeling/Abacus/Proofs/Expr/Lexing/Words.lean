import Abacus.Expr.NumeralTokens
import Abacus.Proofs.Expr.Lexing.Step
import Abacus.Proofs.Text.Tables

/-!
# Words and blanks between lexemes

A word of ASCII letters, digits and low lines is one lexeme of a calculation: a number if it starts
with a figure, and the name of a built-in otherwise.  Between the lexemes of a calculation no other
blanks stand than those that the grammar knows.
-/

namespace Abacus.Expr

open Radix (isDigitBelow)
open Text (isBlank isDecimal isWord)

variable {d : Nat} {s w v r : Text} {ls : List Lexeme}

/-! ## The characters of words -/

/-- ASCII letters, digits and the low line. -/
def isWordPart (c : Char) : Bool := isRunOf 36 c

theorem isWordPart_of_isRunOf {bound : Nat} {c : Char} (hbound : bound ≤ 36) (h : isRunOf bound c) :
    isWordPart c := by
  rcases Bool.or_eq_true_iff.1 h with h | h
  · rw [isWordPart, isRunOf, Radix.isDigitBelow_mono hbound h]
    rfl
  · rw [isWordPart, isRunOf, h, Bool.or_true]

/-- What is known of each character of a word. -/
structure WordPart (c : Char) : Prop where
  ascii : c.toNat < 128
  name : isNamePart c = true
  word : isWord c = true
  not_stop : isStop c = false
  not_blank : isBlank c = false

theorem wordPart {c : Char} (h : isWordPart c) : WordPart c := by
  have hlt : c.toNat < 128 := by
    rcases Bool.or_eq_true_iff.1 h with h | h
    · exact Radix.toNat_lt_of_isDigitBelow h
    · rw [beq_iff_eq.1 h]
      decide
  have hall : isNamePart c = true ∧ isWord c = true ∧ isStop c = false ∧ isBlank c = false :=
    Text.ascii_induction (P := fun c => isWordPart c → isNamePart c = true ∧ isWord c = true ∧
      isStop c = false ∧ isBlank c = false) (by decide +kernel) hlt h
  exact ⟨hlt, hall.1, hall.2.1, hall.2.2.1, hall.2.2.2⟩

/-! ## Numbers -/

/-- What a literal takes is a word, or it is made of the characters of decimals. -/
theorem numberAt?_parts {k : Constant} (h : numberAt? s = some (k, r)) :
    ∃ p, s = p ++ r ∧ ((∀ c ∈ p, isWordPart c) ∨ ∀ c ∈ p, isDecimalPart c) := by
  cases hbase : literalBase? s with
  | some base =>
    obtain ⟨-, m, ds, rfl, hm, -, hds⟩ := numberAt?_of_marked hbase h
    have hletters : ∀ m ∈ ['x', 'X', 'o', 'O', 'b', 'B'], isWordPart m := by decide
    refine ⟨'0' :: m :: ds, rfl, .inl (List.forall_mem_cons.2 ⟨by decide, ?_⟩)⟩
    exact List.forall_mem_cons.2 ⟨hletters m hm, fun c hc =>
      @isWordPart_of_isRunOf 16 c (by decide) (hds c hc)⟩
  | none =>
    obtain ⟨-, p, rfl, hp⟩ := numberAt?_of_decimal hbase h
    exact ⟨p, rfl, .inr hp⟩

/-- A literal with a stop behind it takes a word as a whole and nothing else, if a character of the
word, or the one behind it, stands in no decimal. -/
theorem eq_of_numberAt? {k : Constant} (hne : w ≠ []) (hw : ∀ c ∈ w, isWordPart c)
    (hv : ∀ c ∈ v.head?, isWordPart c = false)
    (hdecimal : (∃ c ∈ w, isDecimalPart c = false) ∨ ∀ c ∈ v.head?, isDecimalPart c = false)
    (h : numberAt? (w ++ v) = some (k, r)) (hr : Stops r) : r = v := by
  obtain ⟨p, hp, hparts⟩ := numberAt?_parts h
  rcases List.append_eq_append_iff.1 hp with ⟨q, rfl, rfl⟩ | ⟨q, rfl, rfl⟩
  · -- the literal reaches over the word
    cases q with
    | nil => rfl
    | cons c q =>
      exfalso
      rcases hparts with hparts | hparts
      · have := hparts c (by simp)
        rw [hv c rfl] at this
        cases this
      · rcases hdecimal with ⟨e, he, hnot⟩ | hnot
        · rw [hparts e (by simp [he])] at hnot
          cases hnot
        · have := hparts c (by simp)
          rw [hnot c rfl] at this
          cases this
  · -- the literal ends within the word, or with it
    cases q with
    | nil => rfl
    | cons c q =>
      have := hr c rfl
      rw [(wordPart (hw c (by simp))).not_stop] at this
      cases this

theorem startsNumber_of_isDigit {c : Char} (hc : c.isDigit) (s : Text) : startsNumber (c :: s) := by
  have hpoint : c ≠ '.' := by
    rintro rfl
    cases hc
  rw [startsNumber_cons hpoint, hc]

/-- At a figure a number is taken. -/
theorem step?_figure {c : Char} (hc : c.isDigit) (d : Nat) (s : Text) :
    step? d (c :: s) = (numberAt? (c :: s)).map fun p =>
      (some (.number p.1), (c :: s).length - p.2.length) := by
  have hclass : isGap c = false ∧ (c == '#') = false ∧ (c == '\n') = false :=
    Text.digit_induction (P := fun c => isGap c = false ∧ (c == '#') = false ∧ (c == '\n') = false)
      (by decide) hc
  obtain ⟨hgap, hhash, hbreak⟩ := hclass
  rw [step?, hgap, hhash, hbreak, startsNumber_of_isDigit hc]
  rfl

/-- Where a number starts, one is taken. -/
theorem Lexes.exists_number {c : Char} (h : Lexes d (c :: s) ls) (hc : c.isDigit) :
    ∃ k r ls', numberAt? (c :: s) = some (k, r) ∧ ls = .number k :: ls' ∧ Lexes d r ls' := by
  have hstep := step?_figure hc d s
  obtain ⟨o, n, hsome⟩ := h.exists_step
  rw [hstep] at hsome
  obtain ⟨⟨k, r⟩, hk, -⟩ := Option.map_eq_some_iff.1 hsome
  obtain ⟨-, p, hp, -⟩ := numberAt?_eq_some hk
  have hlen := length_lt_of_numberAt? (startsNumber_of_isDigit hc s) hk
  have hne : p ≠ [] := by
    rintro rfl
    rw [hp] at hlen
    exact Nat.lt_irrefl _ hlen
  rw [hk, hp] at hstep
  rw [hp] at h
  obtain ⟨ls', rfl, hrest⟩ := h.of_lexeme hne (by simpa using hstep)
  exact ⟨k, r, ls', hk, rfl, hrest⟩

/-- A word that starts with a figure is a number. -/
theorem Lexes.of_figure {c : Char} (h : Lexes d (c :: w ++ v) ls) (hclean : Clean ls)
    (hc : c.isDigit) (hw : ∀ e ∈ c :: w, isWordPart e) (hv : ∀ e ∈ v.head?, isWordPart e = false)
    (hdecimal : (∃ e ∈ c :: w, isDecimalPart e = false) ∨ ∀ e ∈ v.head?, isDecimalPart e = false) :
    ∃ k ls', numberAt? (c :: w ++ v) = some (k, v) ∧ Stops v ∧ ls = .number k :: ls' ∧
      Lexes d v ls' := by
  obtain ⟨k, r, ls', hk, rfl, hrest⟩ := Lexes.exists_number (s := w ++ v) h hc
  have hr : Stops r := hrest.stops hclean
  obtain rfl := eq_of_numberAt? (w := c :: w) (List.cons_ne_nil c w) hw hv hdecimal hk hr
  exact ⟨k, ls', hk, hr, rfl, hrest⟩

/-! ## Names -/

theorem keyword_ascii : ∀ k ∈ keywords, ∀ c ∈ k.1, c.toNat < 128 := by decide +kernel

/-- A name beyond ASCII starts as an identifier. -/
theorem nameLexeme?_eq_none {c : Char} (hc : ¬ c.toNat < 128)
    (hstart : Text.startsIdentifier c = false) : nameLexeme? (c :: s) = none := by
  have hkeyword : keywords.lookup (c :: s) = none := by
    rw [Option.eq_none_iff_forall_ne_some]
    intro k hk
    obtain ⟨ys, zs, hmem, -⟩ := List.lookup_eq_some_iff.1 hk
    exact hc (keyword_ascii (c :: s, k) (by simp [hmem]) c List.mem_cons_self)
  have hascii : ((c :: s).all fun c => decide (c.toNat < 128)) = false := by
    rw [List.all_cons, decide_eq_false hc]
    rfl
  rw [nameLexeme?, hkeyword, hascii]
  simp [Text.isIdentifier, hstart]

/-- Where a name starts, the name of a built-in is taken. -/
theorem Lexes.exists_name {c : Char} (h : Lexes d (c :: s) ls) (hclean : Clean ls)
    (hc : isNamePart c) (hdigit : c.isDigit = false) :
    ∃ id ls', nameLexeme? ((c :: s).takeWhile isNamePart) = some (.name id) ∧ isAllowedName id ∧
      ls = .name id :: ls' := by
  have hne : ∀ e ∈ [' ', '\t', '\x0c', '#', '\n', '.'], c ≠ e := by
    rintro e he rfl
    have hnot : ∀ e ∈ [' ', '\t', '\x0c', '#', '\n', '.'], isNamePart e = false :=
      List.all_iff_forall_prop.1 (by decide)
    rw [hnot c he] at hc
    cases hc
  simp only [List.forall_mem_cons] at hne
  obtain ⟨hspace, htab, hfeed, hhash, hbreak, hpoint, -⟩ := hne
  have hgap : ¬ isGap c = true := by
    rw [isGap_iff]
    simp [hspace, htab, hfeed]
  have hstart : startsNumber (c :: s) = false := by rw [startsNumber_cons hpoint, hdigit]
  obtain ⟨o, n, hstep⟩ := h.exists_step
  have htake := hstep
  rw [step?, if_neg hgap, if_neg (by simpa using hhash), if_neg (by simpa using hbreak),
    hstart, if_neg Bool.false_ne_true, if_pos hc] at htake
  obtain ⟨l, hl, heq⟩ := Option.map_eq_some_iff.1 htake
  cases heq
  obtain ⟨p, v, hs, hp, hn, -⟩ := exists_of_step? hstep
  rw [hn, hs] at hstep
  rw [hs] at h
  obtain ⟨ls', rfl, -⟩ := h.of_lexeme hp hstep
  have hword := isWord_of_nameLexeme? hl
  rcases hclean.head with hplain | rfl
  · cases l with
    | name id => exact ⟨id, ls', hl, hplain, rfl⟩
    | number k => exact absurd hl nameLexeme?_ne_number
    | keyword k => cases hplain
    | mark m => cases hword
    | newline => cases hword
  · cases hword

/-- A blank beyond ASCII ends no name, but makes it unreadable. -/
theorem nameLexeme?_append_blank {c e : Char} (he : isBlank e) (hlt : ¬ e.toNat < 128) (u : Text) :
    nameLexeme? (c :: w ++ e :: u) = none := by
  have hmem : e ∈ c :: w ++ e :: u := by simp
  have hkeyword : keywords.lookup (c :: w ++ e :: u) = none := by
    rw [Option.eq_none_iff_forall_ne_some]
    intro k hk
    obtain ⟨ys, zs, hkeywords, -⟩ := List.lookup_eq_some_iff.1 hk
    exact hlt (keyword_ascii (_, k) (by rw [hkeywords]; simp) e hmem)
  have hascii : ((c :: w ++ e :: u).all fun c => decide (c.toNat < 128)) = false := by
    rw [List.all_eq_false]
    exact ⟨e, hmem, by simpa using hlt⟩
  have hidentifier : Text.isIdentifier (c :: w ++ e :: u) = false := by
    rw [List.cons_append, Text.isIdentifier, Bool.and_eq_false_iff, List.all_eq_false]
    exact .inr ⟨e, by simp, by simp [Text.not_continuesIdentifier_of_isBlank he]⟩
  rw [nameLexeme?, hkeyword, hascii, hidentifier]
  rfl

/-- A word that starts with no figure is the name of a built-in. -/
theorem Lexes.isAllowedName_of_word {c : Char} (h : Lexes d (c :: w ++ v) ls) (hclean : Clean ls)
    (hc : c.isDigit = false) (hw : ∀ e ∈ c :: w, isWordPart e)
    (hv : ∀ e ∈ v.head?, isNamePart e = false ∨ isBlank e) : isAllowedName (c :: w) := by
  have hname : ∀ e ∈ c :: w, isNamePart e = true := fun e he => (wordPart (hw e he)).name
  obtain ⟨id, ls', hid, hallowed, -⟩ := Lexes.exists_name (s := w ++ v) h hclean
    (hname c List.mem_cons_self) hc
  have hascii : ((c :: w).all fun e => decide (e.toNat < 128)) = true := by
    rw [List.all_eq_true]
    exact fun e he => decide_eq_true (wordPart (hw e he)).ascii
  rw [← List.cons_append, List.takeWhile_append_of_pos hname] at hid
  cases hrun : v.takeWhile isNamePart with
  | nil =>
    rw [hrun, List.append_nil, nameLexeme?, hascii] at hid
    split at hid
    · cases hid
    · cases hid
      exact hallowed
  | cons e u =>
    exfalso
    cases v with
    | nil => cases hrun
    | cons e' v =>
      rw [List.takeWhile_cons] at hrun
      split at hrun
      · rename_i hpart
        obtain ⟨rfl, -⟩ := List.cons.inj hrun
        have hblank : isBlank e' := (hv e' rfl).resolve_left (by simp [hpart])
        have hlt : ¬ e'.toNat < 128 := fun hlt => by
          have hnot := Text.ascii_induction (P := fun e => isBlank e → isNamePart e = false)
            (by decide +kernel) hlt hblank
          rw [hpart] at hnot
          cases hnot
        rw [List.takeWhile_cons_of_pos hpart, nameLexeme?_append_blank hblank hlt] at hid
        cases hid
      · cases hrun

/-! ## Blanks -/

theorem not_isBlank_of_mark : ∀ k ∈ marks, ∀ c ∈ k.1.head?, isBlank c = false := by decide +kernel

/-- Other blanks than gaps and line breaks belong to no lexeme. -/
theorem step?_blank {c : Char} (hc : isBlank c) (hgap : isGap c = false) (hbreak : c ≠ '\n')
    (d : Nat) (s : Text) : step? d (c :: s) = none := by
  have hclass : (c == '#') = false ∧ (c == '.') = false ∧ c.isDigit = false ∧
      (c.isAlphanum || c == '_') = false :=
    Text.blank_induction (P := fun c => (c == '#') = false ∧ (c == '.') = false ∧
      c.isDigit = false ∧ (c.isAlphanum || c == '_') = false) (by decide) hc
  obtain ⟨hhash, hpoint, hdigit, hword⟩ := hclass
  have hstart : startsNumber (c :: s) = false := by
    rw [startsNumber_cons (beq_eq_false_iff_ne.1 hpoint), hdigit]
  rw [step?, hgap, hhash, beq_eq_false_iff_ne.2 hbreak, hstart]
  simp only [Bool.false_eq_true, if_false]
  by_cases hlt : c.toNat < 128
  · have hname : isNamePart c = false := by
      rw [isNamePart, hword, Bool.false_or, decide_eq_false (by omega)]
    rw [hname, if_neg Bool.false_ne_true, Option.map_eq_none_iff, Option.eq_none_iff_forall_ne_some]
    rintro ⟨m, n⟩ hm
    obtain ⟨k, v, hk, hmem, rfl⟩ := exists_of_markAt? hm
    obtain ⟨e, t, rfl⟩ := List.exists_cons_of_ne_nil (ne_nil_of_mem_marks _ hmem)
    obtain ⟨rfl, -⟩ := List.cons.inj hk
    rw [not_isBlank_of_mark _ hmem c rfl] at hc
    cases hc
  · have hname : isNamePart c = true := by
      rw [isNamePart, decide_eq_true (Nat.not_lt.1 hlt), Bool.or_true]
    rw [hname, if_pos rfl, List.takeWhile_cons_of_pos hname,
      nameLexeme?_eq_none hlt (Text.not_startsIdentifier (.inl hc))]
    rfl

/-- Blanks between lexemes are passed over, line breaks outside parentheses apart. -/
theorem Lexes.of_blanks {u : Text} (h : Lexes d (u ++ v) ls) (hu : ∀ c ∈ u, isBlank c) :
    ∃ ns ls', ls = ns ++ ls' ∧ (∀ l ∈ ns, l = .newline) ∧ Lexes d v ls' := by
  induction u generalizing ls with
  | nil => exact ⟨[], ls, rfl, nofun, h⟩
  | cons c u ih =>
    obtain ⟨hc, hblanks⟩ := List.forall_mem_cons.1 hu
    have hskip : step? d ([c] ++ (u ++ v)) = some (none, [c].length) →
        ∃ ns ls', ls = ns ++ ls' ∧ (∀ l ∈ ns, l = .newline) ∧ Lexes d v ls' := fun hstep =>
      ih (Lexes.of_skip (p := [c]) h (List.cons_ne_nil _ _) hstep) hblanks
    by_cases hbreak : c = '\n'
    · subst hbreak
      by_cases hd : d = 0
      · obtain ⟨ls₁, rfl, h₁⟩ := Lexes.of_lexeme (p := ['\n']) (l := .newline) h
          (List.cons_ne_nil _ _) (by rw [hd]; rfl)
        obtain ⟨ns, ls', rfl, hns, hrest⟩ := ih h₁ hblanks
        exact ⟨.newline :: ns, ls', rfl, List.forall_mem_cons.2 ⟨rfl, hns⟩, hrest⟩
      · exact hskip (by rw [List.singleton_append, step?_break, if_neg hd]; rfl)
    · cases hgap : isGap c with
      | false =>
        obtain ⟨o, n, hstep⟩ := Lexes.exists_step (c := c) (s := u ++ v) h
        rw [step?_blank hc hgap hbreak] at hstep
        cases hstep
      | true => exact hskip (step?_gap hgap d _)

end Abacus.Expr
