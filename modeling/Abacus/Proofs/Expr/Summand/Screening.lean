import Abacus.Proofs.Expr.Attempt
import Abacus.Proofs.Expr.Retry.Promotion
import Abacus.Proofs.Expr.Summand.Cuts

/-!
# Screening a leading zero

For the screening a word with a leading zero is a numeral: a zero is put in its place, maybe after a
binary numeral in it has been replaced.  The names that are looked up are then those of the text in
parentheses.
-/

namespace Abacus.Expr

open Numeral (isSign)
open Text (Pattern Piece isBlank isNameChar)

variable {c : Char} {u l r s : Text}

/-! ## Names on two sides -/

theorem normalized_plusEnclosed (hu : ∀ c ∈ u, c.toNat < 128) (r : Text) :
    Text.normalized (plusEnclosed u r) = plusEnclosed u (Text.normalized r) := by
  have hself : Text.normalized u = u := by
    rw [Text.normalized, if_pos]
    simpa using hu
  rw [plusEnclosed, Text.normalized_append (by decide), hself, Text.normalized_cons (by decide) rfl,
    Text.normalized_cons (by decide) rfl, Text.normalized_cons (by decide) rfl, enclosedText,
    Text.normalized_cons (by decide) rfl, Text.normalized_append (by decide)]
  rfl

/-- In front of the parentheses there are no names, if the numerals are all there is. -/
theorem unknownName?_plusEnclosed (hu : ∀ c ∈ u, c.toNat < 128)
    (hnames : ∀ c ∈ stripNumerals (u ++ [' ', '+', ' ']), isNameChar c = false) (r : Text) :
    unknownName? (plusEnclosed u r) = unknownName? r := by
  have hopen : plusEnclosed u (Text.normalized r) =
      (u ++ [' ', '+', ' ']) ++ '(' :: (Text.normalized r ++ ')' :: []) := by
    simp [plusEnclosed, enclosedText]
  have hparen : ∀ c ∈ ['(', ')'], isNameChar c = false := by decide
  rw [unknownName?, normalized_plusEnclosed hu, hopen, stripNumerals_append_cons (.inl rfl),
    stripNumerals_append_cons (.inr rfl), Text.runs_append_of_forall hnames,
    Text.runs_cons (hparen '(' (by decide)), Text.runs_append_cons (hparen ')' (by decide))]
  exact congrArg (List.find? _) (List.append_nil _)

/-! ## One numeral in front of a plus -/

/-- A sign is optional in front of a numeral, and so are blanks. -/
theorem length?_withSign {p : Pattern} (hs : ∀ c ∈ s.head?, isSign c = false ∧ isBlank c = false)
    (before : Option Char) : (withSign p).length? before s = p.length? before s := by
  have hspan : ∀ {q : Char → Bool} {limit : Option Nat}, (∀ c ∈ s.head?, q c = false) →
      Text.spanWithin q limit s = ([], s) := by
    intro q limit hq
    cases s with
    | nil => rfl
    | cons c s => simp [Text.spanWithin, hq c rfl]
  simp only [Pattern.length?, withSign, Piece.optional, Piece.many, Pattern.segments?,
    hspan fun c hc => (hs c hc).1, hspan fun c hc => (hs c hc).2]
  simp [Function.comp_def]

theorem tokenLength?_singleton (p : Pattern) (before : Option Char) (s : Text) :
    tokenLength? [p] before s = p.length? before s := by
  simp [tokenLength?]

/-- No binary numeral starts behind a word with a leading zero. -/
theorem replaceFrom_binary_plus (b : Option Char) :
    Text.replaceFrom (tokenLength? [markedToken 'b' 2]) (fun _ => ['0']) 0 b [' ', '+', ' '] =
      [' ', '+', ' '] := by
  apply Text.replaceFrom_eq_self
  intro u c r hs
  have hzero : ∀ d ∈ c :: r, (d == '0') = false := by
    intro d hd
    have hd : d ∈ [' ', '+', ' '] := by
      rw [hs]
      exact List.mem_append_right u hd
    have hall : ∀ d ∈ [' ', '+', ' '], (d == '0') = false := by decide
    exact hall d hd
  have hnone : (markedToken 'b' 2).segments? (u.getLast?.or b) (c :: r) = none :=
    @Pattern.segments?_eq_none _ _ _ 1 (some 1) (· == '0')
      (by simp [markedToken, withSign, Piece.exactly, Piece.one]) Nat.one_pos hzero
  rw [tokenLength?_singleton, Pattern.length?, hnone]
  rfl

/-- A word with a leading zero stays one when binary numerals in it are stripped. -/
theorem exists_stripKind_binary (hl : LeadingZero l) :
    ∃ w, stripKind (l ++ [' ', '+', ' ']) [markedToken 'b' 2] = w ++ [' ', '+', ' '] ∧
      w.head? = some '0' ∧ ∀ c ∈ w, isRunOf 16 c := by
  have hseparates : Pattern.Separates
      [.exactly '0', .one (Text.isLetter 'b'), .some (isRunOf 2)] ' ' := by decide
  have hplain : ∀ c, isRunOf 16 c → isSign c = false ∧ isBlank c = false := fun c hc =>
    Text.ascii_induction (P := fun c => isRunOf 16 c → isSign c = false ∧ isBlank c = false)
      (by decide +kernel) (toNat_lt_of_isRunOf hc) hc
  have hhead : ∀ w x : Text, w ≠ [] → w <:+ l → ∀ c ∈ (w ++ x).head?,
      isSign c = false ∧ isBlank c = false := by
    intro w x hne hw c hc
    obtain ⟨e, w, rfl⟩ := List.exists_cons_of_ne_nil hne
    cases hc
    exact hplain _ (hl.digits _ (hw.subset List.mem_cons_self))
  obtain ⟨b, hb⟩ := @Text.exists_replaceFrom_append (tokenLength? [markedToken 'b' 2])
    (fun _ => ['0']) l [' ', '+', ' ']
    (fun b w hne hw => by
      have hself := hhead w [] hne hw
      rw [List.append_nil] at hself
      rw [tokenLength?_singleton, tokenLength?_singleton, markedToken,
        length?_withSign (hhead w _ hne hw), length?_withSign hself]
      exact hseparates.length?.append b w ['+', ' '] hne)
    (fun b w n _ hn => by
      rw [tokenLength?_singleton] at hn
      obtain ⟨⟨segs, rest⟩, hsegs, rfl⟩ := Option.map_eq_some_iff.1 hn
      rw [← Pattern.segments?_append hsegs, List.length_append]
      exact Nat.le_add_right _ _) none
  rw [replaceFrom_binary_plus] at hb
  refine ⟨_, hb, ?_, ?_⟩
  · obtain ⟨q, rfl⟩ := hl.exists_cons
    rw [Text.replaceFrom]
    split <;> rfl
  · refine Text.forall_mem_replaceFrom hl.digits ?_ 0 none
    intro w _
    decide

/-- A word with a leading zero is stripped as a whole. -/
theorem stripKind_leadingZero {w : Text} (hw : w.head? = some '0')
    (hdigits : ∀ c ∈ w, isRunOf 16 c) :
    stripKind (w ++ [' ', '+', ' ']) [leadingZeroToken] = ['0', ' ', '+', ' '] := by
  have hseparates : ∀ p ∈ [leadingZeroToken], p.Separates ' ' := by decide
  have hplus : stripKind ['+', ' '] [leadingZeroToken] = ['+', ' '] := by decide
  have hword : stripKind w [leadingZeroToken] = ['0'] := by
    obtain ⟨q, rfl⟩ := List.head?_eq_some_iff.1 hw
    obtain ⟨-, hq⟩ := List.forall_mem_cons.1 hdigits
    by_cases hne : q = []
    · subst hne
      decide
    have hrun : Pattern.Covers [.some (isRunOf 16), .boundary] (some '0') (q ++ []) := by
      refine Pattern.Covers.run (Pattern.covers_boundary_cons.2 ⟨?_, Pattern.covers_nil⟩) hq
        (List.length_pos_iff.2 hne) nofun (.inl nofun)
      rw [List.getLast?_eq_some_getLast hne]
      exact (isBoundary_word_left (isWord_of_isRunOf (hq _ (List.getLast_mem hne))) none).2 rfl
    rw [List.append_nil] at hrun
    have hwhole : Pattern.Covers leadingZeroToken none ('0' :: q) :=
      Pattern.covers_boundary_cons.2 ⟨rfl, .exactly hrun⟩
    have htoken :
        tokenLength? [leadingZeroToken] none ('0' :: q ++ []) = some ('0' :: q).length := by
      rw [tokenLength?_singleton, List.append_nil, hwhole.length?]
    have himage : Text.replaceFrom _ (fun _ => ['0']) 0 none ('0' :: q ++ []) = _ :=
      Text.replaceFrom_token (List.cons_ne_nil _ _) [] htoken
    rw [List.append_nil] at himage
    exact himage
  rw [stripKind, Text.replaceTokens_append_cons (separates_tokenLength? hseparates)]
  exact congrArg₂ (· ++ ' ' :: ·) hword hplus

/-- All of a word with a leading zero is stripped. -/
theorem stripNumerals_leadingZero (hl : LeadingZero l) :
    stripNumerals (l ++ [' ', '+', ' ']) = ['0', ' ', '+', ' '] := by
  have habsent : ∀ {a : Char → Bool} {w : Text}, (∀ c ∈ w, isRunOf 16 c) →
      (∀ n ∈ List.range 128, isRunOf 16 (Char.ofNat n) → a (Char.ofNat n) = false) →
      (∀ c ∈ [' ', '+', ' '], a c = false) → ∀ c ∈ w ++ [' ', '+', ' '], a c = false := by
    intro a w hw hdigits hplus c hc
    rcases List.mem_append.1 hc with hc | hc
    · exact Text.ascii_induction (P := fun c => isRunOf 16 c → a c = false) hdigits
        (toNat_lt_of_isRunOf (hw c hc)) (hw c hc)
    · exact hplus c hc
  have hmarked : ∀ {x : Char} {w : Text} {bound : Nat}, x ∈ ['x', 'o'] → (∀ c ∈ w, isRunOf 16 c) →
      stripKind (w ++ [' ', '+', ' ']) [markedToken x bound] = w ++ [' ', '+', ' '] := by
    intro x w bound hx hw
    refine @stripKind_of_absent _ _ (some 1) (Text.isLetter x)
      (by simp [markedToken, withSign, Piece.one]) (habsent hw ?_ ?_)
    · simp only [List.mem_cons, List.not_mem_nil, or_false] at hx
      rcases hx with rfl | rfl <;> decide +kernel
    · simp only [List.mem_cons, List.not_mem_nil, or_false] at hx
      rcases hx with rfl | rfl <;> decide
  obtain ⟨w, hbinary, hw, hdigits⟩ := exists_stripKind_binary hl
  have hsuffixed : stripKind (w ++ [' ', '+', ' ']) [suffixedToken 'h' 16] = w ++ [' ', '+', ' '] :=
    @stripKind_of_absent _ _ (some 1) (Text.isLetter 'h')
      (by simp [suffixedToken, withSign, Piece.one]) (habsent hdigits (by decide +kernel)
        (by decide))
  simp only [stripNumerals, numeralTokens, List.foldl_cons, List.foldl_nil]
  rw [hmarked (by decide) hl.digits, hbinary, hmarked (by decide) hdigits, hsuffixed,
    stripKind_leadingZero hw hdigits]
  decide

/-! ## Admission -/

/-- A sum with a leading zero passes the screening if the text in parentheses does. -/
theorem screen_leadingZero_plus {cfg : Settings} (hl : LeadingZero l) (hr : screen cfg r = .ok ())
    (hlen : ((plusEnclosed l r).length : Int) ≤ cfg.maxLength) :
    screen cfg (plusEnclosed l r) = .ok () := by
  have hsafe : ∀ c ∈ l, isUnsafeChar c = false := fun c hc =>
    Text.ascii_induction (P := fun c => isRunOf 16 c → isUnsafeChar c = false) (by decide +kernel)
      (toNat_lt_of_isRunOf (hl.digits c hc)) (hl.digits c hc)
  have hnames : ∀ c ∈ stripNumerals (l ++ [' ', '+', ' ']), isNameChar c = false := by
    rw [stripNumerals_leadingZero hl]
    decide
  obtain ⟨-, hunsafe, -, hunknown⟩ := screen_eq_ok.1 hr
  refine screen_eq_ok.2 ⟨?_, ?_, hlen, ?_⟩
  · simp [plusEnclosed, show isBlank '+' = false from rfl]
  · simp only [List.find?_eq_none, Bool.not_eq_true] at hunsafe ⊢
    have hsigns : ∀ c ∈ [' ', '+', '(', ')'], isUnsafeChar c = false := by decide
    intro c hc
    simp only [plusEnclosed, enclosedText, List.mem_append, List.mem_cons, List.not_mem_nil,
      or_false] at hc
    rcases hc with hc | rfl | rfl | rfl | rfl | hc | rfl
    · exact hsafe c hc
    · exact hsigns ' ' (by decide)
    · exact hsigns '+' (by decide)
    · exact hsigns ' ' (by decide)
    · exact hsigns '(' (by decide)
    · exact hunsafe c hc
    · exact hsigns ')' (by decide)
  · rw [unknownName?_plusEnclosed (fun c hc => toNat_lt_of_isRunOf (hl.digits c hc)) hnames,
      hunknown]

end Abacus.Expr
