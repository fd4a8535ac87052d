import Abacus.Expr.NumeralTokens
import Abacus.Proofs.Radix.Digits
import Abacus.Proofs.Text.Ascii
import Abacus.Proofs.Text.Basic
import Abacus.Proofs.Text.Pattern
import Abacus.Proofs.Text.Replacement

/-!
# Promotion, word by word

Promotion finds whole words: at least three hexadecimal digits and low lines behind each other, the
first of them a zero.  The text before and after promotion are related character by character,
except where such a word stands.
-/

namespace Abacus.Expr

open Text (Piece isWord)

variable {b b' : Option Char} {s s' u v v' w : Text}

/-! ## Words with a leading zero -/

theorem toNat_lt_of_isRunOf {bound : Nat} {c : Char} (h : isRunOf bound c) : c.toNat < 128 := by
  rcases Bool.or_eq_true_iff.1 h with h | h
  · exact Radix.toNat_lt_of_isDigitBelow h
  · rw [beq_iff_eq.1 h]
    decide

theorem isWord_of_isRunOf {c : Char} (h : isRunOf 16 c) : isWord c :=
  Text.ascii_induction (P := fun c => isRunOf 16 c → isWord c) (by decide +kernel)
    (toNat_lt_of_isRunOf h) h

/-- A word that promotion takes for a hexadecimal numeral. -/
structure LeadingZero (w : Text) : Prop where
  head : w.head? = some '0'
  digits : ∀ c ∈ w, isRunOf 16 c
  length : 3 ≤ w.length

namespace LeadingZero

theorem exists_cons (h : LeadingZero w) : ∃ q, w = '0' :: q := List.head?_eq_some_iff.1 h.head

theorem ne_nil (h : LeadingZero w) : w ≠ [] := by
  rintro rfl
  cases h.head

theorem isWord_of_mem (h : LeadingZero w) : ∀ c ∈ w, isWord c := fun c hc =>
  isWord_of_isRunOf (h.digits c hc)

end LeadingZero

theorem isBoundary_word_left {c : Char} (hc : isWord c) (after : Option Char) :
    Text.isBoundary (some c) after = true ↔ after.any isWord = false := by
  simp [Text.isBoundary, hc]

theorem isBoundary_word_right {c : Char} (hc : isWord c) (before : Option Char) :
    Text.isBoundary before (some c) = true ↔ before.any isWord = false := by
  simp [Text.isBoundary, hc]

/-- A zero and a run of digits behind it end in a character of a word. -/
theorem exists_getLast?_or {q : Text} (hq : ∀ c ∈ q, isRunOf 16 c) :
    ∃ c, q.getLast?.or (some '0') = some c ∧ isWord c := by
  cases hc : q.getLast? with
  | none => exact ⟨'0', rfl, by decide⟩
  | some c => exact ⟨c, rfl, isWord_of_isRunOf (hq c (List.mem_of_getLast? hc))⟩

/-- Where promotion finds a token there is a whole word with a leading zero. -/
theorem length?_promotableToken {n : Nat} : promotableToken.length? b s = some n ↔
    ∃ w v, s = w ++ v ∧ n = w.length ∧ b.any isWord = false ∧ LeadingZero w ∧
      ∀ c ∈ v.head?, isWord c = false := by
  have hzero : isWord '0' := by decide
  have hhead : ∀ v : Text, v.head?.any isWord = false ↔ ∀ c ∈ v.head?, isWord c = false := by
    intro v
    cases v <;> simp
  rw [Text.Pattern.length?, Option.map_eq_some_iff, promotableToken]
  constructor
  · rintro ⟨r, hr, rfl⟩
    obtain ⟨hstart, hr⟩ := Text.Pattern.segments?_boundary_eq_some.1 hr
    obtain ⟨c, t, r₁, rfl, hc, h₁, rfl⟩ := Text.Pattern.segments?_one_eq_some hr
    obtain ⟨q, v, r₂, rfl, hlength, hq, h₂, rfl⟩ := Text.Pattern.segments?_run_eq_some h₁
    obtain rfl : c = '0' := beq_iff_eq.1 hc
    obtain ⟨e, he, hword⟩ := exists_getLast?_or hq
    rw [he] at h₂
    obtain ⟨hend, hnil⟩ := Text.Pattern.segments?_boundary_eq_some.1 h₂
    cases hnil
    refine ⟨'0' :: q, v, rfl, by simp, (isBoundary_word_right hzero b).1 hstart, ⟨rfl, ?_, ?_⟩,
      (hhead v).1 ((isBoundary_word_left hword _).1 hend)⟩
    · exact List.forall_mem_cons.2 ⟨by decide, hq⟩
    · exact Nat.succ_le_succ hlength
  · rintro ⟨w, v, rfl, rfl, hb, hw, hv⟩
    obtain ⟨q, rfl⟩ := hw.exists_cons
    have hq : ∀ c ∈ q, isRunOf 16 c := fun c hc => hw.digits c (List.mem_cons_of_mem _ hc)
    have hv' : ∀ c, v.head? = some c → isRunOf 16 c = false := by
      intro c hc
      by_contra hrun
      have := isWord_of_isRunOf (Bool.eq_true_of_not_eq_false hrun)
      simp [hv c hc] at this
    obtain ⟨e, he, hword⟩ := exists_getLast?_or hq
    have hend : Text.Pattern.segments? [.boundary] (some e) v = some ([], v) :=
      Text.Pattern.segments?_boundary_eq_some.2
        ⟨(isBoundary_word_left hword _).2 ((hhead v).2 hv), rfl⟩
    refine ⟨([['0'], q], v), Text.Pattern.segments?_boundary_eq_some.2
      ⟨(isBoundary_word_right hzero b).2 hb, ?_⟩, by simp⟩
    rw [List.cons_append, Piece.exactly, Text.Pattern.segments?_one_cons,
      if_pos (beq_self_eq_true _),
      Text.Pattern.segments?_run_append hq (Nat.le_of_succ_le_succ hw.length) (by simp) (.inl hv'),
      he, hend]
    rfl

/-- A word as a hexadecimal numeral. -/
def marked (w : Text) : Text := '0' :: 'x' :: w.filter (· != '_')

theorem promoteToken_eq (w : Text) :
    promoteToken w = if w.all (· == '0') then w else marked w := rfl

/-! ## Before and after -/

/-- The text before and after promotion, from a place where `before` is the character in front.
Only whole words with a leading zero may differ, and such a word holds a letter only behind a
point. -/
inductive Promoted : Option Char → Text → Text → Prop
  | nil (before : Option Char) : Promoted before [] []
  | same {before : Option Char} {c : Char} {s s' : Text} :
      Promoted (some c) s s' → Promoted before (c :: s) (c :: s')
  | word {before : Option Char} {w s s' : Text} : before.any isWord = false → LeadingZero w →
      (before ≠ some '.' → ∀ c ∈ w, isFigureOrLine c) → (∀ c ∈ s.head?, isWord c = false) →
      Promoted w.getLast? s s' → Promoted before (w ++ s) (marked w ++ s')

namespace Promoted

theorem head?_eq (h : Promoted b s s') : s'.head? = s.head? := by
  cases h with
  | nil => rfl
  | same => rfl
  | word _ hw =>
    obtain ⟨q, rfl⟩ := hw.exists_cons
    rfl

/-- Of the character in front it only matters whether it belongs to a word or is a point. -/
theorem congr (h : Promoted b s s') (hword : b'.any isWord = b.any isWord)
    (hpoint : b = some '.' → b' = some '.') : Promoted b' s s' := by
  cases h with
  | nil => exact .nil b'
  | same h => exact .same h
  | word hb hw hfigures hs h =>
    exact .word (hword.trans hb) hw (fun hb' => hfigures fun hb => hb' (hpoint hb)) hs h

theorem append (u : Text) (h : Promoted (u.getLast?.or b) s s') :
    Promoted b (u ++ s) (u ++ s') := by
  induction u generalizing b with
  | nil => simpa using h
  | cons c u ih =>
    refine .same (ih ?_)
    rwa [List.getLast?_cons, Option.some_or, ← Option.or_some] at h

/-- Anything but a zero is the same before and after. -/
theorem of_cons {c : Char} (h : Promoted b (c :: s) v') (hc : c ≠ '0') :
    ∃ s', v' = c :: s' ∧ Promoted (some c) s s' := by
  generalize hv : c :: s = v at h
  cases h with
  | nil => cases hv
  | same h =>
    cases hv
    exact ⟨_, rfl, h⟩
  | word _ hw =>
    obtain ⟨q, rfl⟩ := hw.exists_cons
    exact absurd (List.cons.inj hv).1 hc

/-- Within a word nothing differs. -/
theorem of_append (h : Promoted b (u ++ v) s') (hb : b.any isWord = true)
    (hu : ∀ c ∈ u, isWord c) :
    ∃ v', s' = u ++ v' ∧ Promoted (u.getLast?.or b) v v' := by
  induction u generalizing b s' with
  | nil => exact ⟨s', rfl, by simpa using h⟩
  | cons c u ih =>
    obtain ⟨hc, hu⟩ := List.forall_mem_cons.1 hu
    generalize hs : c :: u ++ v = s at h
    cases h with
    | nil => cases hs
    | same h =>
      cases hs
      obtain ⟨v', rfl, h'⟩ := ih h hc hu
      refine ⟨v', rfl, ?_⟩
      rwa [List.getLast?_cons, Option.some_or, ← Option.or_some]
    | word hb' =>
      rw [hb] at hb'
      cases hb'

/-- What is taken after promotion, without the start of a word that was marked, stood there
before. -/
theorem exists_append (h : Promoted b s (u ++ v'))
    (hu : ∀ q r, u ++ v' = q ++ '0' :: 'x' :: r → u.length ≤ q.length) :
    ∃ v, s = u ++ v ∧ Promoted (u.getLast?.or b) v v' := by
  induction u generalizing b s with
  | nil => exact ⟨s, rfl, by simpa using h⟩
  | cons c u ih =>
    generalize hs : c :: u ++ v' = s' at h
    cases h with
    | nil => cases hs
    | same h =>
      cases hs
      obtain ⟨v, rfl, h'⟩ := ih h fun q r hq => by
        have := hu (c :: q) r (by rw [List.cons_append, hq, List.cons_append])
        exact Nat.le_of_succ_le_succ this
      refine ⟨v, rfl, ?_⟩
      rwa [List.getLast?_cons, Option.some_or, ← Option.or_some]
    | word => cases Nat.le_zero.1 (hu [] _ hs)

end Promoted

/-! ## The promotion of a text -/

/-- Promotion marks words with a leading zero. -/
theorem promoted_replaceFrom (h : ∀ u w v, s = u ++ w ++ v → (u.getLast?.or b).any isWord = false →
      u.getLast?.or b ≠ some '.' → LeadingZero w → (∀ c ∈ v.head?, isWord c = false) →
        w.all (· == '0') = false → ∀ c ∈ w, isFigureOrLine c) :
    Promoted b s (Text.replaceFrom promotableToken.length? promoteToken 0 b s) := by
  induction hn : s.length using Nat.strong_induction_on generalizing b s with
  | _ n ih =>
    cases s with
    | nil => exact .nil b
    | cons c t =>
      cases htoken : promotableToken.length? b (c :: t) with
      | none =>
        rw [Text.replaceFrom_cons_of_none htoken]
        refine .same (ih t.length (by simp [← hn]) ?_ rfl)
        intro u w v ht
        have := h (c :: u) w v (by rw [ht]; rfl)
        rwa [List.getLast?_cons, Option.some_or, ← Option.or_some] at this
      | some n =>
        obtain ⟨w, v, hs, rfl, hb, hw, hv⟩ := length?_promotableToken.1 htoken
        have hne := hw.ne_nil
        have hlast : w.getLast?.or b = w.getLast? := by
          rw [List.getLast?_eq_some_getLast hne, Option.some_or]
        have hrest : Promoted w.getLast? v _ := ih v.length (by
            have := hw.length
            rw [← hn, hs, List.length_append]
            omega) (fun u x y hxy => by
              have := h (w ++ u) x y (by rw [hs, hxy]; simp)
              rwa [List.getLast?_append, Option.or_assoc, hlast] at this) rfl
        rw [hs] at htoken ⊢
        rw [Text.replaceFrom_token hne v htoken, promoteToken_eq]
        cases hzeros : w.all (· == '0') with
        | true => exact .append w (by rwa [hlast])
        | false =>
          refine .word hb hw (fun hpoint => ?_) hv hrest
          exact h [] w v (by simpa using hs) (by simpa using hb) (by simpa using hpoint) hw hv
            hzeros

/-- The words of a text that do not stand behind a point. -/
def leadingWords (s : Text) : List Text :=
  (Text.runs (fun c => isWord c || c == '.') s).map (·.takeWhile isWord)

/-- Whether promotion changes a word that holds a letter and does not stand behind a point. -/
def promotesLetters (s : Text) : Bool :=
  (leadingWords s).any fun w => promote w != w && !w.all isFigureOrLine

/-- A word with a leading zero is promoted as a whole. -/
theorem promote_eq_promoteToken (h : LeadingZero w) : promote w = promoteToken w := by
  have hne := h.ne_nil
  have htoken : promotableToken.length? none (w ++ []) = some w.length :=
    length?_promotableToken.2 ⟨w, [], rfl, rfl, rfl, h, nofun⟩
  have htail : Text.replaceFrom promotableToken.length? promoteToken 0 none (w ++ []) = _ :=
    Text.replaceFrom_token hne [] htoken
  rw [List.append_nil] at htail
  rw [promote, Text.replaceTokens, htail]
  exact List.append_nil _

theorem promote_leadingZero (h : LeadingZero w) (hzeros : w.all (· == '0') = false) :
    promote w = marked w := by
  rw [promote_eq_promoteToken h, promoteToken_eq, hzeros]
  rfl

/-- Of a word only the whole is promoted. -/
theorem promote_of_word (hw : ∀ c ∈ w, isWord c) (h : ¬ LeadingZero w) : promote w = w := by
  apply Text.replaceTokens_eq_self
  intro u c r hs
  rw [Option.eq_none_iff_forall_ne_some]
  intro n hn
  obtain ⟨x, v, hx, -, hbefore, hzero, hv⟩ := length?_promotableToken.1 hn
  rcases List.eq_nil_or_concat u with rfl | ⟨u, e, rfl⟩
  · cases v with
    | nil =>
      rw [List.nil_append, hx, List.append_nil] at hs
      exact h (hs ▸ hzero)
    | cons e v =>
      have := hv e rfl
      rw [hw e (by rw [hs, hx]; simp)] at this
      cases this
  · rw [List.concat_eq_append, List.getLast?_concat, Option.any_some,
      hw e (by rw [hs]; simp)] at hbefore
    cases hbefore

theorem marked_ne (h : LeadingZero w) : marked w ≠ w := by
  intro heq
  have hx : isRunOf 16 'x' := h.digits 'x' (by rw [← heq]; simp [marked])
  cases hx

theorem mem_leadingWords (hs : s = u ++ w ++ v) (hw : w ≠ []) (hword : ∀ c ∈ w, isWord c)
    (hu : ∀ c ∈ u.getLast?, isWord c = false ∧ c ≠ '.') (hv : ∀ c ∈ v.head?, isWord c = false) :
    w ∈ leadingWords s := by
  have hrun : (w ++ v).takeWhile (fun c => isWord c || c == '.') =
      w ++ v.takeWhile fun c => isWord c || c == '.' :=
    List.takeWhile_append_of_pos fun c hc => by simp [hword c hc]
  have hhead : ∀ c ∈ (v.takeWhile fun c => isWord c || c == '.').head?, isWord c = false := by
    intro c hc
    cases v with
    | nil => cases hc
    | cons d v =>
      rw [List.takeWhile_cons] at hc
      split at hc
      · cases hc
        exact hv c rfl
      · cases hc
  refine List.mem_map.2 ⟨(w ++ v).takeWhile fun c => isWord c || c == '.', ?_, ?_⟩
  · rw [hs, List.append_assoc]
    refine Text.takeWhile_mem_runs (fun c hc => ?_) ?_
    · simp [hu c hc]
    · rw [hrun]
      simp [hw]
  · rw [hrun, Text.takeWhile_append_eq hword hhead]

/-- Where no letters are promoted, the words that change are figures and low lines. -/
theorem promoted_promote (h : promotesLetters s = false) : Promoted none s (promote s) := by
  apply promoted_replaceFrom
  intro u w v hs hword hpoint hw hv hzeros
  rw [Option.or_none] at hword hpoint
  have hmem := mem_leadingWords hs hw.ne_nil hw.isWord_of_mem (fun c hc => ?_) hv
  · have hall := List.any_eq_false.1 h w hmem
    simpa [promote_leadingZero hw hzeros, marked_ne hw] using hall
  · rw [Option.mem_def.1 hc] at hword hpoint
    exact ⟨hword, fun hc => hpoint (congrArg some hc)⟩

end Abacus.Expr
