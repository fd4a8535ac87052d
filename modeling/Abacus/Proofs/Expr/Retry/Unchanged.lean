import Abacus.Proofs.Expr.Attempt
import Abacus.Proofs.Expr.Retry.Passes
import Abacus.Proofs.Text.Compatibility

/-!
# When the second attempt changes nothing

A text that can be read may fail to have a value, and the second attempt is then made on its
promotion.  If no word that holds a letter is promoted, a promotion with a value has the lexemes of
the text itself, so that the text has the same value.  A word with a letter may be a literal that is
read as another number after promotion.
-/

namespace Abacus.Expr

open Decimal (takeFigures?)
open Text (isWord)

variable {b : Option Char} {s s' t t' p q v w : Text} {d : Nat} {l : Lexeme} {ls ls₀ : List Lexeme}

/-! ## Marked words as literals -/

theorem literalBase?_marked (w t : Text) : literalBase? (marked w ++ t) = some 16 := rfl

/-- A marked word is read as a whole. -/
theorem numberAt?_marked {c : Constant} {r : Text} (hw : LeadingZero w)
    (ht : ∀ e ∈ t.head?, isWord e = false) (h : numberAt? (marked w ++ t) = some (c, r)) :
    r = t ∧ c = .integer (digitsValue 16 (w.filter (· != '_'))) := by
  have hclass : ∀ e ∈ w.filter (· != '_'), isRunOf 16 e := fun e he =>
    hw.digits e (List.mem_of_mem_filter he)
  have hstop : ∀ e ∈ t.head?, isRunOf 16 e = false := by
    intro e he
    rw [← Bool.not_eq_true]
    intro hrun
    have := ht e he
    rw [isWord_of_isRunOf hrun] at this
    cases this
  have htake := Text.takeWhile_append_eq hclass hstop
  have hdrop := Text.dropWhile_append_eq hclass hstop
  rw [numberAt?, literalBase?_marked] at h
  obtain ⟨⟨ds, r'⟩, hdigits, heq⟩ := Option.map_eq_some_iff.1 h
  cases heq
  rw [marked, List.cons_append, List.cons_append, List.drop_succ_cons, List.drop_succ_cons,
    List.drop_zero, markedDigits?] at hdigits
  dsimp only at hdigits
  split at hdigits
  · cases hdigits
  · simp only [Option.some.injEq, Prod.mk.injEq] at hdigits
    obtain ⟨hds, hr⟩ := hdigits
    refine ⟨hr.symm.trans hdrop, ?_⟩
    have hfilter : ds = ((w.filter (· != '_') ++ t).takeWhile (isRunOf 16)).filter (· != '_') :=
      hds.symm
    rw [hfilter, htake, List.filter_filter]
    simp only [Bool.and_self]

theorem digitsValue_zeros (base : Nat) {ds : List Char} (h : ds.all (· == '0') = true) :
    digitsValue base ds = 0 := by
  have hfold : ∀ ds : List Char, ds.all (· == '0') = true →
      ds.foldl (fun n c => n * base + (Radix.digitValue? c.toLower).getD 0) 0 = 0 := by
    intro ds hds
    induction ds with
    | nil => rfl
    | cons c ds ih =>
      rw [List.all_cons, Bool.and_eq_true, beq_iff_eq] at hds
      rw [List.foldl_cons, hds.1, show 0 * base + (Radix.digitValue? '0'.toLower).getD 0 = 0 by
        rw [Nat.zero_mul]; rfl, ih hds.2]
  exact hfold ds h

/-- Figures show no mark of a base. -/
theorem literalBase?_leadingZero (hw : LeadingZero w) (hfigures : ∀ e ∈ w, isFigureOrLine e)
    (ht : Stops t) : literalBase? (w ++ t) = none := by
  rw [literalBase?_append hw.ne_nil ht, ← Option.not_isSome_iff_eq_none, Option.isSome_iff_exists]
  rintro ⟨base, hbase⟩
  obtain ⟨m, u, rfl, -, hm⟩ := literalBase?_eq_some hbase
  have hletters : ∀ m ∈ ['x', 'X', 'o', 'O', 'b', 'B'], isFigureOrLine m = false :=
    List.all_iff_forall_prop.1 (by decide)
  have := hletters m hm
  rw [hfigures m (by simp)] at this
  cases this

/-- Figures are taken to their end. -/
theorem eq_of_takeFigures?_leadingZero {ds r : Text} (hfigures : ∀ e ∈ w, isFigureOrLine e)
    (h : takeFigures? w = some (ds, r)) : r = [] ∧ ds = w.filter (· != '_') := by
  obtain ⟨u, hu, -, hds, hstop⟩ := takeFigures?_eq_some h
  obtain rfl : r = [] := by
    cases r with
    | nil => rfl
    | cons e r =>
      have hfigure : isFigureOrLine e = true := hfigures e (by rw [hu]; simp)
      have hnot : isFigureOrLine e = false := hstop e rfl
      rw [hfigure] at hnot
      cases hnot
  rw [List.append_nil] at hu
  exact ⟨rfl, hu.symm ▸ hds⟩

/-- Figures with a leading zero are read only if all of them are zeros. -/
theorem numberAt?_leadingZero {c : Constant} {r : Text} (hw : LeadingZero w)
    (hfigures : ∀ e ∈ w, isFigureOrLine e) (ht : Stops t) (h : numberAt? (w ++ t) = some (c, r)) :
    r = t ∧ c = .integer 0 ∧ (w.filter (· != '_')).all (· == '0') = true := by
  have hbase := literalBase?_leadingZero hw hfigures ht
  have htake := takeFigures?_append ht w
  cases hw' : takeFigures? w with
  | none =>
    rw [numberAt?, hbase, htake, hw'] at h
    cases h
  | some x =>
    obtain ⟨ds, r'⟩ := x
    obtain ⟨rfl, rfl⟩ := eq_of_takeFigures?_leadingZero hfigures hw'
    rw [hw'] at htake
    have hpoint : t.head? ≠ some '.' := fun hpoint => by cases ht _ hpoint
    rw [numberAt?_whole hbase htake hpoint] at h
    change decimalConstant? _ none t = some (c, r) at h
    rw [decimalConstant?_of_stops ht.literalExponent? ht] at h
    obtain ⟨k, hk, heq⟩ := Option.map_eq_some_iff.1 h
    cases heq
    have hk : figuresValue? (w.filter (· != '_')) = some c := hk
    have hhead : ((w.filter (· != '_')).head? == some '0') = true := by
      obtain ⟨q, rfl⟩ := hw.exists_cons
      rfl
    rw [figuresValue?, hhead] at hk
    split at hk
    · rename_i hzeros
      cases hk
      exact ⟨rfl, rfl, hzeros⟩
    · cases hk

/-! ## The same lexemes -/

theorem x_notMem_of_isLiteralText (h : IsLiteralText p) : 'x' ∉ p.tail.tail := by
  rcases h with ⟨m, ds, rfl, hds⟩ | h
  · intro hx
    cases hds 'x' hx
  · intro hx
    cases h 'x' (List.mem_of_mem_tail (List.mem_of_mem_tail hx))

/-- No marked word begins in a part of a text that does not show the mark, up to its end. -/
theorem length_le_of_x_notMem {r : Text} (hp : 'x' ∉ p.tail) (hv : v.head? ≠ some 'x')
    (h : p ++ v = q ++ '0' :: 'x' :: r) : p.length ≤ q.length := by
  rcases List.append_eq_append_iff.1 h with ⟨u, rfl, -⟩ | ⟨u, rfl, hu⟩
  · simp
  · match u, hu with
    | [], _ => simp
    | [c], hu =>
      have hx : 'x' :: r = v := (List.cons.inj hu).2
      rw [← hx] at hv
      exact absurd rfl hv
    | c :: e :: u, hu =>
      obtain ⟨rfl, -⟩ := List.cons.inj (List.cons.inj hu).2
      refine absurd ?_ hp
      cases q <;> simp

theorem length_le_of_zero_notMem {r : Text} (hp : '0' ∉ p)
    (h : p ++ v = q ++ '0' :: 'x' :: r) : p.length ≤ q.length := by
  rcases List.append_eq_append_iff.1 h with ⟨u, rfl, -⟩ | ⟨u, rfl, hu⟩
  · simp
  · cases u with
    | nil => simp
    | cons c u =>
      obtain ⟨rfl, -⟩ := List.cons.inj hu
      simp at hp

/-- A zero in a name is kept by its compatibility form. -/
theorem zero_notMem_of_nameLexeme? (h : nameLexeme? p = some l) (hl : l.isPlain) :
    '0' ∉ p := by
  intro hzero
  have hkept : '0' ∈ Text.normalized p := Text.mem_normalized (by decide) (by decide) hzero
  have hallowed : ∀ id, isAllowedName id → '0' ∉ id := by
    intro id hid
    obtain ⟨k, rfl⟩ := exists_name_of_isAllowedName hid
    exact k.zero_notMem_text
  rw [nameLexeme?] at h
  split at h
  · cases h
    cases hl
  · split at h
    · cases h
      exact hallowed p hl hzero
    · split at h
      · cases h
        exact hallowed _ hl hkept
      · cases h

/-- A step in front of a marked word takes the same before promotion. -/
theorem Promoted.exists_step {c : Char} {o : Option Lexeme} (h : Promoted (some c) t (q ++ v))
    (hstep : step? d (c :: q ++ v) = some (o, (c :: q).length)) (hc : c ≠ '#')
    (hplain : ∀ l ∈ o, l.isPlain ∨ l = .newline) (hstops : ∀ k, o = some (.number k) → Stops v)
    (hmark : ∀ x r, q ++ v = x ++ '0' :: 'x' :: r → q.length ≤ x.length) :
    ∃ u, c :: t = c :: q ++ u ∧ step? d (c :: q ++ u) = some (o, (c :: q).length) ∧
      Promoted (c :: q).getLast? u v := by
  obtain ⟨u, rfl, hu⟩ := h.exists_append hmark
  refine ⟨u, rfl, ?_, ?_⟩
  · exact step?_append (List.cons_ne_nil c q) hstep (by simpa using hc) hplain hstops
      (.inl hu.head?_eq.symm)
  · rwa [List.getLast?_cons, ← Option.or_some]

/-- A step of a text takes a given lexeme, or none, and leaves a text that is `v` after
promotion. -/
inductive StepsAlike (d : Nat) (o : Option Lexeme) (v : Text) : Text → Prop
  | intro {b : Option Char} {q u : Text} (hq : q ≠ [])
      (hstep : step? d (q ++ u) = some (o, q.length)) (hrest : Promoted b u v)
      (hb : b = some '.' → Stops v) : StepsAlike d o v (q ++ u)

/-- What is taken without a figure zero is taken before promotion as well. -/
theorem Promoted.stepsAlike {o : Option Lexeme} (h : Promoted b s (p ++ v)) (hp : p ≠ [])
    (hstep : step? d (p ++ v) = some (o, p.length)) (hplain : ∀ l ∈ o, l.isPlain ∨ l = .newline)
    (hnumber : ∀ k, o ≠ some (.number k)) (hhash : p.head? ≠ some '#') (hzero : '0' ∉ p)
    (hpoint : p.getLast? ≠ some '.') : StepsAlike d o v s := by
  obtain ⟨c, q, rfl⟩ := List.exists_cons_of_ne_nil hp
  obtain ⟨t, rfl⟩ : ∃ t, s = c :: t := List.head?_eq_some_iff.1 h.head?_eq.symm
  rw [List.mem_cons, not_or] at hzero
  obtain ⟨_, heq, ht⟩ := h.of_cons (Ne.symm hzero.1)
  cases heq
  obtain ⟨u, hs, hstep', hu⟩ := ht.exists_step hstep (by simpa using hhash) hplain
    (fun k hk => absurd hk (hnumber k)) fun x r => length_le_of_zero_notMem hzero.2
  rw [hs]
  exact .intro hp hstep' hu fun hlast => absurd hlast hpoint

theorem step?_zero (d : Nat) (s : Text) : step? d ('0' :: s) = (numberAt? ('0' :: s)).map fun x =>
    (some (.number x.1), ('0' :: s).length - x.2.length) := rfl

/-- A number after promotion is the same number before promotion. -/
theorem Promoted.stepsAlike_number {k : Constant} (h : Promoted b s (p ++ v))
    (hb : b ≠ some '.') (hp : p ≠ []) (hstep : step? d (p ++ v) = some (some (.number k), p.length))
    (hnumber : numberAt? (p ++ v) = some (k, v)) (hv : Stops v) (hs : Lexes d s ls₀) :
    StepsAlike d (some (.number k)) v s := by
  obtain ⟨c, q, rfl⟩ := List.exists_cons_of_ne_nil hp
  obtain ⟨-, r, hr, hliteral⟩ := numberAt?_eq_some hnumber
  obtain rfl := List.append_cancel_right hr
  generalize hx : c :: q ++ v = x at h
  cases h with
  | nil => cases hx
  | same h =>
    obtain ⟨rfl, rfl⟩ := List.cons.inj hx
    have hhash : c ≠ '#' := by
      rintro rfl
      rcases hliteral with ⟨m, ds, heq, -⟩ | hdecimal
      · cases heq
      · cases hdecimal '#' List.mem_cons_self
    obtain ⟨u, heq, hstep', hu⟩ := h.exists_step hstep hhash (by rintro l ⟨⟩; exact .inl rfl)
      (fun _ _ => hv) fun x r => length_le_of_x_notMem (x_notMem_of_isLiteralText hliteral)
        fun hx => by cases hv _ hx
    rw [heq]
    exact .intro hp hstep' hu fun _ => hv
  | @word _ w t t' _ hw hfigures ht h =>
    rw [hx] at hnumber
    obtain ⟨rfl, rfl⟩ := numberAt?_marked hw (by rwa [h.head?_eq]) hnumber
    have hstop : Stops t := by rwa [Stops, ← h.head?_eq]
    obtain ⟨y, rfl⟩ := hw.exists_cons
    obtain ⟨o, n, hstep'⟩ := hs.exists_step
    rw [step?_zero] at hstep'
    obtain ⟨⟨k, r⟩, hk, -⟩ := Option.map_eq_some_iff.1 hstep'
    obtain ⟨rfl, rfl, hzeros⟩ := numberAt?_leadingZero hw (hfigures hb) hstop hk
    refine .intro (List.cons_ne_nil _ _) ?_ h fun _ => hv
    have hk : numberAt? ('0' :: (y ++ r)) = some (.integer 0, r) := hk
    rw [digitsValue_zeros 16 hzeros, List.cons_append, step?_zero, hk]
    simp only [Option.map_some, List.length_cons, List.length_append, Option.some.injEq,
      Prod.mk.injEq]
    exact ⟨rfl, by omega⟩

/-- Where a comment stands after promotion, one stood before promotion that ends at the same
break. -/
theorem Promoted.stepsAlike_comment (h : Promoted b s (p ++ v)) (hhash : p.head? = some '#')
    (hline : ∀ c ∈ p, c ≠ '\n') (hv : ∀ c ∈ v.head?, c = '\n') (d : Nat) :
    StepsAlike d none v s := by
  obtain ⟨t, rfl⟩ : ∃ t, s = '#' :: t := by
    refine List.head?_eq_some_iff.1 (h.head?_eq.symm.trans ?_)
    rw [List.head?_append, hhash, Option.some_or]
  have hsplit := List.takeWhile_append_dropWhile (p := (· != '\n')) (l := '#' :: t)
  have hrest := h.dropLine
  rw [Text.dropWhile_append_eq (fun c hc => by simpa using hline c hc)
    fun c hc => by simpa using hv c hc] at hrest
  rw [← hsplit]
  refine .intro (List.cons_ne_nil _ _) ?_ hrest nofun
  rw [hsplit]
  rfl

/-- A name of a calculation shows no sharp, no zero and no point. -/
theorem Promoted.stepsAlike_name (h : Promoted b s (p ++ v)) (hp : p ≠ [])
    (hstep : step? d (p ++ v) = some (some l, p.length)) (hplain : l.isPlain ∨ l = .newline)
    (hname : ∀ c ∈ p, isNamePart c) (hl : nameLexeme? p = some l) :
    StepsAlike d (some l) v s := by
  have hplain' : l.isPlain := by
    rcases hplain with h | rfl
    · exact h
    · cases isWord_of_nameLexeme? hl
  have hother : ∀ c, isNamePart c = false → c ∉ p := by
    intro c hc hmem
    rw [hname c hmem] at hc
    cases hc
  refine h.stepsAlike hp hstep (by rintro _ ⟨⟩; exact hplain) ?_ ?_
    (zero_notMem_of_nameLexeme? hl hplain') ?_
  · rintro k ⟨⟩
    exact nameLexeme?_ne_number hl
  · exact fun h => hother '#' (by decide) (List.mem_of_mem_head? h)
  · exact fun h => hother '.' (by decide) (List.mem_of_getLast? h)

/-- A mark of calculations shows no sharp, no zero and no point. -/
theorem Promoted.stepsAlike_mark {m : Mark} (h : Promoted b s (p ++ v)) (hp : p ≠ [])
    (hstep : step? d (p ++ v) = some (some (.mark m), p.length))
    (hplain : (Lexeme.mark m).isPlain ∨ Lexeme.mark m = .newline) (hm : (p, m) ∈ marks) :
    StepsAlike d (some (.mark m)) v s := by
  have hmarks : ∀ k ∈ plainMarks,
      k.1.head? ≠ some '#' ∧ '0' ∉ k.1 ∧ k.1.getLast? ≠ some '.' := by decide
  have hplain' : m.isPlain := hplain.resolve_right nofun
  obtain ⟨hhash, hzero, hpoint⟩ := hmarks _ (mem_plainMarks hm hplain')
  exact h.stepsAlike hp hstep (by rintro _ ⟨⟩; exact hplain) nofun hhash hzero hpoint

/-- Whatever a step takes after promotion, a step takes before promotion, if the lexemes are those
of a calculation and no part of another literal follows a number. -/
theorem Promoted.stepsAlike_of_step? {o : Option Lexeme} (h : Promoted b s (p ++ v))
    (hb : b = some '.' → Stops (p ++ v)) (hp : p ≠ [])
    (hstep : step? d (p ++ v) = some (o, p.length)) (hplain : ∀ l ∈ o, l.isPlain ∨ l = .newline)
    (hv : ∀ k, o = some (.number k) → Stops v) (hs : Lexes d s ls₀) : StepsAlike d o v s := by
  have htaken := taken_of_step? hstep
  cases htaken with
  | @gap c hc hgap =>
    subst hc
    rcases isGap_iff.1 hgap with rfl | rfl | rfl <;>
      exact h.stepsAlike hp hstep nofun nofun (by decide) (by decide) (by decide)
  | comment hhash hline hbreak => exact h.stepsAlike_comment hhash hline hbreak d
  | lineBreak hbreak =>
    subst hbreak
    refine h.stepsAlike hp hstep hplain ?_ (by decide) (by decide) (by decide)
    split <;> nofun
  | @number k hstart hnumber =>
    exact h.stepsAlike_number (fun hpoint => not_stops_of_startsNumber hstart (hb hpoint)) hp hstep
      hnumber (hv k rfl) hs
  | name hname hl => exact h.stepsAlike_name hp hstep (hplain _ rfl) hname hl
  | mark hm => exact h.stepsAlike_mark hp hstep (hplain _ rfl) hm

/-- The lexemes of a calculation after promotion are those before promotion. -/
theorem Promoted.lexes (h : Promoted b s s') (hb : b = some '.' → Stops s') (hs : Lexes d s ls₀)
    (hs' : Lexes d s' ls) (hclean : Clean ls) : ls₀ = ls := by
  induction hs' generalizing b s ls₀ with
  | nil d =>
    rw [List.head?_eq_none_iff.1 h.head?_eq.symm] at hs
    exact hs.unique (.nil d)
  | skip hp hstep _ ih =>
    obtain ⟨hq, hstep', hu, hb'⟩ := h.stepsAlike_of_step? hb hp hstep nofun nofun hs
    exact ih hu hb' (hs.of_skip hq hstep') hclean
  | lexeme hp hstep hrest ih =>
    obtain ⟨hq, hstep', hu, hb'⟩ := h.stepsAlike_of_step? hb hp hstep
      (by rintro _ ⟨⟩; exact hclean.head) (by rintro k ⟨⟩; exact hrest.stops hclean) hs
    obtain ⟨ls₁, rfl, hu'⟩ := hs.of_lexeme hq hstep'
    rw [ih hu hb' hu' hclean.tail]

/-! ## The second attempt -/

/-- Where a text can be read and its promotion has a value, the text has this value itself. -/
theorem attempt_eq_of_promote {e : Expr} {x : Float} (he : ofText? s = some e)
    (hletters : promotesLetters s = false) (hx : attempt (promote s) = .ok x) :
    attempt s = .ok x := by
  obtain ⟨e', p, rest, hls', hspells, hbreaks, hvalue⟩ := exists_spells hx
  cases hls : lexemes? (Text.trim (withOwnNames s)) with
  | none =>
    rw [ofText?, hls] at he
    cases he
  | some ls₀ =>
    obtain ⟨-, r, hr, hlexes⟩ := lexemes?_eq_some.1 hls
    obtain ⟨-, r', hr', hlexes'⟩ := lexemes?_eq_some.1 hls'
    have hsource : Promoted none (withOwnNames s) (withOwnNames (promote s)) :=
      (promoted_promote hletters).ownNamesFrom.flatMap_expandCaret
    have hlines : Promoted none r r' := hsource.trim.unifiedBreaks.skipsTo
      (skipsTo_of_skipEmptyLines (Nat.lt_succ_self _) hr)
      (skipsTo_of_skipEmptyLines (Nat.lt_succ_self _) hr')
    obtain rfl := hlines.lexes (by simp) hlexes hlexes' (hspells.clean hbreaks)
    rw [attempt_of_spells hspells hbreaks hls, hvalue]

/-- The second attempt changes nothing for a text that can be read, unless it promotes a word with a
letter. -/
theorem calculate_retries {e : Expr} (he : ofText? s = some e) (h : promotesLetters s = false)
    (maxLength : Int) : calculate ⟨maxLength, true⟩ s = calculate ⟨maxLength, false⟩ s := by
  have hadmitted :
      evaluateAdmitted ⟨maxLength, true⟩ s = evaluateAdmitted ⟨maxLength, false⟩ s := by
    rw [evaluateAdmitted, evaluateAdmitted]
    cases hs : attempt s with
    | ok x => rfl
    | error f =>
      cases hx : attempt (promote s) with
      | error f' => simp
      | ok x =>
        rw [attempt_eq_of_promote he h hx] at hs
        cases hs
  rw [calculate, calculate, hadmitted]
  rfl

/-- Promotion changes a part behind a point and a zero, and neither helps. -/
theorem calculate_retries_quotient : ∃ e, ofText? "1.050+1/0_00".toList = some e ∧
    promote "1.050+1/0_00".toList = "1.0x050+1/0x000".toList ∧
    calculate ⟨2000, true⟩ "1.050+1/0_00".toList =
      calculate ⟨2000, false⟩ "1.050+1/0_00".toList := by
  have hread : (ofText? "1.050+1/0_00".toList).isSome := by decide +kernel
  obtain ⟨e, he⟩ := Option.isSome_iff_exists.1 hread
  exact ⟨e, he, by decide +kernel, calculate_retries he (by decide +kernel) 2000⟩

/-- The arithmetic fault that a calculation ends with. -/
def arithmeticFault? : Except Fault Float → Option ArithmeticFault
  | .error (.invalid (.failed cause)) => some cause
  | _ => none

theorem eq_of_arithmeticFault? {r : Except Fault Float} {cause : ArithmeticFault}
    (h : arithmeticFault? r = some cause) : r = .error (.invalid (.failed cause)) := by
  unfold arithmeticFault? at h
  split at h
  · cases h
    rfl
  · cases h

/-- The binary literal in `1/0b00` is promoted to 2816, and a division by zero becomes a
quotient. -/
theorem calculate_retries_binaryZero : (ofText? "1/0b00".toList).isSome ∧
    calculate ⟨2000, false⟩ "1/0b00".toList = .error (.invalid (.failed .divisionByZero)) ∧
    (calculate ⟨2000, true⟩ "1/0b00".toList).toOption.map Float.toBits =
      some (1 / 2816 : Float).toBits := by
  have hfails : arithmeticFault? (calculate ⟨2000, false⟩ "1/0b00".toList) =
      some .divisionByZero := by decide +kernel
  exact ⟨by decide +kernel, eq_of_arithmeticFault? hfails, by decide +kernel⟩

end Abacus.Expr
