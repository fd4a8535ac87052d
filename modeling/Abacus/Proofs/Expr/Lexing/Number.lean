import Abacus.Expr.Lexer
import Abacus.Proofs.Radix.Digits
import Abacus.Proofs.Text.Ascii
import Abacus.Proofs.Text.Basic
import Mathlib.Data.Bool.AllAny

/-!
# Number literals and what follows them

A literal is made of few characters: the mark of a base and digits behind it, or figures, a point,
an exponent and a final letter.  A character that is neither a part of a name nor a point stops a
literal, and nothing from there on decides how the literal is read.
-/

namespace Abacus.Expr

open Decimal (takeFigures?)
open Radix (isDigitBelow)

variable {s u v v' r : Text} {c : Constant}

/-! ## Stops -/

/-- Whether a character ends every literal in front of it. -/
def isStop (c : Char) : Bool := !isNamePart c && c != '.'

/-- A text that starts with no part of a literal. -/
def Stops (v : Text) : Prop := ∀ c ∈ v.head?, isStop c

theorem stops_nil : Stops [] := nofun

theorem isNamePart_of_isDigit {c : Char} (h : c.isDigit) : isNamePart c := by
  simp [isNamePart, Char.isAlphanum, h]

theorem not_isNamePart_of_isStop {c : Char} (h : isStop c) : isNamePart c = false := by
  simp only [isStop, Bool.and_eq_true, Bool.not_eq_true'] at h
  exact h.1

theorem isFigurePart_of_isStop {c : Char} (h : isStop c) : (c.isDigit || c == '_') = false := by
  rw [← Bool.not_eq_true, Bool.or_eq_true, not_or]
  have hname := not_isNamePart_of_isStop h
  constructor
  · intro hdigit
    rw [isNamePart_of_isDigit hdigit] at hname
    cases hname
  · rw [beq_iff_eq]
    rintro rfl
    cases hname

theorem Stops.not_isNamePart (h : Stops v) : ∀ c ∈ v.head?, isNamePart c = false :=
  fun c hc => not_isNamePart_of_isStop (h c hc)

theorem Stops.ne_cons {c : Char} (h : Stops v) (hc : isStop c = false) (r : Text) : v ≠ c :: r := by
  rintro rfl
  rw [h c rfl] at hc
  cases hc

/-- No keyword begins at a stop or reaches over one. -/
theorem startsWith_append {k : Text} (hk : ∀ c ∈ k, isNamePart c) (hv : Stops v) (u : Text) :
    Text.startsWith (u ++ v) k = Text.startsWith u k := by
  induction u generalizing k with
  | nil =>
    cases k with
    | nil => cases v <;> rfl
    | cons d k =>
      cases v with
      | nil => rfl
      | cons c r =>
        have hne : d ≠ c := by
          rintro rfl
          have := hk d List.mem_cons_self
          rw [hv.not_isNamePart d rfl] at this
          cases this
        simp [Text.startsWith, List.isPrefixOf, hne]
  | cons c u ih =>
    cases k with
    | nil => rfl
    | cons d k =>
      have := ih fun e he => hk e (List.mem_cons_of_mem d he)
      simp only [Text.startsWith, List.cons_append, List.isPrefixOf] at this ⊢
      rw [this]

theorem isNamePart_of_mem_continuations : ∀ k ∈ continuations, ∀ c ∈ k, isNamePart c := by
  simp [continuations, isNamePart]

theorem mayFollowNumber_append {u : Text} (hu : u ≠ []) (hv : Stops v) :
    mayFollowNumber (u ++ v) = mayFollowNumber u := by
  obtain ⟨c, u, rfl⟩ := List.exists_cons_of_ne_nil hu
  have hany : continuations.any (Text.startsWith (c :: u ++ v)) =
      continuations.any (Text.startsWith (c :: u)) := by
    rw [Bool.eq_iff_iff, List.any_eq_true, List.any_eq_true]
    exact exists_congr fun k => and_congr_right fun hk => by
      rw [startsWith_append (isNamePart_of_mem_continuations k hk) hv]
  rw [mayFollowNumber, mayFollowNumber, hany]
  rfl

theorem Stops.mayFollowNumber (h : Stops v) : mayFollowNumber v := by
  rw [Expr.mayFollowNumber, Bool.or_eq_true]
  refine .inr ?_
  cases v with
  | nil => rfl
  | cons c r => simp [h.not_isNamePart c rfl]

/-! ## Figures -/

theorem takeFigures?_append (hv : Stops v) (u : Text) :
    takeFigures? (u ++ v) = (takeFigures? u).map fun x => (x.1, x.2 ++ v) := by
  have htake : (u ++ v).takeWhile (fun c => c.isDigit || c == '_') =
      u.takeWhile fun c => c.isDigit || c == '_' :=
    Text.takeWhile_append_of_head fun c hc => isFigurePart_of_isStop (hv c hc)
  have hdrop : (u ++ v).dropWhile (fun c => c.isDigit || c == '_') =
      u.dropWhile (fun c => c.isDigit || c == '_') ++ v :=
    Text.dropWhile_append_of_head fun c hc => isFigurePart_of_isStop (hv c hc)
  rw [takeFigures?, takeFigures?, htake, hdrop]
  simp only
  split
  · rfl
  · split <;> rfl

theorem takeFigures?_eq_some {ds : List Char} (h : takeFigures? s = some (ds, r)) :
    ∃ u, s = u ++ r ∧ (∀ c ∈ u, (c.isDigit || c == '_') = true) ∧ ds = u.filter (· != '_') ∧
      ∀ c ∈ r.head?, (c.isDigit || c == '_') = false := by
  rw [takeFigures?] at h
  simp only at h
  split at h
  · cases h
  · split at h
    · cases h
      refine ⟨_, (List.takeWhile_append_dropWhile).symm, fun c hc => ?_, rfl, fun c hc => ?_⟩
      · exact List.mem_takeWhile_imp (p := fun c : Char => c.isDigit || c == '_') hc
      · exact Text.not_of_mem_head?_dropWhile (p := fun c : Char => c.isDigit || c == '_') hc
    · cases h

/-! ## The characters of literals -/

/-- The characters of literals without the mark of a base. -/
def isDecimalPart (c : Char) : Bool :=
  c.isDigit || ['_', '.', 'e', 'E', '+', '-', 'j', 'J'].contains c

theorem isDecimalPart_of_figurePart {c : Char} (h : (c.isDigit || c == '_') = true) :
    isDecimalPart c := by
  rcases Bool.or_eq_true_iff.1 h with h | h
  · simp [isDecimalPart, h]
  · rw [beq_iff_eq.1 h]
    decide

/-- The digits of an exponent stand behind its sign. -/
theorem exists_sign_append (s : Text) :
    ∃ w, s = w ++ (if s.head? == some '-' || s.head? == some '+' then s.tail else s) ∧
      ∀ c ∈ w, isDecimalPart c := by
  cases s with
  | nil => exact ⟨[], rfl, nofun⟩
  | cons c r =>
    by_cases hc : ((c :: r).head? == some '-' || (c :: r).head? == some '+') = true
    · refine ⟨[c], by rw [if_pos hc]; rfl, ?_⟩
      rintro d hd
      rw [List.mem_singleton.1 hd]
      simp only [List.head?_cons, Bool.or_eq_true, beq_iff_eq, Option.some.injEq] at hc
      rcases hc with rfl | rfl <;> decide
    · exact ⟨[], by rw [if_neg hc]; rfl, nofun⟩

theorem literalExponent?_eq_some {e? : Option Int} (h : literalExponent? s = some (e?, r)) :
    ∃ u, s = u ++ r ∧ ∀ c ∈ u, isDecimalPart c := by
  cases s with
  | nil =>
    cases h
    exact ⟨[], rfl, nofun⟩
  | cons c t =>
    rw [literalExponent?] at h
    simp only at h
    split at h
    · rename_i hc
      have hpart : isDecimalPart c := by
        rcases Bool.or_eq_true_iff.1 hc with hc | hc <;> rw [beq_iff_eq.1 hc] <;> decide
      obtain ⟨w, hw, hsign⟩ := exists_sign_append t
      generalize (if t.head? == some '-' || t.head? == some '+' then t.tail else t) = digits at h hw
      split at h
      · obtain ⟨⟨ds, r'⟩, hfigures, heq⟩ := Option.map_eq_some_iff.1 h
        cases heq
        obtain ⟨u, hu, hfigure, -⟩ := takeFigures?_eq_some hfigures
        refine ⟨c :: (w ++ u), ?_, ?_⟩
        · rw [List.cons_append, List.append_assoc, ← hu, ← hw]
        · refine List.forall_mem_cons.2 ⟨hpart, List.forall_mem_append.2 ⟨hsign, ?_⟩⟩
          exact fun d hd => isDecimalPart_of_figurePart (hfigure d hd)
      · split at h
        · cases h
          exact ⟨[], rfl, nofun⟩
        · cases h
    · cases h
      exact ⟨[], rfl, nofun⟩

theorem decimalConstant?_eq_some {whole : List Char} {part? : Option (List Char)}
    (h : decimalConstant? whole part? s = some (c, r)) :
    mayFollowNumber r ∧ ∃ u, s = u ++ r ∧ ∀ c ∈ u, isDecimalPart c := by
  rw [decimalConstant?] at h
  split at h
  · cases h
  · rename_i e? rest hexponent
    obtain ⟨u, rfl, hu⟩ := literalExponent?_eq_some hexponent
    have last : ∀ {d : Char} {t : Text}, isDecimalPart d →
        ∃ w, u ++ d :: t = w ++ t ∧ ∀ c ∈ w, isDecimalPart c := fun {d t} hd =>
      ⟨u ++ [d], by simp, List.forall_mem_append.2 ⟨hu, by simpa using hd⟩⟩
    simp only at h
    split at h
    · split at h
      · rename_i hmay
        cases h
        exact ⟨hmay, last rfl⟩
      · cases h
    · split at h
      · rename_i hmay
        cases h
        exact ⟨hmay, last rfl⟩
      · cases h
    · split at h
      · cases h
      · rename_i hmay
        have hmay : mayFollowNumber rest = true := by simpa using hmay
        split at h
        · cases h
          exact ⟨hmay, u, rfl, hu⟩
        · obtain ⟨k, -, heq⟩ := Option.map_eq_some_iff.1 h
          cases heq
          exact ⟨hmay, u, rfl, hu⟩

theorem literalBase?_eq_some {base : Nat} (h : literalBase? s = some base) :
    ∃ m t, s = '0' :: m :: t ∧ base ≤ 16 ∧ m ∈ ['x', 'X', 'o', 'O', 'b', 'B'] := by
  rw [literalBase?.eq_def] at h
  split at h
  · rename_i m t
    refine ⟨m, t, rfl, ?_⟩
    simp only [Bool.or_eq_true, beq_iff_eq] at h
    split at h
    · rename_i hm
      cases h
      rcases hm with rfl | rfl <;> decide
    · split at h
      · rename_i hm
        cases h
        rcases hm with rfl | rfl <;> decide
      · split at h
        · rename_i hm
          cases h
          rcases hm with rfl | rfl <;> decide
        · cases h
  · cases h

theorem markedDigits?_eq_some {base : Nat} {ds : List Char}
    (h : markedDigits? base s = some (ds, r)) :
    mayFollowNumber r ∧ ∃ u, s = u ++ r ∧ u ≠ [] ∧
      ∀ c ∈ u, (isDigitBelow base c || c == '_') = true := by
  rw [markedDigits?] at h
  simp only at h
  split at h
  · cases h
  · rename_i hnone
    simp only [Bool.or_eq_true, not_or] at hnone
    cases h
    refine ⟨by simpa using hnone.2, _, (List.takeWhile_append_dropWhile).symm, ?_, fun c hc => ?_⟩
    · simpa using hnone.1.1.1.1
    · exact List.mem_takeWhile_imp (p := fun c : Char => isDigitBelow base c || c == '_') hc

/-- The text of a literal: a mark and digits behind it, or the characters of a decimal. -/
def IsLiteralText (u : Text) : Prop :=
  (∃ m ds, u = '0' :: m :: ds ∧ ∀ c ∈ ds, (isDigitBelow 16 c || c == '_') = true) ∨
    ∀ c ∈ u, isDecimalPart c

/-- A literal with the mark of a base is made of the mark and digits. -/
theorem numberAt?_of_marked {base : Nat} (hbase : literalBase? s = some base)
    (h : numberAt? s = some (c, r)) :
    mayFollowNumber r ∧ ∃ m ds, s = '0' :: m :: (ds ++ r) ∧ m ∈ ['x', 'X', 'o', 'O', 'b', 'B'] ∧
      ds ≠ [] ∧ ∀ d ∈ ds, (isDigitBelow 16 d || d == '_') = true := by
  obtain ⟨m, t, rfl, hle, hm⟩ := literalBase?_eq_some hbase
  rw [numberAt?, hbase] at h
  obtain ⟨⟨ds, r'⟩, hdigits, heq⟩ := Option.map_eq_some_iff.1 h
  cases heq
  obtain ⟨hmay, u, hu, hne, hclass⟩ := markedDigits?_eq_some hdigits
  refine ⟨hmay, m, u, congrArg ('0' :: m :: ·) hu, hm, hne, fun d hd => ?_⟩
  rcases Bool.or_eq_true_iff.1 (hclass d hd) with hd | hd
  · rw [Radix.isDigitBelow_mono hle hd]
    rfl
  · rw [hd, Bool.or_true]

/-- A literal without the mark of a base is made of the characters of decimals. -/
theorem numberAt?_of_decimal (hbase : literalBase? s = none) (h : numberAt? s = some (c, r)) :
    mayFollowNumber r ∧ ∃ u, s = u ++ r ∧ ∀ d ∈ u, isDecimalPart d := by
  rw [numberAt?, hbase] at h
  dsimp only at h
  split at h
  · cases h
  · rename_i whole t hwhole
    obtain ⟨u, hu, hfigures, -⟩ := takeFigures?_eq_some hwhole
    split at h
    · cases h
    · rename_i part t' hpart
      obtain ⟨u', rfl, hfigures', -⟩ := takeFigures?_eq_some hpart
      obtain ⟨hmay, w, rfl, hw⟩ := decimalConstant?_eq_some h
      refine ⟨hmay, u ++ '.' :: (u' ++ w), by simp [hu], ?_⟩
      refine List.forall_mem_append.2 ⟨fun d hd => isDecimalPart_of_figurePart (hfigures d hd), ?_⟩
      refine List.forall_mem_cons.2 ⟨by decide, List.forall_mem_append.2 ⟨?_, hw⟩⟩
      exact fun d hd => isDecimalPart_of_figurePart (hfigures' d hd)
  · rename_i whole t _ hwhole
    obtain ⟨u, hu, hfigures, -⟩ := takeFigures?_eq_some hwhole
    obtain ⟨hmay, w, rfl, hw⟩ := decimalConstant?_eq_some h
    refine ⟨hmay, u ++ w, by simp [hu], List.forall_mem_append.2 ⟨?_, hw⟩⟩
    exact fun d hd => isDecimalPart_of_figurePart (hfigures d hd)

/-- A literal takes characters of literals, and a literal may end behind them. -/
theorem numberAt?_eq_some (h : numberAt? s = some (c, r)) :
    mayFollowNumber r ∧ ∃ u, s = u ++ r ∧ IsLiteralText u := by
  cases hbase : literalBase? s with
  | some base =>
    obtain ⟨hmay, m, ds, rfl, -, -, hds⟩ := numberAt?_of_marked hbase h
    exact ⟨hmay, '0' :: m :: ds, rfl, .inl ⟨m, ds, rfl, hds⟩⟩
  | none =>
    obtain ⟨hmay, u, rfl, hu⟩ := numberAt?_of_decimal hbase h
    exact ⟨hmay, u, rfl, .inr hu⟩

/-- A literal takes at least one character where one starts. -/
theorem length_lt_of_numberAt? (hs : startsNumber s) (h : numberAt? s = some (c, r)) :
    r.length < s.length := by
  rw [numberAt?] at h
  split at h
  · rename_i base hbase
    obtain ⟨m, t, rfl, -, -⟩ := literalBase?_eq_some hbase
    obtain ⟨⟨ds, r'⟩, hdigits, heq⟩ := Option.map_eq_some_iff.1 h
    cases heq
    obtain ⟨-, u, hu, -, -⟩ := markedDigits?_eq_some hdigits
    have hlen := congrArg List.length hu
    simp only [List.drop_succ_cons, List.drop_zero, List.length_append] at hlen
    simp only [List.length_cons]
    omega
  · split at h
    · cases h
    · rename_i whole t hwhole
      obtain ⟨u, hu, -, -⟩ := takeFigures?_eq_some hwhole
      split at h
      · cases h
      · rename_i part t' hpart
        obtain ⟨u', rfl, -, -⟩ := takeFigures?_eq_some hpart
        obtain ⟨-, w, rfl, -⟩ := decimalConstant?_eq_some h
        simp only [hu, List.length_append, List.length_cons]
        omega
    · rename_i whole t hpoint hwhole
      obtain ⟨u, hu, -, -, hstop⟩ := takeFigures?_eq_some hwhole
      obtain ⟨-, w, rfl, -⟩ := decimalConstant?_eq_some h
      have hpos : 0 < u.length := by
        rw [List.length_pos_iff]
        rintro rfl
        rw [List.nil_append] at hu
        rw [← hu] at hstop hpoint
        rw [startsNumber.eq_def] at hs
        split at hs
        · exact hpoint _ rfl
        · have := hstop _ rfl
          rw [hs] at this
          cases this
        · cases hs
      simp only [hu, List.length_append]
      omega

/-! ## What stands behind a stop -/

theorem literalBase?_of_ne (h : s.head? ≠ some '0') : literalBase? s = none := by
  rw [literalBase?.eq_def]
  split
  · exact absurd rfl h
  · rfl

theorem literalBase?_append (hu : u ≠ []) (hv : Stops v) :
    literalBase? (u ++ v) = literalBase? u := by
  obtain ⟨c, u, rfl⟩ := List.exists_cons_of_ne_nil hu
  by_cases hc : c = '0'
  · subst hc
    cases u with
    | cons d u => rfl
    | nil =>
      cases v with
      | nil => rfl
      | cons d r =>
        have hletter : ∀ m ∈ ['x', 'X', 'o', 'O', 'b', 'B'], (d == m) = false := by
          have hnot : ∀ m ∈ ['x', 'X', 'o', 'O', 'b', 'B'], isStop m = false :=
            List.all_iff_forall_prop.1 (by decide)
          intro m hm
          rw [beq_eq_false_iff_ne]
          rintro rfl
          have hstop := hnot d hm
          rw [hv d rfl] at hstop
          cases hstop
        simp only [List.forall_mem_cons] at hletter
        obtain ⟨h1, h2, h3, h4, h5, h6, -⟩ := hletter
        change (if d == 'x' || d == 'X' then some 16
          else if d == 'o' || d == 'O' then some 8
          else if d == 'b' || d == 'B' then some 2 else none) = none
        rw [h1, h2, h3, h4, h5, h6]
        rfl
  · rw [literalBase?_of_ne (by simpa using hc), literalBase?_of_ne (by simpa using hc)]

theorem isNamePart_of_isDigitBelow {bound : Nat} {c : Char} (hbound : bound ≤ 16)
    (h : (isDigitBelow bound c || c == '_') = true) : isNamePart c := by
  rcases Bool.or_eq_true_iff.1 h with h | h
  · have h16 : isDigitBelow 16 c := Radix.isDigitBelow_mono hbound h
    exact Text.ascii_induction (P := fun c => isDigitBelow 16 c → isNamePart c) (by decide +kernel)
      (Radix.toNat_lt_of_isDigitBelow h16) h16
  · rw [beq_iff_eq.1 h]
    decide

/-- Where digits are taken up to a stop, they are taken up to any other. -/
theorem markedDigits?_append {base : Nat} {ds : List Char} (hbase : base ≤ 16) (hv : Stops v)
    (hv' : Stops v') (h : markedDigits? base (u ++ v) = some (ds, v)) :
    markedDigits? base (u ++ v') = some (ds, v') := by
  have hclass : ∀ {w : Text}, Stops w →
      ∀ c ∈ w.head?, (isDigitBelow base c || c == '_') = false := by
    intro w hw c hc
    rw [← Bool.not_eq_true]
    intro h
    have := hw.not_isNamePart c hc
    rw [isNamePart_of_isDigitBelow hbase h] at this
    cases this
  have hdigit : ∀ {w : Text}, Stops w → w.head?.any Char.isDigit = false := by
    intro w hw
    cases w with
    | nil => rfl
    | cons c r =>
      have := isFigurePart_of_isStop (hw c rfl)
      rw [Bool.or_eq_false_iff] at this
      exact this.1
  have hdrop : u.dropWhile (fun c => isDigitBelow base c || c == '_') = [] := by
    obtain ⟨-, w, hw, -, hw'⟩ := markedDigits?_eq_some h
    rw [List.append_cancel_right hw, List.dropWhile_eq_nil_iff]
    exact hw'
  have hrun : ∀ {w : Text}, Stops w → markedDigits? base (u ++ w) =
      let run := u.takeWhile fun c => isDigitBelow base c || c == '_'
      if run.isEmpty || run.getLast? == some '_' ||
          !((run.zip run.tail).all fun p => p.1 != '_' || p.2 != '_') then none
      else some (run.filter (· != '_'), w) := by
    intro w hw
    rw [markedDigits?, Text.takeWhile_append_of_head (hclass hw),
      Text.dropWhile_append_of_head (hclass hw), hdrop]
    simp only [List.nil_append, hdigit hw, hw.mayFollowNumber, Bool.not_true, Bool.or_false]
  rw [hrun hv] at h
  rw [hrun hv']
  simp only at h ⊢
  split at h
  · cases h
  · rename_i hnone
    cases h
    rw [if_neg hnone]

theorem Stops.head?_isDigit (hv : Stops v) (u : Text) :
    (u ++ v).head?.any Char.isDigit = u.head?.any Char.isDigit := by
  cases u with
  | cons c u => rfl
  | nil =>
    cases v with
    | nil => rfl
    | cons c r =>
      have := isFigurePart_of_isStop (hv c rfl)
      rw [Bool.or_eq_false_iff] at this
      exact this.1

theorem literalExponent?_of_ne {c : Char} (hc : (c == 'e' || c == 'E') = false) (s : Text) :
    literalExponent? (c :: s) = some (none, c :: s) := by
  rw [literalExponent?, hc]
  rfl

theorem Stops.literalExponent? (h : Stops v) : literalExponent? v = some (none, v) := by
  cases v with
  | nil => rfl
  | cons c v =>
    apply literalExponent?_of_ne
    rw [← Bool.not_eq_true, Bool.or_eq_true, beq_iff_eq, beq_iff_eq]
    have := h c rfl
    rintro (rfl | rfl) <;> cases this

/-- A stop behind two characters has no part in the exponent that they begin. -/
theorem literalExponent?_cons_cons (c d : Char) (u : Text) (hv : Stops v) :
    literalExponent? (c :: d :: u ++ v) =
      (literalExponent? (c :: d :: u)).map fun x => (x.1, x.2 ++ v) := by
  have hmay : mayFollowNumber (c :: d :: u ++ v) = mayFollowNumber (c :: d :: u) :=
    mayFollowNumber_append (List.cons_ne_nil _ _) hv
  rw [List.cons_append, List.cons_append] at hmay ⊢
  have hdigits : (if (d :: (u ++ v)).head? == some '-' || (d :: (u ++ v)).head? == some '+'
      then (d :: (u ++ v)).tail else d :: (u ++ v)) =
      (if (d :: u).head? == some '-' || (d :: u).head? == some '+'
        then (d :: u).tail else d :: u) ++ v := by
    change (if some d == some '-' || some d == some '+' then u ++ v else d :: (u ++ v)) =
      (if some d == some '-' || some d == some '+' then u else d :: u) ++ v
    split <;> rfl
  rw [literalExponent?, literalExponent?, hmay]
  dsimp only
  rw [hdigits, hv.head?_isDigit, takeFigures?_append hv]
  generalize (if (d :: u).head? == some '-' || (d :: u).head? == some '+'
    then (d :: u).tail else d :: u) = digits
  split
  · split
    · rw [Option.map_map, Option.map_map]
      rfl
    · change (if !(some d == some '-' || some d == some '+') && mayFollowNumber (c :: d :: u)
        then some (none, c :: d :: (u ++ v)) else none) =
        (if !(some d == some '-' || some d == some '+') && mayFollowNumber (c :: d :: u)
          then some (none, c :: d :: u) else none).map _
      split <;> rfl
  · rfl

/-- Where an exponent is taken in front of a stop, it is taken in front of any other. -/
theorem literalExponent?_append {e? : Option Int} (hv : Stops v) (hv' : Stops v')
    (h : literalExponent? (u ++ v) = some (e?, r)) (hr : v.length ≤ r.length) :
    ∃ w, r = w ++ v ∧ literalExponent? (u ++ v') = some (e?, w ++ v') := by
  match u with
  | [] =>
    rw [List.nil_append, hv.literalExponent?] at h
    cases h
    exact ⟨[], rfl, hv'.literalExponent?⟩
  | c :: d :: u =>
    rw [literalExponent?_cons_cons c d u hv] at h
    obtain ⟨⟨e?, w⟩, hw, heq⟩ := Option.map_eq_some_iff.1 h
    cases heq
    exact ⟨w, rfl, by rw [literalExponent?_cons_cons c d u hv', hw]; rfl⟩
  | [c] =>
    by_cases hc : (c == 'e' || c == 'E') = true
    · -- an exponent that has no figures in front of the stop, but a sign or none at all
      exfalso
      have hmay : mayFollowNumber (c :: v) = false := by
        rw [← List.singleton_append, mayFollowNumber_append (List.cons_ne_nil _ _) hv]
        rcases Bool.or_eq_true_iff.1 hc with hc | hc <;> rw [beq_iff_eq.1 hc] <;> decide
      rw [List.singleton_append, literalExponent?] at h
      simp only [hc, if_true, hmay, Bool.and_false, Bool.false_eq_true, if_false] at h
      split at h
      · rename_i hsigned
        split at h
        · obtain ⟨⟨ds, t⟩, hfigures, heq⟩ := Option.map_eq_some_iff.1 h
          cases heq
          dsimp only at hr
          obtain ⟨w, hw, -⟩ := takeFigures?_eq_some hfigures
          have hlen := congrArg List.length hw
          rw [List.length_append, List.length_tail] at hlen
          cases v with
          | nil => cases hsigned
          | cons d v =>
            rw [List.length_cons] at hlen hr
            omega
        · cases h
      · rw [← List.nil_append v, hv.head?_isDigit] at h
        cases h
    · rw [List.singleton_append, literalExponent?_of_ne (Bool.not_eq_true _ ▸ hc)] at h
      cases h
      exact ⟨[c], rfl, literalExponent?_of_ne (Bool.not_eq_true _ ▸ hc) v'⟩

/-- A decimal in front of a stop. -/
theorem decimalConstant?_of_stops {whole : List Char} {part? : Option (List Char)}
    {e? : Option Int} (h : literalExponent? s = some (e?, v)) (hv : Stops v) :
    decimalConstant? whole part? s = (if part?.isSome || e?.isSome then
      some (.real ((Decimal.Unsigned.mk whole (part?.getD []) (e?.getD 0)).toFloat false))
      else figuresValue? whole).map fun c => (c, v) := by
  rw [decimalConstant?, h]
  simp only
  split
  · exact absurd rfl (hv.ne_cons (c := 'j') (by decide) _)
  · exact absurd rfl (hv.ne_cons (c := 'J') (by decide) _)
  · rw [hv.mayFollowNumber, Bool.not_true, if_neg Bool.false_ne_true]
    split <;> rfl

/-- A decimal in front of a final letter. -/
theorem decimalConstant?_of_letter {whole : List Char} {part? : Option (List Char)}
    {e? : Option Int} {d : Char} {w : Text} (h : literalExponent? s = some (e?, d :: w))
    (hd : d = 'j' ∨ d = 'J') : decimalConstant? whole part? s = if mayFollowNumber w then
      some (.imaginary ((Decimal.Unsigned.mk whole (part?.getD []) (e?.getD 0)).toFloat false), w)
      else none := by
  rw [decimalConstant?, h]
  rcases hd with rfl | rfl <;> rfl

/-- In front of anything else nothing more is taken. -/
theorem eq_of_decimalConstant? {whole : List Char} {part? : Option (List Char)}
    {e? : Option Int} {d : Char} {w : Text} (hexponent : literalExponent? s = some (e?, d :: w))
    (hd : ¬ (d = 'j' ∨ d = 'J')) (h : decimalConstant? whole part? s = some (c, r)) :
    r = d :: w := by
  rw [decimalConstant?, hexponent] at h
  simp only at h
  split at h
  · rename_i heq
    exact absurd (.inl (List.cons.inj heq).1) hd
  · rename_i heq
    exact absurd (.inr (List.cons.inj heq).1) hd
  · split at h
    · cases h
    · split at h
      · cases h
        rfl
      · obtain ⟨k, -, heq⟩ := Option.map_eq_some_iff.1 h
        cases heq
        rfl

theorem decimalConstant?_append {whole : List Char} {part? : Option (List Char)} (hv : Stops v)
    (hv' : Stops v') (h : decimalConstant? whole part? (u ++ v) = some (c, v)) :
    decimalConstant? whole part? (u ++ v') = some (c, v') := by
  obtain ⟨e?, rest, hexponent⟩ : ∃ e? rest, literalExponent? (u ++ v) = some (e?, rest) := by
    rw [decimalConstant?] at h
    split at h
    · cases h
    · exact ⟨_, _, by assumption⟩
  have hlen : v.length ≤ rest.length := by
    cases rest with
    | nil =>
      rw [decimalConstant?_of_stops hexponent stops_nil] at h
      obtain ⟨k, -, heq⟩ := Option.map_eq_some_iff.1 h
      cases heq
      exact Nat.le_refl _
    | cons d w =>
      by_cases hd : d = 'j' ∨ d = 'J'
      · rw [decimalConstant?_of_letter hexponent hd] at h
        split at h
        · cases h
          exact Nat.le_succ _
        · cases h
      · rw [← eq_of_decimalConstant? hexponent hd h]
  obtain ⟨w, rfl, hexponent'⟩ := literalExponent?_append hv hv' hexponent hlen
  cases w with
  | nil =>
    rw [decimalConstant?_of_stops hexponent hv] at h
    rw [decimalConstant?_of_stops hexponent' hv']
    obtain ⟨k, hk, heq⟩ := Option.map_eq_some_iff.1 h
    cases heq
    rw [hk]
    rfl
  | cons d w =>
    by_cases hd : d = 'j' ∨ d = 'J'
    · rw [decimalConstant?_of_letter hexponent hd] at h
      rw [List.cons_append] at hexponent'
      rw [decimalConstant?_of_letter hexponent' hd]
      split at h
      · simp only [Option.some.injEq, Prod.mk.injEq] at h
        obtain ⟨rfl, hw⟩ := h
        obtain rfl : w = [] := List.append_left_eq_self.1 hw
        rw [List.nil_append, if_pos hv'.mayFollowNumber]
      · cases h
    · have hrest : d :: w ++ v = v := (eq_of_decimalConstant? hexponent hd h).symm
      cases List.append_left_eq_self.1 hrest

theorem numberAt?_whole {whole : List Char} {t : Text} (hbase : literalBase? s = none)
    (hwhole : takeFigures? s = some (whole, t)) (ht : t.head? ≠ some '.') :
    numberAt? s = decimalConstant? whole none t := by
  rw [numberAt?, hbase]
  simp only [hwhole]
  split
  · rename_i heq
    cases heq
  · rename_i heq
    cases heq
    exact absurd rfl ht
  · rename_i heq
    cases heq
    rfl

theorem numberAt?_point {whole : List Char} {t : Text} (hbase : literalBase? s = none)
    (hwhole : takeFigures? s = some (whole, '.' :: t)) : numberAt? s =
      (takeFigures? t).bind fun x => decimalConstant? whole (some x.1) x.2 := by
  rw [numberAt?, hbase]
  simp only [hwhole]
  split
  · rename_i heq
    rw [heq]
    rfl
  · rename_i heq
    rw [heq]
    rfl

/-- A literal with a mark that is read in front of a stop is read in front of any other. -/
theorem numberAt?_append_of_mark {base : Nat} (hbase : literalBase? u = some base) (hu : u ≠ [])
    (hv : Stops v) (hv' : Stops v') (h : numberAt? (u ++ v) = some (c, v)) :
    numberAt? (u ++ v') = some (c, v') := by
  obtain ⟨m, t, rfl, hle, -⟩ := literalBase?_eq_some hbase
  rw [numberAt?, literalBase?_append hu hv, hbase] at h
  rw [numberAt?, literalBase?_append hu hv', hbase]
  obtain ⟨⟨ds, r⟩, hdigits, heq⟩ := Option.map_eq_some_iff.1 h
  cases heq
  change (markedDigits? base (t ++ v')).map _ = _
  rw [markedDigits?_append hle hv hv' hdigits]
  rfl

/-- A literal without a mark that is read in front of a stop is read in front of any other. -/
theorem numberAt?_append_of_figures (hbase : literalBase? u = none) (hu : u ≠ []) (hv : Stops v)
    (hv' : Stops v') (h : numberAt? (u ++ v) = some (c, v)) :
    numberAt? (u ++ v') = some (c, v') := by
  have hpoint : ∀ {w : Text}, Stops w → w.head? ≠ some '.' := by
    intro w hw hhead
    cases hw _ hhead
  have hbase' : ∀ {w : Text}, Stops w → literalBase? (u ++ w) = none := fun hw => by
    rw [literalBase?_append hu hw, hbase]
  have hfigures : ∀ {w : Text}, Stops w → _ := fun {w} hw => takeFigures?_append (v := w) hw u
  cases hwhole : takeFigures? u with
  | none =>
    rw [numberAt?, hbase' hv, hfigures hv, hwhole] at h
    cases h
  | some x =>
    obtain ⟨whole, t⟩ := x
    simp only [hwhole, Option.map_some] at hfigures
    match t with
    | [] =>
      rw [numberAt?_whole (hbase' hv) (hfigures hv) (hpoint hv)] at h
      rw [numberAt?_whole (hbase' hv') (hfigures hv') (hpoint hv')]
      exact decimalConstant?_append (u := []) hv hv' h
    | d :: t =>
      by_cases hd : d = '.'
      · subst hd
        rw [numberAt?_point (hbase' hv) (hfigures hv)] at h
        rw [numberAt?_point (hbase' hv') (hfigures hv')]
        change (takeFigures? (t ++ v)).bind _ = _ at h
        change (takeFigures? (t ++ v')).bind _ = _
        rw [takeFigures?_append hv] at h
        rw [takeFigures?_append hv']
        cases hpart : takeFigures? t with
        | none =>
          rw [hpart] at h
          cases h
        | some x =>
          rw [hpart] at h
          exact decimalConstant?_append hv hv' h
      · have hne : ∀ {w : Text}, (d :: t ++ w).head? ≠ some '.' := by
          simpa using hd
        rw [numberAt?_whole (hbase' hv) (hfigures hv) hne] at h
        rw [numberAt?_whole (hbase' hv') (hfigures hv') hne]
        exact decimalConstant?_append hv hv' h

/-- A literal that is read in front of a stop is read in front of any other. -/
theorem numberAt?_append (hu : u ≠ []) (hv : Stops v) (hv' : Stops v')
    (h : numberAt? (u ++ v) = some (c, v)) : numberAt? (u ++ v') = some (c, v') := by
  cases hbase : literalBase? u with
  | some base => exact numberAt?_append_of_mark hbase hu hv hv' h
  | none => exact numberAt?_append_of_figures hbase hu hv hv' h

/-! ## Digits alone -/

theorem takeFigures?_of_isDigit (hu : ∀ d ∈ u, d.isDigit) : takeFigures? u = some (u, []) := by
  have hclass : ∀ d ∈ u, (d.isDigit || d == '_') = true := fun d hd => by simp [hu d hd]
  have hline : ∀ d ∈ u, d ≠ '_' := by
    rintro d hd rfl
    cases hu '_' hd
  have hhead : (u.head? == some '_') = false := by
    rw [beq_eq_false_iff_ne]
    exact fun h => hline '_' (List.mem_of_mem_head? h) rfl
  have hlast : (u.getLast? == some '_') = false := by
    rw [beq_eq_false_iff_ne]
    exact fun h => hline '_' (List.mem_of_getLast? h) rfl
  have hspaced : ((u.zip u.tail).all fun p => p.1 != '_' || p.2 != '_') = true := by
    rw [List.all_eq_true]
    intro p hp
    simp [hline p.1 (List.of_mem_zip hp).1]
  have hfilter : u.filter (· != '_') = u := by
    rw [List.filter_eq_self]
    exact fun d hd => by simpa using hline d hd
  rw [takeFigures?, List.takeWhile_eq_self_iff.2 hclass, List.dropWhile_eq_nil_iff.2 hclass]
  simp only [hhead, hlast, hfilter, Bool.or_false, Bool.false_eq_true, if_false]
  exact if_pos hspaced

theorem markedDigits?_of_isDigitBelow {base : Nat} (hu : u ≠ [])
    (hdigits : ∀ d ∈ u, isDigitBelow base d) : markedDigits? base u = some (u, []) := by
  have hclass : ∀ d ∈ u, (isDigitBelow base d || d == '_') = true := fun d hd => by
    simp [hdigits d hd]
  have hline : ∀ d ∈ u, d ≠ '_' := by
    rintro d hd rfl
    cases hdigits '_' hd
  have hlast : (u.getLast? == some '_') = false := by
    rw [beq_eq_false_iff_ne]
    exact fun h => hline '_' (List.mem_of_getLast? h) rfl
  have hspaced : ((u.zip u.tail).all fun p => p.1 != '_' || p.2 != '_') = true := by
    rw [List.all_eq_true]
    intro p hp
    simp [hline p.1 (List.of_mem_zip hp).1]
  have hfilter : u.filter (· != '_') = u := by
    rw [List.filter_eq_self]
    exact fun d hd => by simpa using hline d hd
  rw [markedDigits?, List.takeWhile_eq_self_iff.2 hclass, List.dropWhile_eq_nil_iff.2 hclass]
  simp only [hlast, hspaced, hfilter, stops_nil.mayFollowNumber]
  simp [hu]

/-- Figures in front of a stop are read as the number they write. -/
theorem numberAt?_figures (hu : u ≠ []) (hdigit : ∀ d ∈ u, d.isDigit) (hv : Stops v) :
    numberAt? (u ++ v) = (figuresValue? u).map fun c => (c, v) := by
  have hbase : literalBase? (u ++ v) = none := by
    rw [literalBase?_append hu hv, ← Option.not_isSome_iff_eq_none, Option.isSome_iff_exists]
    rintro ⟨base, hbase⟩
    obtain ⟨m, t, rfl, -, hm⟩ := literalBase?_eq_some hbase
    have hletters : ∀ m ∈ ['x', 'X', 'o', 'O', 'b', 'B'], m.isDigit = false :=
      List.all_iff_forall_prop.1 (by decide)
    have := hletters m hm
    rw [hdigit m (by simp)] at this
    cases this
  have hfigures := takeFigures?_append hv u
  rw [takeFigures?_of_isDigit hdigit] at hfigures
  rw [numberAt?_whole hbase hfigures fun h => by cases hv _ h]
  exact decimalConstant?_of_stops hv.literalExponent? hv

end Abacus.Expr
