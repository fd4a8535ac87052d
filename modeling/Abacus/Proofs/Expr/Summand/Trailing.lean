import Abacus.Proofs.Expr.Lexing.Words
import Abacus.Proofs.Expr.Summand.Enclosing

/-!
# What stands behind a numeral

Behind a numeral that takes up the start of a text there are blanks, an arrow, or a name behind
blanks.  The passes over a text keep it that way.  In front of a plus only blanks that are passed
over leave a calculation.
-/

namespace Abacus.Expr

open Text (isBlank)

variable {b : Bool} {c : Char} {s t v w : Text} {e : Expr} {k : Constant} {l : Lexeme}
  {ls ns p q rest : List Lexeme}

/-- The text starts with a character of names that is no figure. -/
def StartsName (s : Text) : Prop := ∃ c t, s = c :: t ∧ isNamePart c ∧ c.isDigit = false

/-- Blanks, an arrow behind them, or a name behind at least one of them; whether there is nothing
but blanks. -/
inductive Trails : Bool → Text → Prop
  | blanks {v : Text} (hv : ∀ c ∈ v, isBlank c) : Trails true v
  | arrow {v : Text} (hv : ∀ c ∈ v, isBlank c) (t : Text) : Trails false (v ++ '-' :: '>' :: t)
  | name {v s : Text} (hv : ∀ c ∈ v, isBlank c) (hne : v ≠ []) (hs : StartsName s) :
      Trails false (v ++ s)

/-! ## Passes -/

theorem startsName_promote (h : StartsName s) : StartsName (promote s) := by
  obtain ⟨c, t, rfl, hname, hdigit⟩ := h
  have hnone : promotableToken.length? none (c :: t) = none := by
    rw [Option.eq_none_iff_forall_ne_some]
    intro n hn
    obtain ⟨w, v, hs, -, -, hw, -⟩ := length?_promotableToken.1 hn
    obtain ⟨q, rfl⟩ := hw.exists_cons
    obtain ⟨rfl, -⟩ := List.cons.inj hs
    cases hdigit
  rw [promote, Text.replaceTokens, Text.replaceFrom_cons_of_none hnone]
  exact ⟨c, _, rfl, hname, hdigit⟩

theorem startsName_withOwnNames (h : StartsName s) : StartsName (withOwnNames s) := by
  obtain ⟨c, t, rfl, hname, hdigit⟩ := h
  have hcaret : ∀ e : Char, isNamePart e → expandCaret e = [e] := by
    intro e he
    rw [expandCaret, beq_eq_false_iff_ne.2]
    · rfl
    · rintro rfl
      cases he
  rw [withOwnNames_eq]
  cases hlen : nameLength? none (c :: t) with
  | none =>
    rw [ownNamesFrom, Text.replaceFrom_cons_of_none hlen, List.flatMap_cons, hcaret c hname]
    exact ⟨c, _, rfl, hname, hdigit⟩
  | some n =>
    obtain ⟨-, hallowed, rfl⟩ := nameLength?_eq_some hlen
    obtain ⟨k, hk⟩ := exists_name_of_isAllowedName hallowed
    have hs : c :: t = k.text ++ (c :: t).dropWhile Text.isWord := by
      rw [← hk, List.takeWhile_append_dropWhile]
    rw [hk, hs] at hlen
    rw [hs, ownNamesFrom_of_name hlen]
    obtain ⟨d, u, hd⟩ := List.exists_cons_of_ne_nil k.own.text_ne_nil
    have halpha : d.isAlpha := k.own.isAlpha_of_mem_head? d (by rw [hd]; rfl)
    have hpart : isNamePart d := by simp [isNamePart, Char.isAlphanum, halpha]
    rw [hd, List.cons_append, List.flatMap_cons, hcaret d hpart]
    exact ⟨d, _, rfl, hpart, Text.not_isDigit_of_isAlpha halpha⟩

theorem startsName_unifiedBreaks (h : StartsName s) : StartsName (unifiedBreaks s) := by
  obtain ⟨c, t, rfl, hname, hdigit⟩ := h
  have hreturn : c ≠ '\r' := by
    rintro rfl
    cases hname
  rw [unifiedBreaks_cons hreturn]
  exact ⟨c, _, rfl, hname, hdigit⟩

/-- A pass that keeps names keeps what stands behind a numeral. -/
theorem IsPass.exists_trails {F : Text → Text} (hF : IsPass F)
    (hname : ∀ s, StartsName s → StartsName (F s)) (hv : Trails b v) (w : Text) :
    ∃ v', F (w ++ v) = F w ++ v' ∧ Trails b v' := by
  have hcuts : ∀ {x : Text}, (∀ c ∈ x, isBlank c) → ∀ c ∈ x, IsCut c := fun hx c hc =>
    isCut_of_isBlank (hx c hc)
  cases hv with
  | blanks hv =>
    by_cases hne : v = []
    · rw [hne, List.append_nil]
      exact ⟨[], (List.append_nil _).symm, .blanks nofun⟩
    · have hblanks := hF.append_cuts_append hne (hcuts hv) w []
      rw [hF.nil, List.append_nil] at hblanks
      exact ⟨v, hblanks, .blanks hv⟩
  | @arrow v hv t =>
    have harrow := @IsPass.append_cuts_append (v ++ ['-', '>']) F hF (by simp)
      (List.forall_mem_append.2 ⟨hcuts hv, by decide⟩) w t
    rw [List.append_assoc, List.append_assoc] at harrow
    exact ⟨_, harrow, .arrow hv (F t)⟩
  | name hv hne hs => exact ⟨_, hF.append_cuts_append hne (hcuts hv) w _, .name hv hne (hname _ hs)⟩

theorem Trails.unifiedBreaks (hv : Trails b v) : Trails b (unifiedBreaks v) := by
  have hblanks : ∀ {x : Text}, (∀ c ∈ x, isBlank c) → ∀ c ∈ Expr.unifiedBreaks x, isBlank c :=
    fun hx => forall_mem_unifiedBreaks rfl fun c hc => .inl (hx c hc)
  cases hv with
  | blanks hv => exact .blanks (hblanks hv)
  | arrow hv t =>
    rw [unifiedBreaks_append_cons (by decide), unifiedBreaks_cons (by decide),
      unifiedBreaks_cons (by decide)]
    exact .arrow (hblanks hv) _
  | @name v s hv hne hs =>
    obtain ⟨c, t, rfl, hname, hdigit⟩ := hs
    have hbreak : c ≠ '\n' := by
      rintro rfl
      cases hname
    rw [unifiedBreaks_append_cons hbreak]
    refine .name (hblanks hv) ?_ (startsName_unifiedBreaks ⟨c, t, rfl, hname, hdigit⟩)
    obtain ⟨b, v, rfl⟩ := List.exists_cons_of_ne_nil hne
    have hhead := head?_unifiedBreaks (b :: v)
    intro hnil
    rw [hnil] at hhead
    cases hhead

/-! ## Lexemes -/

/-- Line breaks in front of another lexeme are within a calculation, where there are none. -/
theorem eq_nil_of_newlines (hp : ∀ l ∈ p, l.isPlain) (hrest : ∀ l ∈ rest, l = .newline)
    (h : p ++ rest = q ++ (ns ++ l :: ls)) (hns : ∀ l ∈ ns, l = .newline) (hl : l ≠ .newline) :
    ns = [] := by
  cases ns with
  | nil => rfl
  | cons n ns =>
    exfalso
    obtain ⟨rfl, -⟩ := List.forall_mem_cons.1 hns
    rcases List.append_eq_append_iff.1 h with ⟨x, rfl, hx⟩ | ⟨x, rfl, hx⟩
    · exact hl (hrest l (by simp [hx]))
    · cases x with
      | nil => exact hl (hrest l (by rw [List.nil_append] at hx; simp [← hx]))
      | cons l' x =>
        obtain ⟨rfl, -⟩ := List.cons.inj hx
        cases hp .newline (by simp)

theorem Clean.right (h : Clean (p ++ q)) : Clean q := by
  induction p with
  | nil => exact h
  | cons l p ih => exact ih h.tail

/-- Behind the number of a calculation there are only blanks in front of a plus. -/
theorem Trails.exists_plus (hv : Trails b v) (h : Lexes 0 (v ++ ' ' :: '+' :: ' ' :: s) ls)
    (hp : Spells .sum e p) (hrest : ∀ l ∈ rest, l = .newline)
    (heq : p ++ rest = q ++ .number k :: ls) :
    b = true ∧ ∃ ls', ls = .mark .plus :: ls' ∧ Lexes 0 s ls' := by
  have hclean : Clean (q ++ .number k :: ls) := heq ▸ hp.clean hrest
  have hbreaks : ∀ {ns ls' : List Lexeme} {l : Lexeme}, ls = ns ++ l :: ls' →
      (∀ l ∈ ns, l = .newline) → l ≠ .newline → ns = [] := by
    rintro ns ls' l rfl hns hl
    refine @eq_nil_of_newlines l ls' ns p (q ++ [.number k]) rest hp.isPlain hrest ?_ hns hl
    rw [heq, List.append_assoc, List.singleton_append]
  cases hv with
  | blanks hv =>
    obtain ⟨ns, ls₁, rfl, hns, hlexes⟩ := Lexes.of_blanks h hv
    obtain ⟨ls', rfl, hsum⟩ := lexes_plus_iff.1 hlexes
    obtain rfl := hbreaks rfl hns nofun
    exact ⟨rfl, ls', rfl, hsum⟩
  | arrow hv t =>
    rw [List.append_assoc] at h
    obtain ⟨ns, ls₁, rfl, -, hlexes⟩ := Lexes.of_blanks h hv
    obtain ⟨ls', rfl, -⟩ := Lexes.of_lexeme (p := ['-', '>']) (l := .mark .other) hlexes
      (List.cons_ne_nil _ _) rfl
    rcases hclean.plain (.mark .other) (by simp) with hplain | hbreak
    · cases hplain
    · cases hbreak
  | name hv hne hs =>
    obtain ⟨c, t, rfl, hname, hdigit⟩ := hs
    rw [List.append_assoc] at h
    obtain ⟨ns, ls₁, rfl, hns, hlexes⟩ := Lexes.of_blanks h hv
    obtain ⟨id, ls', -, -, rfl⟩ := Lexes.exists_name hlexes
      (Clean.right (p := q ++ .number k :: ns) (by simpa using hclean)) hname hdigit
    obtain rfl := hbreaks rfl hns nofun
    -- a name would stand directly behind the number
    cases (List.isChain_cons.1 hclean.right.parted).1 (.name id) rfl

end Abacus.Expr
