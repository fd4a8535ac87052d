import Abacus.Proofs.Expr.Attempt
import Abacus.Proofs.Expr.Stripping.Fates

/-!
# The words of admitted texts

Names are looked for in what the numerals leave of a text, so a text is also admitted where a name
and a numeral run together: a numeral right behind an allowed name in the same word, or a word that
goes with a mark and the letter of a base behind it.  Nothing else gets through: outside the
numerals that name their base by a number, every word of an admitted text that starts as a name is
an allowed name, or digits and the letter of their base, or runs together in one of these two ways.

This is a bound in one direction.  A text in which a word runs together with a numeral need not be
admitted.
-/

namespace Abacus.Expr.Stripping

open Text (isDecimal isNameChar isWord)

variable {cfg : Settings} {prev : Option Cell} {l : Char} {b : Base} {d : Cell}
  {ps : List Part} {n t x y z : List Cell} {s u v w : Text}

/-! ## What is seen of the cells -/

namespace Cell

/-- The character, or a zero if it goes. -/
def shown (d : Cell) : Char := if d.2 = .stays then d.1 else '0'

/-- A character of a name that stays. -/
def names (d : Cell) : Bool := isNameChar (shown d)

theorem shown_of_ne (h : d.2 ≠ .stays) : shown d = '0' := if_neg h

theorem stays_of_names (h : names d) : d.2 = .stays := by
  by_contra hgoes
  rw [names, shown_of_ne hgoes] at h
  cases h

theorem shown_of_names (h : names d) : shown d = d.1 := if_pos (stays_of_names h)

theorem names_of_not_isWord (h : isWord d.1 = false) : names d = false := by
  cases hd : names d with
  | false => rfl
  | true =>
    have hname : isNameChar (shown d) := hd
    rw [shown_of_names hd, not_isNameChar_of_not_isWord h] at hname
    cases hname

/-- In a word outside the numerals that name their base, what is no figure and no character of a
name that stays goes with a numeral. -/
theorem goes_of_not_names (hword : isWord d.1) (htag : d.2 ≠ .tagged) (hd : names d = false)
    (hdecimal : isDecimal d.1 = false) : d.2 = .numeral := by
  cases hfate : d.2 with
  | stays =>
    rw [names, shown, if_pos hfate, isNameChar, hword, hdecimal] at hd
    cases hd
  | numeral => rfl
  | tagged => exact absurd hfate htag

end Cell

/-- Whether all that goes is shown as one zero or as several makes no difference to the names. -/
theorem runs_shown (hps : ∀ p ∈ ps, p.Sealed) (u : Text) :
    Text.runs isNameChar (u ++ (ps.flatMap Part.cells).map Cell.shown) =
      Text.runs isNameChar (u ++ seen ps) := by
  have hzero : isNameChar '0' = false := by decide
  induction ps generalizing u with
  | nil => rfl
  | cons p ps ih =>
    obtain ⟨hp, hps'⟩ := List.forall_mem_cons.1 hps
    rw [List.flatMap_cons, List.map_append, seen_cons]
    cases p with
    | own c =>
      have hrest := ih hps' (u ++ [c])
      rw [List.append_assoc, List.append_assoc] at hrest
      exact hrest
    | numeral source =>
      have hzeros : ∀ c ∈ source.map Cell.shown, isNameChar c = false := by
        intro c hc
        obtain ⟨d, hd, rfl⟩ := List.mem_map.1 hc
        rw [Cell.shown_of_ne (hp.2 d hd), hzero]
      cases source with
      | nil =>
        obtain ⟨d, hd, -⟩ := hp.1
        cases hd
      | cons d source =>
        rw [List.map_cons] at hzeros
        obtain ⟨hd, hsource⟩ := List.forall_mem_cons.1 hzeros
        rw [Part.cells, List.map_cons, List.cons_append, Text.runs_append_cons hd,
          Text.runs_append_of_forall hsource, Part.shown, Text.runs_append_cons hzero]
        exact congrArg (Text.runs isNameChar u ++ ·) (ih hps' [])

/-! ## Mixed words -/

/-- A word of allowed names, figures and numerals that begin with another character, in front of a
text; no name stands right behind another. -/
inductive Mixed (v : Text) : Bool → Text → Prop
  | nil {named : Bool} : Mixed v named []
  | name {n t : Text} (hn : isAllowedName n) (h : Mixed v true t) : Mixed v false (n ++ t)
  | figures {named : Bool} {c : Char} {q t : Text} (hc : isDecimal c)
      (hq : ∀ d ∈ q, isNumeralChar d) (h : Mixed v false t) : Mixed v named (c :: q ++ t)
  | numeral {named : Bool} {t : Text} (h : Begins (t ++ v)) : Mixed v named t

/-- The names that are seen are allowed, and what goes is explained. -/
structure Admitted (cs : List Cell) : Prop where
  names : ∀ n ∈ Text.runs isNameChar (cs.map Cell.shown), isAllowedName n
  accounted : Accounted none cs []

/-- A run of characters of names that stay is a name that is seen. -/
theorem Admitted.isAllowedName_of_run (h : Admitted (x ++ (z ++ y))) (hz : z ≠ [])
    (hnames : ∀ d ∈ z, Cell.names d) (hx : x.getLast?.any Cell.names = false)
    (hy : ∀ d ∈ y.head?, Cell.names d = false) : isAllowedName (z.map Prod.fst) := by
  have hshown : z.map Cell.shown = z.map Prod.fst :=
    List.map_congr_left fun d hd => Cell.shown_of_names (hnames d hd)
  have hrun : ((z ++ y).map Cell.shown).takeWhile isNameChar = z.map Prod.fst := by
    rw [List.map_append, ← hshown]
    refine Text.takeWhile_append_eq ?_ ?_
    · intro c hc
      obtain ⟨d, hd, rfl⟩ := List.mem_map.1 hc
      exact hnames d hd
    · intro c hc
      rw [List.head?_map] at hc
      obtain ⟨d, hd, rfl⟩ := Option.mem_map.1 hc
      exact hy d hd
  have hmem : z.map Prod.fst ∈ Text.runs isNameChar ((x ++ (z ++ y)).map Cell.shown) := by
    rw [List.map_append, ← hrun]
    refine Text.takeWhile_mem_runs ?_ ?_
    · intro c hc
      rw [List.getLast?_map] at hc
      obtain ⟨d, hd, rfl⟩ := Option.mem_map.1 hc
      rw [Option.mem_def.1 hd] at hx
      exact hx
    · rw [hrun]
      exact fun hnil => hz (List.map_eq_nil_iff.1 hnil)
  exact h.names _ hmem

/-- What is no character of a name that stays makes part of numerals. -/
theorem Accounted.isNumeralChar (h : Accounted prev z v)
    (hz : ∀ d ∈ z, isWord d.1 ∧ d.2 ≠ .tagged) (hnot : ∀ d ∈ z, Cell.names d = false) :
    ∀ d ∈ z, isNumeralChar d.1 := by
  induction z generalizing prev with
  | nil => exact nofun
  | cons d z ih =>
    obtain ⟨⟨hword, htag⟩, hz⟩ := List.forall_mem_cons.1 hz
    obtain ⟨hd, hnot⟩ := List.forall_mem_cons.1 hnot
    refine List.forall_mem_cons.2 ⟨?_, ih h.2 hz hnot⟩
    cases hdecimal : isDecimal d.1 with
    | true => exact (figures_of_isDecimal hdecimal).numeral
    | false => exact (h.1 (Cell.goes_of_not_names hword htag hd hdecimal)).numeral hword

/-- The rest `z` of a word stands between `x` and `y`, and neither a name nor a numeral goes on from
`x` into it. -/
structure Rest (x z y : List Cell) : Prop where
  admitted : Admitted (x ++ (z ++ y))
  word : ∀ d ∈ z, isWord d.1 ∧ d.2 ≠ .tagged
  stop : ∀ d ∈ y.head?, Cell.names d = false
  name : x.getLast?.any Cell.names → ∀ d ∈ z.head?, Cell.names d = false
  goes : Goes x.getLast? → ∀ d ∈ z.head?, Cell.names d

namespace Rest

/-- Behind a run of characters of names, or of others, there is again a rest of the word. -/
theorem behind (h : Rest x (d :: n ++ t) y) (hrun : ∀ e ∈ d :: n, Cell.names e = Cell.names d)
    (hstop : ∀ e ∈ t.head?, Cell.names e = !Cell.names d) :
    Rest (x ++ d :: n) t y ∧ (x ++ d :: n).getLast?.any Cell.names = Cell.names d := by
  obtain ⟨e, he, hlast⟩ : ∃ e ∈ d :: n, (x ++ d :: n).getLast? = some e := by
    refine ⟨(d :: n).getLast (List.cons_ne_nil d n), List.getLast_mem _, ?_⟩
    rw [List.getLast?_append, List.getLast?_eq_some_getLast (List.cons_ne_nil d n), Option.some_or]
  have hnames : (x ++ d :: n).getLast?.any Cell.names = Cell.names d := by
    rw [hlast, Option.any_some, hrun e he]
  refine ⟨⟨?_, (List.forall_mem_append.1 h.word).2, h.stop, ?_, ?_⟩, hnames⟩
  · rw [List.append_assoc, ← List.append_assoc (d :: n)]
    exact h.admitted
  · intro hname f hf
    rw [hnames] at hname
    rw [hstop f hf, hname, Bool.not_true]
  · intro hgoes f hf
    rw [hlast] at hgoes
    obtain ⟨_, ⟨⟩, -, hstays⟩ := hgoes
    cases hd : Cell.names d with
    | false => rw [hstop f hf, hd, Bool.not_false]
    | true => exact absurd (Cell.stays_of_names ((hrun e he).trans hd)) hstays

/-- A run of characters of names is allowed, and no name stands right in front. -/
theorem isAllowedName_of_run (h : Rest x (d :: n ++ t) y)
    (hrun : ∀ e ∈ d :: n, Cell.names e = Cell.names d)
    (hstop : ∀ e ∈ t.head?, Cell.names e = !Cell.names d) (hd : Cell.names d) :
    x.getLast?.any Cell.names = false ∧ isAllowedName ((d :: n).map Prod.fst) := by
  have hx : x.getLast?.any Cell.names = false := by
    cases hlast : x.getLast?.any Cell.names with
    | false => rfl
    | true => exact hd.symm.trans (h.name hlast d rfl)
  have hadmitted := h.admitted
  rw [List.append_assoc] at hadmitted
  refine ⟨hx, hadmitted.isAllowedName_of_run (List.cons_ne_nil d n)
    (fun e he => (hrun e he).trans hd) hx fun e he => ?_⟩
  rw [List.head?_append] at he
  rcases Option.or_eq_some_iff.1 he with he | ⟨-, he⟩
  · rw [hstop e he, hd, Bool.not_true]
  · exact h.stop e he

theorem isNumeralChar_of_run (h : Rest x (d :: n ++ t) y)
    (hrun : ∀ e ∈ d :: n, Cell.names e = Cell.names d) (hd : Cell.names d = false) :
    ∀ e ∈ d :: n, isNumeralChar e.1 := by
  have haccounted := (accounted_append.1 h.admitted.accounted).2
  rw [List.append_assoc] at haccounted
  exact (accounted_append.1 haccounted).1.isNumeralChar (List.forall_mem_append.1 h.word).1
    fun e he => (hrun e he).trans hd

/-- A numeral begins where the rest does, if neither a name nor a figure does. -/
theorem begins (h : Rest x (d :: z) y) (hd : Cell.names d = false)
    (hdecimal : isDecimal d.1 = false) :
    Begins ((d :: z).map Prod.fst ++ y.map Prod.fst) := by
  obtain ⟨⟨hword, htag⟩, -⟩ := List.forall_mem_cons.1 h.word
  have haccounted := (accounted_append.1 h.admitted.accounted).2
  rw [Option.or_none, List.cons_append] at haccounted
  have hexplained := haccounted.1 (Cell.goes_of_not_names hword htag hd hdecimal)
  have hname : isNameChar d.1 := by rw [Text.isNameChar, hword, hdecimal]; rfl
  rcases hexplained.name hname with hgoes | hbegins
  · exact absurd (hd.symm.trans (h.goes hgoes d rfl)) Bool.false_ne_true
  · rwa [List.append_nil, List.map_append, ← List.cons_append, ← List.map_cons] at hbegins

/-- The cells up to the first that differs from `d` in making part of a name. -/
theorem exists_run (d : Cell) (z : List Cell) : ∃ n t, z = n ++ t ∧
    (∀ e ∈ d :: n, Cell.names e = Cell.names d) ∧ ∀ e ∈ t.head?, Cell.names e = !Cell.names d := by
  let p : Cell → Bool := fun e => Cell.names e == Cell.names d
  refine ⟨z.takeWhile p, z.dropWhile p, List.takeWhile_append_dropWhile.symm, ?_, ?_⟩
  · refine List.forall_mem_cons.2 ⟨rfl, fun e he => ?_⟩
    have hp : p e := List.mem_takeWhile_imp he
    exact beq_iff_eq.1 hp
  · intro e he
    have hnot := List.head?_dropWhile_not p z
    rw [Option.mem_def.1 he] at hnot
    exact Bool.eq_not_of_ne (beq_eq_false_iff_ne.1 hnot)

/-- By induction on what is left of the word, run by run. -/
theorem mixed (h : Rest x z y) :
    Mixed (y.map Prod.fst) (x.getLast?.any Cell.names) (z.map Prod.fst) := by
  induction hlen : z.length using Nat.strong_induction_on generalizing x z with
  | _ k ih =>
    cases z with
    | nil => exact .nil
    | cons d z =>
      obtain ⟨n, t, rfl, hrun, hstop⟩ := exists_run d z
      rw [← List.cons_append] at h hlen
      have hlt : t.length < k := by
        rw [← hlen, List.length_append, List.length_cons]
        omega
      obtain ⟨hrest, hlast⟩ := h.behind hrun hstop
      have hmixed := ih t.length hlt hrest rfl
      rw [hlast] at hmixed
      cases hd : Cell.names d with
      | true =>
        obtain ⟨hx, hallowed⟩ := h.isAllowedName_of_run hrun hstop hd
        rw [hd] at hmixed
        rw [hx, ← List.cons_append, List.map_append]
        exact .name hallowed hmixed
      | false =>
        cases hdecimal : isDecimal d.1 with
        | true =>
          rw [hd] at hmixed
          have hfigures := h.isNumeralChar_of_run hrun hd
          rw [List.map_cons, List.map_append, ← List.cons_append]
          refine .figures hdecimal ?_ hmixed
          intro c hc
          obtain ⟨e, he, rfl⟩ := List.mem_map.1 hc
          exact hfigures e (List.mem_cons_of_mem d he)
        | false => exact .numeral (h.begins hd hdecimal)

end Rest

/-! ## The words of a text -/

/-- The word `w` of a text stands between `u` and `v`, starts with a character of names, and lies
outside the numerals that name their base by a number. -/
structure IsNameWord (s u w v : Text) : Prop where
  split : s = u ++ (w ++ v)
  left : ∀ c ∈ u.getLast?, isWord c = false
  word : ∀ c ∈ w, isWord c
  right : ∀ c ∈ v.head?, isWord c = false
  first : ∃ c ∈ w.head?, isNameChar c
  untagged : ∀ d ∈ ((cells s).drop u.length).take w.length, d.2 ≠ .tagged

/-- A name runs together with what else its word holds, or a word with the mark that digits at its
start lead up to. -/
inductive RunsTogether (w v : Text) : Prop
  | behind {n t : Text} (hn : isAllowedName n) (ht : t ≠ []) (hw : w = n ++ t) (h : Mixed v true t)
  | ahead (h : LeadsToMark (w ++ v))

/-- Of an admitted text, all names that are seen are allowed. -/
theorem admitted_cells (h : screen cfg s = .ok ()) : Admitted (cells (Text.normalized s)) where
  names := by
    intro n hn
    have hunknown : unknownName? s = none := (screen_eq_ok.1 h).2.2.2
    have hruns := runs_shown (sound_parts (Text.normalized s)).sealed []
    rw [List.nil_append, List.nil_append, seen_parts] at hruns
    rw [cells, hruns] at hn
    simpa using List.find?_eq_none.1 hunknown n hn
  accounted := (sound_parts _).accounted

/-- The cells of a word are the rest of one. -/
theorem IsNameWord.exists_rest (hw : IsNameWord s u w v) (h : Admitted (cells s)) :
    ∃ x z y, Rest x z y ∧ z.map Prod.fst = w ∧ y.map Prod.fst = v ∧
      x.getLast?.any Cell.names = false := by
  have hcells : (cells s).map Prod.fst = u ++ (w ++ v) := (source_parts s).trans hw.split
  obtain ⟨x, _, hsplit, rfl, hzy⟩ := List.map_eq_append_iff.1 hcells
  obtain ⟨z, y, rfl, rfl, rfl⟩ := List.map_eq_append_iff.1 hzy
  have hz : ((cells s).drop (x.map Prod.fst).length).take (z.map Prod.fst).length = z := by
    rw [hsplit, List.length_map, List.length_map, List.drop_left, List.take_left]
  have hleft : ∀ d ∈ x.getLast?, isWord d.1 = false := by
    intro d hd
    refine hw.left d.1 ?_
    rw [List.getLast?_map, Option.mem_def.1 hd]
    rfl
  have hlast : x.getLast?.any Cell.names = false := by
    cases hx : x.getLast? with
    | none => rfl
    | some d => exact Cell.names_of_not_isWord (hleft d hx)
  refine ⟨x, z, y, ?_, rfl, rfl, hlast⟩
  constructor
  case admitted => exact hsplit ▸ h
  case word =>
    intro d hd
    exact ⟨hw.word d.1 (List.mem_map_of_mem hd), hw.untagged d (by rwa [hz])⟩
  case stop =>
    intro d hd
    refine Cell.names_of_not_isWord (hw.right d.1 ?_)
    rw [List.head?_map, Option.mem_def.1 hd]
    rfl
  case name =>
    intro hx
    rw [hlast] at hx
    cases hx
  case goes =>
    rintro ⟨d, hd, hword, -⟩
    rw [hleft d hd] at hword
    cases hword

/-- Digits and the letter of their base that end where a word does are the word. -/
theorem IsSuffixedWord.eq_word {t' v' : Text} (h : IsSuffixedWord t' l b)
    (hv' : ∀ c ∈ v'.head?, isWord c = false) (hw : ∀ c ∈ w, isWord c)
    (hv : ∀ c ∈ v.head?, isWord c = false) (heq : t' ++ v' = w ++ v) : t' = w := by
  rw [← Text.takeWhile_append_eq (fun c hc => (h.figures c hc).word) hv', heq,
    Text.takeWhile_append_eq hw hv]

/-- Every word of an admitted text that starts as a name, outside the numerals that name their base
by a number, is an allowed name, or digits and the letter of their base, or runs together with a
numeral. -/
theorem word_of_screen (h : screen cfg s = .ok ()) (hw : IsNameWord (Text.normalized s) u w v) :
    isAllowedName w ∨ (∃ l b, IsSuffixedWord w l b) ∨ RunsTogether w v := by
  obtain ⟨x, z, y, hrest, rfl, rfl, hx⟩ := hw.exists_rest (admitted_cells h)
  have hmixed := hrest.mixed
  obtain ⟨c, hc, hname⟩ := hw.first
  rw [hx] at hmixed
  generalize z.map Prod.fst = w at *
  generalize y.map Prod.fst = v at *
  cases hmixed with
  | nil => cases hc
  | @name n t hn ht =>
    cases t with
    | nil => exact .inl (by rwa [List.append_nil])
    | cons d t => exact .inr (.inr (.behind hn (List.cons_ne_nil d t) rfl ht))
  | figures hdecimal =>
    cases hc
    rw [not_isNameChar_of_isDecimal hdecimal] at hname
    cases hname
  | numeral hbegins =>
    generalize hwv : w ++ v = r at hbegins
    cases hbegins with
    | suffixed ht hv =>
      obtain rfl := ht.eq_word hv hw.word hw.right hwv.symm
      exact .inr (.inl ⟨_, _, ht⟩)
    | joined hleads =>
      rw [← hwv] at hleads
      exact .inr (.inr (.ahead hleads))

/-- The word `ab` goes with the sign, the mark and the letter behind it. -/
theorem word_of_screen_mark : screen {} "16#zz + ab+0x1_h".toList = .ok () ∧
    IsNameWord (Text.normalized "16#zz + ab+0x1_h".toList) "16#zz + ".toList "ab".toList
      "+0x1_h".toList ∧
    (isAllowedName "ab".toList ∨ (∃ l b, IsSuffixedWord "ab".toList l b) ∨
      RunsTogether "ab".toList "+0x1_h".toList) := by
  have hscreen : screen {} "16#zz + ab+0x1_h".toList = .ok () :=
    screen_eq_ok.2 ⟨by decide, by decide, by decide, by decide +kernel⟩
  have hword : IsNameWord (Text.normalized "16#zz + ab+0x1_h".toList) "16#zz + ".toList "ab".toList
      "+0x1_h".toList :=
    ⟨by decide, by decide, by decide, by decide, ⟨'a', rfl, by decide⟩, by decide +kernel⟩
  exact ⟨hscreen, hword, word_of_screen hscreen hword⟩

/-- In `pieh` the letters `eh` go as a numeral behind a name. -/
theorem not_word_of_screen_pieh : screen {} "pieh".toList = .ok () ∧
    IsNameWord (Text.normalized "pieh".toList) [] "pieh".toList [] ∧
    ¬ (isAllowedName "pieh".toList ∨ ∃ l b, IsSuffixedWord "pieh".toList l b) := by
  refine ⟨screen_eq_ok.2 ⟨by decide, by decide, by decide, by decide +kernel⟩,
    ⟨by decide, by decide, by decide, by decide, ⟨'p', rfl, by decide⟩, by decide +kernel⟩, ?_⟩
  rintro (hallowed | ⟨l, b, hsuffixed⟩)
  · have hnot : isAllowedName "pieh".toList = false := by decide
    rw [hnot] at hallowed
    cases hallowed
  · have hp : isNumeralChar 'p' := (hsuffixed.figures 'p' List.mem_cons_self).numeral
    have hnot : isNumeralChar 'p' = false := by decide
    rw [hnot] at hp
    cases hp

end Abacus.Expr.Stripping
