import Abacus.Proofs.Expr.Stripping.Tokens

/-!
# Why characters go

A character of a name goes with a numeral behind a character of the same word that goes too, or as
the first one of a numeral with the letter of its base behind it.  Each kind of numerals keeps this
up; for the kinds with a letter behind, it also matters that a zero in front of more of a word
stands for a numeral with a mark.
-/

namespace Abacus.Expr.Stripping

open Numeral (suffixes)
open Text (Pattern isLetter isNameChar isWord)

variable {token : Option Char → Text → Option Nat} {f : Fate} {before : Option Char}
  {prev prev' : Option Cell} {c l : Char} {b : Base} {kind : List Pattern} {p : Part}
  {ps qs us : List Part} {cs ds : List Cell} {s t v : Text}

/-! ## Reasons -/

/-- The text starts with digits of a base that lead up to a mark, and goes on to the letter of the
base where a word ends. -/
inductive LeadsToMark : Text → Prop
  | intro {l c : Char} {b : Base} {q t v : Text} (hsuffix : (l, b) ∈ suffixes) (hne : q ≠ [])
      (hq : ∀ d ∈ q, isRunOf b.val d) (ht : Opens t) (hc : isLetter l c)
      (hv : ∀ d ∈ v.head?, isWord d = false) : LeadsToMark (q ++ t ++ c :: v)

/-- A numeral begins with a character that is no figure: digits of a base and its letter, at the end
of a word, or digits that lead up to a mark. -/
inductive Begins : Text → Prop
  | suffixed {l : Char} {b : Base} {t v : Text} (h : IsSuffixedWord t l b)
      (hv : ∀ c ∈ v.head?, isWord c = false) : Begins (t ++ v)
  | joined {s : Text} (h : LeadsToMark s) : Begins s

/-- The character belongs to a word and goes. -/
def Goes (c : Option Cell) : Prop := ∃ d ∈ c, isWord d.1 ∧ d.2 ≠ .stays

/-- Why a character goes with a numeral, in front of a text. -/
structure Explained (prev : Option Cell) (c : Char) (v : Text) : Prop where
  numeral : isWord c → isNumeralChar c
  name : isNameChar c → Goes prev ∨ Begins (c :: v)

/-- All that goes with numerals is explained, in front of a text. -/
def Accounted : Option Cell → List Cell → Text → Prop
  | _, [], _ => True
  | prev, c :: cs, v =>
      (c.2 = .numeral → Explained prev c.1 (cs.map Prod.fst ++ v)) ∧ Accounted (some c) cs v

theorem accounted_append : Accounted prev (cs ++ ds) v ↔
    Accounted prev cs (ds.map Prod.fst ++ v) ∧ Accounted (cs.getLast?.or prev) ds v := by
  induction cs generalizing prev with
  | nil => simp [Accounted]
  | cons c cs ih =>
    rw [List.cons_append, Accounted, Accounted, ih, and_assoc, List.getLast?_cons, Option.some_or,
      ← Option.or_some, List.map_append, List.append_assoc]

theorem Accounted.mono (h : Accounted prev cs v) (hprev : Goes prev → Goes prev') :
    Accounted prev' cs v := by
  cases cs with
  | nil => trivial
  | cons c cs =>
    refine ⟨fun hc => ⟨(h.1 hc).numeral, fun hname => ?_⟩, h.2⟩
    exact ((h.1 hc).name hname).imp_left hprev

/-! ## Numerals -/

/-- A numeral ends within a word, and all its characters go. -/
def Part.Sealed : Part → Prop
  | .own _ => True
  | .numeral source => Goes source.getLast? ∧ ∀ c ∈ source, c.2 ≠ .stays

/-- A numeral stands for a text that starts with a mark. -/
def Part.Open : Part → Prop
  | .own _ => True
  | .numeral source => Opens (source.map Prod.fst)

/-- Zeros may follow, but no more of a word. -/
def Apart : List Part → Prop
  | [] => True
  | .own c :: _ => isWord c = false
  | .numeral _ :: ps => Apart ps

/-- Every numeral starts with a mark or ends a word. -/
def Settled : List Part → Prop
  | [] => True
  | .own _ :: ps => Settled ps
  | .numeral source :: ps => (Opens (source.map Prod.fst) ∨ Apart ps) ∧ Settled ps

theorem Part.goes_gone (hp : p.Sealed) (hf : f ≠ .stays) (hword : isWord p.shown) :
    Goes (p.gone f).getLast? := by
  cases p with
  | own c => exact ⟨(c, f), rfl, hword, hf⟩
  | numeral source => exact hp.1

theorem goes_gone (hus : ∀ p ∈ us, p.Sealed) (hf : f ≠ .stays) (hlast : EndsInWord (seen us)) :
    Goes (us.flatMap (Part.gone f)).getLast? := by
  rcases List.eq_nil_or_concat us with rfl | ⟨us, p, rfl⟩
  · obtain ⟨c, hc, -⟩ := hlast
    cases hc
  · obtain ⟨c, hc, hword⟩ := hlast
    rw [List.concat_eq_append, seen_append, List.getLast?_append] at hc
    cases hc
    obtain ⟨d, hd, hgoes⟩ := Part.goes_gone (hus p (by simp)) hf hword
    refine ⟨d, ?_, hgoes⟩
    rw [List.concat_eq_append, List.flatMap_append, List.getLast?_append, List.flatMap_singleton,
      hd]
    rfl

/-- Parts may go with a numeral, in front of a text: they end within a word, and if no base is
named, what belongs to words makes part of numerals, and what belongs to names stands behind more of
a word or is where a numeral begins. -/
structure Justified (f : Fate) (us : List Part) (v : Text) : Prop where
  last : EndsInWord (seen us)
  numeral : f = .numeral → ∀ c, .own c ∈ us → isWord c → isNumeralChar c
  name : f = .numeral → ∀ x c y, us = x ++ .own c :: y → isNameChar c →
    (seen x).getLast?.any isWord ∨ Begins (c :: (source y ++ v))

/-- Parts that go with a numeral are accounted for. -/
theorem Accounted.gone (before : Option Char) (hf : f ≠ .stays) (hus : ∀ p ∈ us, p.Sealed)
    (hnumeral : f = .numeral → ∀ c, .own c ∈ us → isWord c → isNumeralChar c)
    (hname : f = .numeral → ∀ x c y, us = x ++ .own c :: y → isNameChar c →
      ((seen x).getLast?.or before).any isWord ∨ Begins (c :: (source y ++ v)))
    (hbefore : before.any isWord → Goes prev') (hprev : Goes prev → Goes prev')
    (h : Accounted prev (us.flatMap Part.cells) v) :
    Accounted prev' (us.flatMap (Part.gone f)) v := by
  induction us generalizing before prev prev' with
  | nil => trivial
  | cons p us ih =>
    obtain ⟨hp, hus⟩ := List.forall_mem_cons.1 hus
    rw [List.flatMap_cons, accounted_append] at h ⊢
    rw [map_fst_gone]
    constructor
    · cases p with
      | own c =>
        refine ⟨fun hc => ⟨hnumeral hc c List.mem_cons_self, fun hn => ?_⟩, trivial⟩
        exact (hname hc [] c us rfl hn).imp_left hbefore
      | numeral source => exact h.1.mono hprev
    · have hnumeral' : f = .numeral → ∀ c, .own c ∈ us → isWord c → isNumeralChar c :=
        fun hc c hmem => hnumeral hc c (List.mem_cons_of_mem p hmem)
      refine ih (some p.shown) hus hnumeral' (fun hc x c y hx hn => ?_) (fun hword => ?_)
        (fun hgoes => ?_) h.2
      · have hback := hname hc (p :: x) c y (by rw [hx, List.cons_append]) hn
        rwa [seen_cons, List.getLast?_cons, Option.some_or, ← Option.or_some] at hback
      · obtain ⟨d, hd, hgoes⟩ := Part.goes_gone hp hf hword
        exact ⟨d, by rw [hd]; rfl, hgoes⟩
      · cases p with
        | own c =>
          obtain ⟨d, hd, -, hstays⟩ := hgoes
          cases hd
          exact absurd rfl hstays
        | numeral source =>
          obtain ⟨d, hd, hlast⟩ := hp.1
          exact ⟨d, by rw [Part.gone, hd]; rfl, hlast⟩

/-! ## One kind -/

/-- What holds of every token among parts, with the parts behind it. -/
def Tokens (token : Option Char → Text → Option Nat) (ps : List Part)
    (P : List Part → List Part → Prop) : Prop :=
  ∀ xs us ys b, ps = xs ++ us ++ ys → token b (seen us ++ seen ys) = some us.length → P us ys

theorem Tokens.tail {P : List Part → List Part → Prop} (h : Tokens token (us ++ ps) P) :
    Tokens token ps P := by
  intro xs vs ys b hps htoken
  exact h (us ++ xs) vs ys b (by rw [hps, List.append_assoc, List.append_assoc, List.append_assoc])
    htoken

theorem Tokens.cons {P : List Part → List Part → Prop} (h : Tokens token (p :: ps) P) :
    Tokens token ps P := by
  rw [← List.singleton_append] at h
  exact h.tail

theorem Merges.sealed (h : Merges token f before ps qs) (hf : f ≠ .stays)
    (htokens : Tokens token ps fun us ys => Justified f us (source ys))
    (hps : ∀ p ∈ ps, p.Sealed) : ∀ q ∈ qs, q.Sealed := by
  induction h with
  | nil before => exact nofun
  | @keep before p ps qs _ ih =>
    obtain ⟨hp, hps⟩ := List.forall_mem_cons.1 hps
    exact List.forall_mem_cons.2 ⟨hp, ih htokens.cons hps⟩
  | @token before us ps qs _ htoken _ ih =>
    obtain ⟨hus, hps⟩ := List.forall_mem_append.1 hps
    have hlast := (htokens [] us ps _ rfl htoken).last
    refine List.forall_mem_cons.2 ⟨⟨goes_gone hus hf hlast, ?_⟩, ih htokens.tail hps⟩
    intro c hc
    obtain ⟨p, hp, hc⟩ := List.mem_flatMap.1 hc
    cases p with
    | own d =>
      obtain rfl := List.mem_singleton.1 hc
      exact hf
    | numeral source => exact (hus _ hp).2 c hc

theorem Merges.accounted (h : Merges token f before ps qs) (hf : f ≠ .stays)
    (htokens : Tokens token ps fun us ys => Justified f us (source ys))
    (hsealed : ∀ p ∈ ps, p.Sealed) (hprev : Goes prev → Goes prev')
    (haccounted : Accounted prev (ps.flatMap Part.cells) []) :
    Accounted prev' (qs.flatMap Part.cells) [] := by
  induction h generalizing prev prev' with
  | nil before => trivial
  | @keep before p ps qs hmerges ih =>
    have hsource : (qs.flatMap Part.cells).map Prod.fst = _ := hmerges.source_eq
    rw [List.flatMap_cons, accounted_append] at haccounted ⊢
    rw [hsource]
    refine ⟨haccounted.1.mono hprev, ih htokens.cons
      (List.forall_mem_cons.1 hsealed).2 ?_ haccounted.2⟩
    cases p.cells.getLast? with
    | none => exact hprev
    | some d => exact id
  | @token before us ps qs hne htoken hmerges ih =>
    have hsource : (qs.flatMap Part.cells).map Prod.fst = _ := hmerges.source_eq
    obtain ⟨hus, hps⟩ := List.forall_mem_append.1 hsealed
    have hjustified := htokens [] us ps _ rfl htoken
    rw [List.flatMap_append, accounted_append, List.append_nil] at haccounted
    rw [List.flatMap_cons, accounted_append, hsource, List.append_nil]
    constructor
    · refine Accounted.gone none hf hus hjustified.numeral (fun hc x c y hx hn => ?_)
        nofun hprev haccounted.1
      rw [Option.or_none]
      exact hjustified.name hc x c y hx hn
    · obtain ⟨d, hd, hgoes⟩ := goes_gone hus hf hjustified.last
      exact ih htokens.tail hps (fun _ => ⟨d, by rw [Part.cells, hd]; rfl, hgoes⟩) haccounted.2

/-- All numerals are sealed, and all that goes is explained. -/
structure Sound (ps : List Part) : Prop where
  sealed : ∀ p ∈ ps, p.Sealed
  accounted : Accounted none (ps.flatMap Part.cells) []

theorem sound_own (s : Text) : Sound (s.map .own) where
  sealed := by
    intro p hp
    obtain ⟨c, -, rfl⟩ := List.mem_map.1 hp
    trivial
  accounted := by
    generalize (none : Option Cell) = prev
    induction s generalizing prev with
    | nil => trivial
    | cons c s ih => exact ⟨nofun, ih _⟩

theorem Sound.merge (h : Sound ps) (hf : f ≠ .stays)
    (htokens : Tokens (tokenLength? kind) ps fun us ys => Justified f us (source ys)) :
    Sound (merge ps (kind, f)) where
  sealed := (merges_merge ps (kind, f)).sealed hf htokens h.sealed
  accounted := (merges_merge ps (kind, f)).accounted hf htokens h.sealed id h.accounted

/-! ## Kinds with figures in front -/

theorem mem_seen (hc : .own c ∈ ps) : c ∈ seen ps := List.mem_map.2 ⟨_, hc, rfl⟩

theorem FigureFirst.justified (h : FigureFirst (seen us)) (v : Text) : Justified f us v where
  last := h.last
  numeral _ c hc hword := h.numeral c (mem_seen hc) hword
  name _ x c y hx hn := by
    have hled := h.led
    rw [hx, seen_append, seen_cons, led_append] at hled
    have hback := hled.2.1 hn
    rw [Option.or_none] at hback
    exact .inl hback

/-- What holds of the tokens of a kind holds of them among parts. -/
theorem EveryToken.tokens {P : Text → Text → Prop} (h : EveryToken kind P) (ps : List Part) :
    Tokens (tokenLength? kind) ps fun us ys => P (seen us) (seen ys) := by
  intro xs us ys b _ htoken
  exact h b (seen us) (seen ys) (by rw [htoken, length_seen])

theorem Sound.merge_figureFirst (h : Sound ps) (hkind : EveryToken kind fun u _ => FigureFirst u) :
    Sound (Stripping.merge ps (kind, .numeral)) :=
  h.merge (by decide) fun xs us ys b hps htoken =>
    (hkind.tokens ps xs us ys b hps htoken).justified _

theorem Sound.merge_tagged (h : Sound ps) (hkind : EveryToken kind fun u _ => EndsInWord u) :
    Sound (Stripping.merge ps (kind, .tagged)) :=
  h.merge (by decide) fun xs us ys b hps htoken =>
    ⟨hkind.tokens ps xs us ys b hps htoken, nofun, nofun⟩

/-! ## Kinds with a mark -/

theorem Part.eq_own (h : p.shown ≠ '0') : p = .own p.shown := by
  cases p with
  | own c => rfl
  | numeral source => exact absurd rfl h

/-- A letter is no zero for a numeral. -/
theorem Part.eq_own_of_isLetter (hl : l.isAlpha) (h : isLetter l p.shown) : p = .own p.shown := by
  refine Part.eq_own fun hzero => ?_
  rw [hzero] at h
  exact absurd (Numeral.not_isDigit_of_isLetter hl h) (by decide)

theorem source_eq_seen (h : ∀ c ∈ seen ps, c ≠ '0') : source ps = seen ps := by
  induction ps with
  | nil => rfl
  | cons p ps ih =>
    obtain ⟨hp, hps⟩ := List.forall_mem_cons.1 h
    rw [source_cons, seen_cons, ih hps, Part.eq_own hp]
    rfl

theorem mem_source : c ∈ source ps ↔ ∃ p ∈ ps, c ∈ p.cells.map Prod.fst := by
  rw [source, List.map_flatMap, List.mem_flatMap]

/-- Numerals with a mark in front hold characters of numerals, signs and blanks only. -/
theorem chars_source (hown : ∀ d, .own d ∈ ps → isNumeralChar d ∨ isLead d)
    (hopen : ∀ p ∈ ps, p.Open) : ∀ c ∈ source ps, isNumeralChar c ∨ isLead c := by
  intro c hc
  obtain ⟨p, hp, hc⟩ := mem_source.1 hc
  cases p with
  | own d =>
    obtain rfl := List.mem_singleton.1 hc
    exact hown c hp
  | numeral src => exact (hopen _ hp).chars c hc

/-- Parts that show a text with a mark in front stand for one, if all numerals among them do. -/
theorem Opens.source (h : Opens (seen us)) (hus : ∀ p ∈ us, p.Open) : Opens (source us) where
  exists_mark := by
    obtain ⟨σ, l, b, c, t, hseen, hσ, hm, hc⟩ := h.exists_mark
    obtain ⟨xs, _, rfl, rfl, hzero⟩ := List.map_eq_append_iff.1 hseen
    obtain ⟨p, _, rfl, hp, hletter⟩ := List.map_eq_cons_iff.1 hzero
    obtain ⟨q, ys, rfl, rfl, -⟩ := List.map_eq_cons_iff.1 hletter
    have hlead : ∀ d ∈ seen xs, d ≠ '0' := by
      rintro d hd rfl
      exact absurd (hσ '0' hd) (by decide)
    have hq : source (q :: ys) = q.shown :: source ys := by
      rw [Part.eq_own_of_isLetter (Numeral.isAffix_of_mark hm).alpha hc]
      rfl
    rw [source_append, source_eq_seen hlead, source_cons, hq]
    cases p with
    | own d =>
      cases hp
      exact ⟨_, l, b, q.shown, _, rfl, hσ, hm, hc⟩
    | numeral src =>
      -- an earlier numeral takes the place of the zero, with its own mark
      obtain ⟨τ, m, e, d, u, hsrc, hτ, hm', hd⟩ := (hus (.numeral src) (by simp)).exists_mark
      refine ⟨seen xs ++ τ, m, e, d, u ++ q.shown :: source ys, ?_,
        List.forall_mem_append.2 ⟨hσ, hτ⟩, hm', hd⟩
      rw [Part.cells, hsrc]
      simp
  chars := chars_source (fun d hd => h.chars d (mem_seen hd)) hus

theorem Merges.open (h : Merges token f before ps qs)
    (htokens : Tokens token ps fun us _ => Opens (seen us)) (hps : ∀ p ∈ ps, p.Open) :
    ∀ q ∈ qs, q.Open := by
  induction h with
  | nil before => exact nofun
  | @keep before p ps qs _ ih =>
    obtain ⟨hp, hps⟩ := List.forall_mem_cons.1 hps
    exact List.forall_mem_cons.2 ⟨hp, ih htokens.cons hps⟩
  | @token before us ps qs _ htoken _ ih =>
    obtain ⟨hus, hps⟩ := List.forall_mem_append.1 hps
    refine List.forall_mem_cons.2 ⟨?_, ih htokens.tail hps⟩
    rw [Part.Open, map_fst_gone]
    exact (htokens [] us ps _ rfl htoken).source hus

/-! ## Kinds at the end of a word -/

theorem apart_of_head (h : ∀ c ∈ (seen ps).head?, isWord c = false) : Apart ps := by
  cases ps with
  | nil => trivial
  | cons p ps =>
    have hp : isWord p.shown = false := h p.shown rfl
    cases p with
    | own c => exact hp
    | numeral source => cases hp

/-- Tokens at the end of a word leave nothing of a word behind zeros. -/
theorem Merges.apart (h : Merges token f before ps qs)
    (htokens : Tokens token ps fun _ ys => ∀ c ∈ (seen ys).head?, isWord c = false)
    (hps : Apart ps) : Apart qs := by
  induction h with
  | nil before => trivial
  | @keep before p ps qs _ ih =>
    cases p with
    | own c => exact hps
    | numeral source => exact ih htokens.cons hps
  | @token before us ps qs _ htoken _ ih =>
    have hhead := htokens [] us ps _ rfl htoken
    exact ih htokens.tail (apart_of_head hhead)

theorem Settled.tail (h : Settled (us ++ ps)) : Settled ps := by
  induction us with
  | nil => exact h
  | cons p us ih =>
    cases p with
    | own c => exact ih h
    | numeral source => exact ih h.2

theorem settled_of_open (h : ∀ p ∈ ps, p.Open) : Settled ps := by
  induction ps with
  | nil => trivial
  | cons p ps ih =>
    obtain ⟨hp, hps⟩ := List.forall_mem_cons.1 h
    cases p with
    | own c => exact ih hps
    | numeral source => exact ⟨.inl hp, ih hps⟩

theorem Merges.settled (h : Merges token f before ps qs)
    (htokens : Tokens token ps fun _ ys => ∀ c ∈ (seen ys).head?, isWord c = false)
    (hps : Settled ps) : Settled qs := by
  induction h with
  | nil before => trivial
  | @keep before p ps qs hmerges ih =>
    have htail := htokens.cons
    cases p with
    | own c => exact ih htail hps
    | numeral source => exact ⟨hps.1.imp_right (hmerges.apart htail), ih htail hps.2⟩
  | @token before us ps qs _ htoken hmerges ih =>
    have hhead := htokens [] us ps _ rfl htoken
    exact ⟨.inr (hmerges.apart htokens.tail (apart_of_head hhead)), ih htokens.tail hps.tail⟩

theorem not_apart (hps : ∀ d, .own d ∈ ps → isWord d) (hc : isWord c) :
    ¬ Apart (ps ++ .own c :: qs) := by
  induction ps with
  | nil => exact fun h => Bool.false_ne_true (h.symm.trans hc)
  | cons p ps ih =>
    cases p with
    | own d => exact fun h => Bool.false_ne_true (h.symm.trans (hps d List.mem_cons_self))
    | numeral source => exact ih fun d hd => hps d (List.mem_cons_of_mem _ hd)

/-- In front of more of a word a numeral starts with a mark. -/
theorem Settled.open (h : Settled (ps ++ .own c :: qs)) (hps : ∀ d, .own d ∈ ps → isWord d)
    (hc : isWord c) : ∀ p ∈ ps, p.Open := by
  induction ps with
  | nil => exact nofun
  | cons p ps ih =>
    have htail : ∀ d, .own d ∈ ps → isWord d := fun d hd => hps d (List.mem_cons_of_mem p hd)
    cases p with
    | own d => exact List.forall_mem_cons.2 ⟨trivial, ih h htail⟩
    | numeral source =>
      exact List.forall_mem_cons.2 ⟨h.1.resolve_right (not_apart htail hc), ih h.2 htail⟩

theorem head_source (h : ∀ c ∈ (seen ps).head?, isWord c = false) :
    ∀ c ∈ (source ps).head?, isWord c = false := by
  cases ps with
  | nil => exact h
  | cons p ps =>
    cases p with
    | own c => exact h
    | numeral source =>
      have hzero : isWord '0' = false := h '0' rfl
      cases hzero

theorem exists_own_prefix (ps : List Part) : ∃ s : Text,
    ps = s.map .own ∨ ∃ src qs, ps = s.map .own ++ .numeral src :: qs := by
  induction ps with
  | nil => exact ⟨[], .inl rfl⟩
  | cons p ps ih =>
    cases p with
    | own c =>
      obtain ⟨s, rfl | ⟨src, qs, rfl⟩⟩ := ih
      · exact ⟨c :: s, .inl rfl⟩
      · exact ⟨c :: s, .inr ⟨src, qs, rfl⟩⟩
    | numeral src => exact ⟨[], .inr ⟨src, ps, rfl⟩⟩

/-- The letter behind the digits is the text's own. -/
theorem IsSuffixedWord.exists_parts (h : IsSuffixedWord (seen us) l b) : ∃ ps e,
    us = ps ++ [.own e] ∧ ps ≠ [] ∧ (∀ d ∈ seen ps, isRunOf b.val d) ∧ isLetter l e := by
  obtain ⟨q, e, hseen, hne, hq, he⟩ := h.exists_concat
  obtain ⟨ps, _, rfl, rfl, hlast⟩ := List.map_eq_append_iff.1 hseen
  obtain ⟨p, rfl, rfl⟩ := List.map_eq_singleton_iff.1 hlast
  refine ⟨ps, p.shown, ?_, fun hnil => hne (List.map_eq_nil_iff.2 hnil), hq, he⟩
  rw [← Part.eq_own_of_isLetter (Numeral.isAffix_of_suffix h.suffix).alpha he]

/-- Where parts show digits and the letter of their base, a numeral begins with a character of the
text's own. -/
theorem begins_of_suffixed (hus : IsSuffixedWord (seen (.own c :: us)) l b)
    (hsettled : Settled (.own c :: us ++ ps)) (hps : ∀ d ∈ (seen ps).head?, isWord d = false) :
    Begins (c :: (source us ++ source ps)) := by
  obtain ⟨xs, e, hparts, hne, hq, he⟩ := hus.exists_parts
  have hfigures := hus.figures
  rw [hparts, seen_append] at hfigures
  have hown : ∀ d, .own d ∈ xs → Figures d := fun d hd =>
    hfigures d (List.mem_append_left _ (mem_seen hd))
  have hopen : ∀ x ∈ xs, x.Open := by
    rw [hparts, List.append_assoc] at hsettled
    exact hsettled.open (fun d hd => (hown d hd).word)
      (hfigures e (List.mem_append_right _ List.mem_cons_self)).word
  have hsource : c :: (source us ++ source ps) = source xs ++ e :: source ps := by
    have hcons : c :: source us = source xs ++ [e] := by
      have heq := congrArg source hparts
      rwa [source_append, source_cons] at heq
    rw [← List.cons_append, hcons, List.append_assoc, List.singleton_append]
  have hv := head_source hps
  rw [hsource]
  obtain ⟨t, rfl | ⟨src, qs, rfl⟩⟩ := exists_own_prefix xs
  · rw [seen_own] at hq
    have htne : t ≠ [] := fun hnil => hne (List.map_eq_nil_iff.2 hnil)
    rw [source_own, ← List.singleton_append, ← List.append_assoc]
    exact .suffixed ⟨hus.suffix, t, e, rfl, htne, hq, he⟩ hv
  · -- the first numeral among the digits has a mark
    obtain ⟨-, hopen⟩ := List.forall_mem_append.1 hopen
    obtain ⟨hsrc, hqs⟩ := List.forall_mem_cons.1 hopen
    have hmark : Opens (src.map Prod.fst ++ source qs) := by
      refine Opens.append hsrc (chars_source (fun d hd => .inl ?_) hqs)
      exact (hown d (List.mem_append_right _ (List.mem_cons_of_mem _ hd))).numeral
    have htne : t ≠ [] := by
      rintro rfl
      cases hparts
    rw [seen_append, seen_own] at hq
    rw [source_append, source_own, source_cons, Part.cells]
    exact .joined
      (.intro hus.suffix htne (fun d hd => hq d (List.mem_append_left _ hd)) hmark he hv)

/-- Digits and the letter of their base, behind signs and blanks, may go with a numeral. -/
theorem justified_of_suffixed {σ : Text} (hseen : seen us = σ ++ t) (hσ : ∀ d ∈ σ, isLead d)
    (ht : IsSuffixedWord t l b) (hsettled : Settled (us ++ ps))
    (hps : ∀ c ∈ (seen ps).head?, isWord c = false) : Justified f us (source ps) := by
  have hfigures := ht.figures
  obtain ⟨-, q, e, rfl, -⟩ := id ht
  constructor
  case last =>
    refine ⟨e, ?_, (hfigures e (by simp)).word⟩
    rw [hseen, ← List.append_assoc, List.getLast?_concat]
    rfl
  case numeral =>
    intro _ c hc hword
    have hmem := mem_seen hc
    rw [hseen] at hmem
    rcases List.mem_append.1 hmem with hmem | hmem
    · rw [not_isWord_of_isLead (hσ c hmem)] at hword
      cases hword
    · exact (hfigures c hmem).numeral
  case name =>
    rintro _ x c y rfl hn
    have hbegins : seen (.own c :: y) = q ++ [e] → Begins (c :: (source y ++ source ps)) := by
      intro hcore
      rw [← hcore] at ht
      rw [List.append_assoc] at hsettled
      exact begins_of_suffixed ht hsettled.tail hps
    -- the character stands among the signs and blanks, is the first digit, or has one in front
    rw [seen_append] at hseen
    rcases List.append_eq_append_iff.1 hseen with ⟨w, rfl, hcore⟩ | ⟨w, hfront, hcore⟩
    · cases w with
      | nil => exact .inr (hbegins hcore)
      | cons d w =>
        obtain ⟨rfl, -⟩ := List.cons.inj hcore
        have hlead : isWord c = false :=
          not_isWord_of_isLead (hσ c (List.mem_append_right _ List.mem_cons_self))
        rw [isWord_of_isNameChar hn] at hlead
        cases hlead
    · rcases List.eq_nil_or_concat w with rfl | ⟨w, d, rfl⟩
      · exact .inr (hbegins hcore.symm)
      · have hword : isWord d := (hfigures d (by rw [hcore]; simp)).word
        rw [List.concat_eq_append, ← List.append_assoc] at hfront
        rw [hfront, List.getLast?_concat]
        exact .inl hword

theorem settled_merge (hsettled : Settled ps)
    (hkind : EveryToken kind fun _ v => ∀ c ∈ v.head?, isWord c = false) :
    Settled (merge ps (kind, f)) :=
  (merges_merge ps (kind, f)).settled (hkind.tokens ps) hsettled

theorem Sound.merge_suffixed (h : Sound ps) (hsettled : Settled ps) (hm : (l, b) ∈ suffixes) :
    Sound (Stripping.merge ps ([suffixedToken l b.val], .numeral)) ∧
      Settled (Stripping.merge ps ([suffixedToken l b.val], .numeral)) := by
  refine ⟨h.merge (by decide) fun xs us ys before hps htoken => ?_,
    settled_merge hsettled fun before u v hu => (everyToken_suffixed hm before u v hu).2⟩
  obtain ⟨⟨σ, t, hseen, hσ, ht⟩, hys⟩ :=
    (everyToken_suffixed hm).tokens ps xs us ys before hps htoken
  rw [hps, List.append_assoc] at hsettled
  exact justified_of_suffixed hseen hσ ht hsettled.tail hys

theorem Sound.merge_leadingZero (h : Sound ps) (hsettled : Settled ps) :
    Sound (Stripping.merge ps ([leadingZeroToken], .numeral)) ∧
      Settled (Stripping.merge ps ([leadingZeroToken], .numeral)) :=
  ⟨h.merge_figureFirst fun before u v hu => (everyToken_leadingZero before u v hu).1,
    settled_merge hsettled fun before u v hu => (everyToken_leadingZero before u v hu).2⟩

/-! ## All kinds -/

theorem Sound.merge_marked (h : Sound ps) (hopen : ∀ p ∈ ps, p.Open) (hm : (l, b) ∈ Numeral.marks) :
    Sound (Stripping.merge ps ([markedToken l b.val], .numeral)) ∧
      ∀ p ∈ Stripping.merge ps ([markedToken l b.val], .numeral), p.Open := by
  have htokens := (everyToken_marked hm).tokens ps
  refine ⟨h.merge_figureFirst fun before u v hu => (everyToken_marked hm before u v hu).2, ?_⟩
  exact (merges_merge ps _).open (fun xs us ys before hps htoken =>
    (htokens xs us ys before hps htoken).1) hopen

theorem open_own (s : Text) : ∀ p ∈ s.map Part.own, p.Open := by
  intro p hp
  obtain ⟨c, -, rfl⟩ := List.mem_map.1 hp
  trivial

/-- Whatever goes with the numerals of a text is explained. -/
theorem sound_parts (s : Text) : Sound (parts s) := by
  obtain ⟨h₁, hopen₁⟩ :=
    (sound_own s).merge_marked (open_own s) (l := 'x') (b := .sixteen) (by decide)
  obtain ⟨h₂, hopen₂⟩ := h₁.merge_marked hopen₁ (l := 'b') (b := .two) (by decide)
  obtain ⟨h₃, hopen₃⟩ := h₂.merge_marked hopen₂ (l := 'o') (b := .eight) (by decide)
  obtain ⟨h₄, hsettled₄⟩ :=
    h₃.merge_suffixed (settled_of_open hopen₃) (l := 'h') (b := .sixteen) (by decide)
  obtain ⟨h₅, hsettled₅⟩ := h₄.merge_leadingZero hsettled₄
  obtain ⟨h₆, hsettled₆⟩ := h₅.merge_suffixed hsettled₅ (l := 'b') (b := .two) (by decide)
  obtain ⟨h₇, -⟩ := h₆.merge_suffixed hsettled₆ (l := 'o') (b := .eight) (by decide)
  exact ((h₇.merge_tagged everyToken_radixHash).merge_tagged everyToken_baseWord).merge_figureFirst
    everyToken_decimal

end Abacus.Expr.Stripping
