import Abacus.Proofs.Text.Ascii
import Abacus.Text.Pattern
import Mathlib.Data.List.TakeWhile

/-!
# What patterns take

A run takes a prefix of its class as a whole if what follows is not of the class, or if the run is
at its limit.  A pattern that takes anything finds a character for each of its runs that must not be
empty; a text without such a character is not taken.
-/

namespace Abacus.Text

/-! ## Spans -/

@[simp] theorem spanWithin_zero (p : Char → Bool) (s : Text) :
    spanWithin p (some 0) s = ([], s) := by
  cases s <;> simp [spanWithin]

/-- A run takes a prefix of its class that ends at its limit or before a character outside. -/
theorem spanWithin_append_eq {p : Char → Bool} {limit : Option Nat} {u v : Text}
    (hu : ∀ c ∈ u, p c) (hlimit : ∀ n, limit = some n → u.length ≤ n)
    (hv : (∀ c, v.head? = some c → p c = false) ∨ limit = some u.length) :
    spanWithin p limit (u ++ v) = (u, v) := by
  induction u generalizing limit with
  | nil =>
    rcases hv with hv | rfl
    · cases v with
      | nil => rfl
      | cons c r => simp [spanWithin, hv c rfl]
    · exact spanWithin_zero p v
  | cons c u ih =>
    have hc : p c := hu c List.mem_cons_self
    have hpos : (limit != some 0) = true := by
      cases limit with
      | none => rfl
      | some n =>
        have := hlimit n rfl
        simp only [List.length_cons] at this
        simp only [bne_iff_ne, ne_eq, Option.some.injEq]
        omega
    have hrest : spanWithin p (limit.map (· - 1)) (u ++ v) = (u, v) := by
      refine ih (fun d hd => hu d (List.mem_cons_of_mem c hd)) ?_ ?_
      · rintro n hn
        obtain ⟨k, rfl, rfl⟩ := Option.map_eq_some_iff.1 hn
        have := hlimit k rfl
        simp only [List.length_cons] at this
        omega
      · exact hv.imp_right fun h => by simp [h]
    rw [List.cons_append, spanWithin, hpos, hc, hrest]
    rfl

/-- A run keeps to its limit. -/
theorem spanWithin_length_le (p : Char → Bool) (limit : Option Nat) (s : Text) :
    ∀ n, limit = some n → (spanWithin p limit s).1.length ≤ n := by
  induction s generalizing limit with
  | nil => simp [spanWithin]
  | cons c r ih =>
    rintro n rfl
    unfold spanWithin
    split
    · rename_i h
      have hpos : n ≠ 0 := by
        rintro rfl
        simp at h
      have hrest := ih (some (n - 1)) (n - 1) rfl
      simp only [Option.map_some, List.length_cons]
      omega
    · simp

/-- A run without a limit ends before a character outside its class. -/
theorem spanWithin_head {p : Char → Bool} {s : Text} :
    ∀ c ∈ (spanWithin p none s).2.head?, p c = false := by
  induction s with
  | nil => nofun
  | cons d r ih =>
    rw [spanWithin]
    split
    · exact ih
    · rename_i h
      rintro c ⟨⟩
      simpa using h

/-- Whether a piece can take a character. -/
def Piece.takes : Piece → Char → Bool
  | .boundary, _ => false
  | .run _ _ admits, c => admits c

namespace Pattern

/-- The pattern takes the text up to its end, segment by segment. -/
def Takes (p : Pattern) (before : Option Char) (segs : List Text) (s : Text) : Prop :=
  segments? p before s = some (segs, [])

theorem whole?_eq_some {p : Pattern} {s : Text} {segs : List Text} :
    p.whole? s = some segs ↔ Takes p none segs s := by
  rw [whole?, Takes]
  split
  · rename_i h
    simp [h]
  · rename_i h
    constructor
    · nofun
    · exact fun htakes => absurd htakes (h segs)

@[simp] theorem takes_nil {before : Option Char} {segs : List Text} {s : Text} :
    Takes [] before segs s ↔ segs = [] ∧ s = [] := by
  simp [Takes, segments?, eq_comm]

section

variable {p : Pattern} {admits : Char → Bool} {least : Nat} {most : Option Nat}
  {before : Option Char} {u v s : Text} {segs : List Text} {c : Char}

/-- A run in front of a pattern takes its prefix of a text. -/
theorem segments?_run_append (hu : ∀ c ∈ u, admits c) (hleast : least ≤ u.length)
    (hmost : ∀ n, most = some n → u.length ≤ n)
    (hv : (∀ c, v.head? = some c → admits c = false) ∨ most = some u.length) :
    segments? (.run least most admits :: p) before (u ++ v) =
      (segments? p (u.getLast?.or before) v).map fun r => (u :: r.1, r.2) := by
  simp only [segments?, spanWithin_append_eq hu hmost hv]
  rw [if_neg (Nat.not_lt.2 hleast)]

/-- A run at the front of a pattern takes its prefix. -/
theorem Takes.run (h : Takes p (u.getLast?.or before) segs v) (hu : ∀ c ∈ u, admits c)
    (hleast : least ≤ u.length) (hmost : ∀ n, most = some n → u.length ≤ n)
    (hv : (∀ c, v.head? = some c → admits c = false) ∨ most = some u.length) :
    Takes (.run least most admits :: p) before (u :: segs) (u ++ v) := by
  rw [Takes] at h ⊢
  rw [segments?_run_append hu hleast hmost hv, h]
  rfl

theorem Takes.one (h : Takes p (some c) segs v) (hc : admits c) :
    Takes (.one admits :: p) before ([c] :: segs) (c :: v) :=
  Takes.run (u := [c]) h (by simpa using hc) (by simp) (by simp) (.inr rfl)

theorem Takes.exactly (h : Takes p (some c) segs v) :
    Takes (.exactly c :: p) before ([c] :: segs) (c :: v) :=
  h.one (by simp)

/-- A run in front of a pattern has taken a prefix of its class within its limits. -/
theorem Takes.exists_run (h : Takes (.run least most admits :: p) before segs s) :
    ∃ u v segs', segs = u :: segs' ∧ s = u ++ v ∧ least ≤ u.length ∧
      (∀ n, most = some n → u.length ≤ n) ∧ (∀ c ∈ u, admits c) ∧
      Takes p (u.getLast?.or before) segs' v := by
  simp only [Takes, segments?] at h
  split at h
  · cases h
  · rename_i hlen
    obtain ⟨⟨segs', rest⟩, h', hr⟩ := Option.map_eq_some_iff.1 h
    cases hr
    exact ⟨_, _, segs', rfl, (spanWithin_append admits most s).symm, Nat.le_of_not_lt hlen,
      spanWithin_length_le admits most s, spanWithin_all admits most s, h'⟩

theorem Takes.exists_one (h : Takes (.one admits :: p) before segs s) :
    ∃ c v segs', segs = [c] :: segs' ∧ s = c :: v ∧ admits c ∧ Takes p (some c) segs' v := by
  obtain ⟨u, v, segs', rfl, rfl, hleast, hmost, hu, h'⟩ := h.exists_run
  obtain ⟨c, rfl⟩ := List.length_eq_one_iff.1 (Nat.le_antisymm (hmost 1 rfl) hleast)
  exact ⟨c, v, segs', rfl, rfl, hu c (List.mem_singleton_self c), h'⟩

theorem Takes.exists_exactly (h : Takes (.exactly c :: p) before segs s) :
    ∃ v segs', segs = [c] :: segs' ∧ s = c :: v ∧ Takes p (some c) segs' v := by
  obtain ⟨d, v, segs', rfl, rfl, hd, h'⟩ := h.exists_one
  obtain rfl : d = c := by simpa using hd
  exact ⟨v, segs', rfl, rfl, h'⟩

/-- A run at the end of a pattern takes what is left. -/
theorem Takes.exists_last (h : Takes [.run least most admits] before segs s) :
    segs = [s] ∧ least ≤ s.length ∧ ∀ c ∈ s, admits c := by
  obtain ⟨u, v, segs', rfl, rfl, hleast, -, hu, h'⟩ := h.exists_run
  obtain ⟨rfl, rfl⟩ := takes_nil.1 h'
  rw [List.append_nil]
  exact ⟨rfl, hleast, hu⟩

end

/-- The pattern takes the text up to its end. -/
def Covers (p : Pattern) (before : Option Char) (s : Text) : Prop :=
  ∃ segs, segments? p before s = some (segs, [])

@[simp] theorem covers_nil {before : Option Char} : Covers [] before [] := ⟨[], rfl⟩

theorem fits_of_covers {p : Pattern} {s : Text} (h : Covers p none s) : p.fits s := by
  obtain ⟨segs, h⟩ := h
  simp [fits, whole?, h]

theorem covers_of_fits {p : Pattern} {s : Text} (h : p.fits s) : Covers p none s := by
  obtain ⟨segs, hsegs⟩ := Option.isSome_iff_exists.1 h
  exact ⟨segs, whole?_eq_some.1 hsegs⟩

theorem Covers.length? {p : Pattern} {before : Option Char} {s : Text} (h : Covers p before s) :
    p.length? before s = some s.length := by
  obtain ⟨segs, h⟩ := h
  have happend := segments?_append h
  rw [List.append_nil] at happend
  rw [Pattern.length?, h, Option.map_some, happend]

/-- A run at the front of a pattern takes its prefix. -/
theorem Covers.run {p : Pattern} {admits : Char → Bool} {least : Nat} {most : Option Nat}
    {before : Option Char} {u v : Text} (h : Covers p (u.getLast?.or before) v)
    (hu : ∀ c ∈ u, admits c) (hleast : least ≤ u.length)
    (hmost : ∀ n, most = some n → u.length ≤ n)
    (hv : (∀ c, v.head? = some c → admits c = false) ∨ most = some u.length) :
    Covers (.run least most admits :: p) before (u ++ v) := by
  obtain ⟨segs, h⟩ := h
  exact ⟨u :: segs, Takes.run h hu hleast hmost hv⟩

/-- Without a bound a run goes as far as its class does. -/
theorem Covers.unbounded {p : Pattern} {admits : Char → Bool} {least : Nat} {before : Option Char}
    {u v : Text} (h : Covers p (u.getLast?.or before) v) (hu : ∀ c ∈ u, admits c)
    (hleast : least ≤ u.length) (hv : ∀ c ∈ v.head?, admits c = false) :
    Covers (.run least none admits :: p) before (u ++ v) :=
  h.run hu hleast (by simp) (.inl hv)

theorem Covers.one {p : Pattern} {admits : Char → Bool} {before : Option Char} {c : Char} {v : Text}
    (h : Covers p (some c) v) (hc : admits c) : Covers (.one admits :: p) before (c :: v) :=
  Covers.run (u := [c]) h (by simpa using hc) (by simp) (by simp) (.inr rfl)

theorem Covers.exactly {p : Pattern} {before : Option Char} {c : Char} {v : Text}
    (h : Covers p (some c) v) : Covers (.exactly c :: p) before (c :: v) :=
  h.one (by simp)

/-- A run of any length that takes nothing. -/
theorem Covers.skip {p : Pattern} {admits : Char → Bool} {most : Option Nat}
    {before : Option Char} {v : Text} (h : Covers p before v)
    (hv : ∀ c, v.head? = some c → admits c = false) :
    Covers (.run 0 most admits :: p) before v :=
  Covers.run (u := []) h (by simp) (by simp) (by simp) (.inl hv)

theorem covers_boundary_cons {p : Pattern} {before : Option Char} {s : Text} :
    Covers (.boundary :: p) before s ↔ isBoundary before s.head? ∧ Covers p before s := by
  by_cases h : isBoundary before s.head? <;> simp [Covers, segments?, h]

/-- A run takes its span, and the rest of the pattern takes the rest of the text. -/
theorem covers_run_cons {p : Pattern} {least : Nat} {most : Option Nat} {admits : Char → Bool}
    {before : Option Char} {s : Text} : Covers (.run least most admits :: p) before s ↔
      least ≤ (spanWithin admits most s).1.length ∧
        Covers p ((spanWithin admits most s).1.getLast?.or before)
          (spanWithin admits most s).2 := by
  by_cases h : (spanWithin admits most s).1.length < least
  · simp [Covers, segments?, h, Nat.not_le.2 h]
  · rw [Nat.not_lt] at h
    simp only [Covers, segments?, Nat.not_lt.2 h, if_false, h, true_and, Option.map_eq_some_iff]
    constructor
    · rintro ⟨_, ⟨segs, _⟩, hsegs, heq⟩
      cases heq
      exact ⟨segs, hsegs⟩
    · rintro ⟨segs, hsegs⟩
      exact ⟨_, _, hsegs, rfl⟩

/-! ## What has been taken -/

theorem segments?_boundary_eq_some {p : Pattern} {before : Option Char} {s : Text}
    {r : List Text × Text} : segments? (.boundary :: p) before s = some r ↔
      isBoundary before s.head? ∧ segments? p before s = some r := by
  by_cases h : isBoundary before s.head? <;> simp [segments?, h]

/-- A run in front of a pattern has taken a prefix of its class. -/
theorem segments?_run_eq_some {p : Pattern} {least : Nat} {most : Option Nat}
    {admits : Char → Bool} {before : Option Char} {s : Text} {r : List Text × Text}
    (h : segments? (.run least most admits :: p) before s = some r) :
    ∃ u v r', s = u ++ v ∧ least ≤ u.length ∧ (∀ c ∈ u, admits c) ∧
      segments? p (u.getLast?.or before) v = some r' ∧ r = (u :: r'.1, r'.2) := by
  simp only [segments?] at h
  split at h
  · cases h
  · rename_i hlen
    obtain ⟨r', h', hr⟩ := Option.map_eq_some_iff.1 h
    refine ⟨_, _, r', (spanWithin_append admits most s).symm, ?_, ?_, h', hr.symm⟩
    · exact Nat.le_of_not_lt hlen
    · exact spanWithin_all admits most s

/-- A run at the end of a pattern leaves no character of its class in front of the rest. -/
theorem segments?_last_eq_some {admits : Char → Bool} {least : Nat} {before : Option Char}
    {s : Text} {r : List Text × Text} (h : segments? [.run least none admits] before s = some r) :
    ∃ v, s = v ++ r.2 ∧ least ≤ v.length ∧ (∀ c ∈ v, admits c) ∧
      ∀ c ∈ r.2.head?, admits c = false := by
  simp only [segments?] at h
  split at h
  · cases h
  · rename_i hlen
    cases h
    exact ⟨_, (spanWithin_append admits none s).symm, Nat.le_of_not_lt hlen,
      spanWithin_all admits none s, spanWithin_head⟩

/-- A text that a pattern takes has a character for each run that must not be empty. -/
theorem exists_mem_of_segments? {p : Pattern} {before : Option Char} {s : Text}
    {r : List Text × Text} (h : segments? p before s = some r) {least : Nat} {most : Option Nat}
    {admits : Char → Bool} (hp : .run least most admits ∈ p) (hleast : 0 < least) :
    ∃ c ∈ s, admits c := by
  induction p generalizing before s r with
  | nil => cases hp
  | cons q qs ih =>
    cases q with
    | boundary => exact ih (segments?_boundary_eq_some.1 h).2 (by simpa using hp)
    | run least' most' admits' =>
      obtain ⟨u, v, r', rfl, hlen, hu, h', -⟩ := segments?_run_eq_some h
      rcases List.mem_cons.1 hp with heq | hp
      · -- the run itself: it has taken a character, and takes only its own class
        cases heq
        obtain ⟨c, hc⟩ := List.exists_mem_of_length_pos (Nat.lt_of_lt_of_le hleast hlen)
        exact ⟨c, List.mem_append_left v hc, hu c hc⟩
      · obtain ⟨c, hc, hadm⟩ := ih h' hp
        exact ⟨c, List.mem_append_right u hc, hadm⟩

/-- A text without a character for one of the runs that must not be empty is not taken. -/
theorem segments?_eq_none {p : Pattern} {before : Option Char} {s : Text} {least : Nat}
    {most : Option Nat} {admits : Char → Bool} (hp : .run least most admits ∈ p)
    (hleast : 0 < least) (hs : ∀ c ∈ s, admits c = false) : segments? p before s = none := by
  rw [Option.eq_none_iff_forall_ne_some]
  intro r hr
  obtain ⟨c, hc, hadm⟩ := exists_mem_of_segments? hr hp hleast
  simp [hs c hc] at hadm

/-- What a pattern takes is made of characters that its pieces admit. -/
theorem forall_of_segments? {p : Pattern} {before : Option Char} {s : Text} {r : List Text × Text}
    (h : segments? p before s = some r) {q : Char → Prop}
    (hp : ∀ piece ∈ p, ∀ c ∈ s, piece.takes c → q c) : ∀ c ∈ r.1.flatten, q c := by
  induction p generalizing before s r with
  | nil =>
    cases h
    exact fun _ h => absurd h List.not_mem_nil
  | cons piece ps ih =>
    have hps : ∀ piece ∈ ps, ∀ c ∈ s, piece.takes c → q c := fun piece hpiece =>
      hp piece (List.mem_cons_of_mem _ hpiece)
    cases piece with
    | boundary => exact ih (segments?_boundary_eq_some.1 h).2 hps
    | run least most admits =>
      obtain ⟨u, v, r', rfl, -, hu, h', rfl⟩ := segments?_run_eq_some h
      intro c hc
      rcases List.mem_append.1 hc with hc | hc
      · exact hp _ List.mem_cons_self c (List.mem_append_left v hc) (hu c hc)
      · exact ih h' (fun piece hpiece d hd => hps piece hpiece d (List.mem_append_right u hd)) c hc

/-- Two runs that must not be empty and follow each other take neighbours in the text. -/
theorem exists_neighbours_of_segments? {p q : Pattern} {before : Option Char} {s : Text}
    {r : List Text × Text} {m m' : Option Nat} {a b : Char → Bool}
    (h : segments? (p ++ .run 1 m a :: .run 1 m' b :: q) before s = some r) :
    ∃ u c d v, s = u ++ c :: d :: v ∧ a c ∧ b d := by
  induction p generalizing before s r with
  | nil =>
    obtain ⟨u, w, r', rfl, hu, ha, h', -⟩ := segments?_run_eq_some h
    obtain ⟨v, x, -, rfl, hv, hb, -, -⟩ := segments?_run_eq_some h'
    -- the last character of the first run and the first one of the second
    obtain ⟨u, c, rfl⟩ := (List.eq_nil_or_concat u).resolve_left (List.ne_nil_of_length_pos hu)
    obtain ⟨d, v, rfl⟩ := List.exists_cons_of_ne_nil (List.ne_nil_of_length_pos hv)
    refine ⟨u, c, d, v ++ x, ?_, ?_, ?_⟩
    · simp
    · exact ha c (by simp)
    · exact hb d List.mem_cons_self
  | cons piece ps ih =>
    cases piece with
    | boundary => exact ih (segments?_boundary_eq_some.1 h).2
    | run least most admits =>
      obtain ⟨w, x, r', rfl, -, -, h', -⟩ := segments?_run_eq_some h
      obtain ⟨u, c, d, v, rfl, hc, hd⟩ := ih h'
      exact ⟨w ++ u, c, d, v, (List.append_assoc _ _ _).symm, hc, hd⟩

theorem segments?_one_cons (p : Pattern) (admits : Char → Bool) (before : Option Char) (c : Char)
    (s : Text) : segments? (.one admits :: p) before (c :: s) =
      if admits c then (segments? p (some c) s).map fun r => ([c] :: r.1, r.2) else none := by
  by_cases h : admits c <;> simp [segments?, Piece.one, spanWithin, h]

theorem segments?_one_eq_some {p : Pattern} {admits : Char → Bool} {before : Option Char}
    {s : Text} {r : List Text × Text} (h : segments? (.one admits :: p) before s = some r) :
    ∃ c v r', s = c :: v ∧ admits c ∧ segments? p (some c) v = some r' ∧
      r = ([c] :: r'.1, r'.2) := by
  cases s with
  | nil => cases h
  | cons c v =>
    rw [segments?_one_cons] at h
    split at h
    · rename_i hc
      obtain ⟨r', hr', rfl⟩ := Option.map_eq_some_iff.1 h
      exact ⟨c, v, r', rfl, hc, hr', rfl⟩
    · cases h

/-- A run that must not be empty needs a first character. -/
theorem segments?_run_eq_none {p : Pattern} {least : Nat} {most : Option Nat}
    {admits : Char → Bool} {before : Option Char} {s : Text} (hleast : 0 < least)
    (h : ∀ c ∈ s.head?, admits c = false) :
    segments? (.run least most admits :: p) before s = none := by
  have hspan : spanWithin admits most s = ([], s) := by
    cases s with
    | nil => rfl
    | cons c r => simp [spanWithin, h c rfl]
  simp only [segments?, hspan, List.length_nil]
  rw [if_pos hleast]

theorem whole?_eq_none {p : Pattern} {s : Text} {least : Nat} {most : Option Nat}
    {admits : Char → Bool} (hp : .run least most admits ∈ p) (hleast : 0 < least)
    (hs : ∀ c ∈ s, admits c = false) : whole? p s = none := by
  rw [whole?, segments?_eq_none hp hleast hs]

/-! ## Separators -/

/-- A character that no piece takes, at which words begin and end. -/
structure Separates (p : Pattern) (c : Char) : Prop where
  takes : ∀ piece ∈ p, piece.takes c = false
  word : isWord c = false

instance (p : Pattern) (c : Char) : Decidable (Separates p c) :=
  decidable_of_iff ((∀ piece ∈ p, piece.takes c = false) ∧ isWord c = false)
    ⟨fun h => ⟨h.1, h.2⟩, fun h => ⟨h.1, h.2⟩⟩

theorem Separates.tail {piece : Piece} {p : Pattern} {c : Char} (h : Separates (piece :: p) c) :
    Separates p c :=
  ⟨fun q hq => h.takes q (List.mem_cons_of_mem piece hq), h.word⟩

theorem spanWithin_append_cons {admits : Char → Bool} {c : Char} (hc : admits c = false)
    (limit : Option Nat) (u v : Text) : spanWithin admits limit (u ++ c :: v) =
      ((spanWithin admits limit u).1, (spanWithin admits limit u).2 ++ c :: v) := by
  induction u generalizing limit with
  | nil => simp [spanWithin, hc]
  | cons d u ih =>
    rw [List.cons_append, spanWithin, spanWithin, ih]
    split <;> rfl

/-- A pattern takes the same in front of a separator and at the end of a text. -/
theorem segments?_append_cons {p : Pattern} {c : Char} (hc : Separates p c) (before : Option Char)
    (u v : Text) : segments? p before (u ++ c :: v) =
      (segments? p before u).map fun r => (r.1, r.2 ++ c :: v) := by
  induction p generalizing before u with
  | nil => rfl
  | cons piece p ih =>
    cases piece with
    | boundary =>
      have hboundary : isBoundary before (u ++ c :: v).head? = isBoundary before u.head? := by
        cases u with
        | nil => simp [isBoundary, hc.word]
        | cons d u => rfl
      rw [segments?, segments?, hboundary, ih hc.tail]
      split <;> rfl
    | run least most admits =>
      have hadmits : admits c = false := hc.takes _ List.mem_cons_self
      simp only [segments?, spanWithin_append_cons hadmits, ih hc.tail]
      split
      · rfl
      · rw [Option.map_map, Option.map_map]
        rfl

/-- Of the character in front it only matters whether it belongs to a word. -/
theorem segments?_congr (p : Pattern) {before before' : Option Char}
    (h : before.any isWord = before'.any isWord) (s : Text) :
    segments? p before s = segments? p before' s := by
  induction p generalizing before before' s with
  | nil => rfl
  | cons piece p ih =>
    cases piece with
    | boundary => rw [segments?, segments?, isBoundary, isBoundary, h, ih h]
    | run least most admits =>
      have hlast : ((spanWithin admits most s).1.getLast?.or before).any isWord =
          ((spanWithin admits most s).1.getLast?.or before').any isWord := by
        cases (spanWithin admits most s).1.getLast? with
        | none => exact h
        | some d => rfl
      simp only [segments?, ih hlast]

end Pattern

end Abacus.Text
