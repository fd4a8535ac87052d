import Abacus.Proofs.Expr.Formula.Basic
import Mathlib.Data.List.Chain

/-!
# Neighbours in a formula

The symbols of a formula need no blanks between them: two words never stand next to each other, and
neither do two operators that could be taken for one.
-/

namespace Abacus.Expr

namespace Symbol

/-- Whether the symbol is written with letters and figures. -/
def isWord : Symbol → Bool
  | .number _ => true
  | .name _ => true
  | _ => false

/-- Whether the symbol is an operator that is no sign. -/
def isTight : Symbol → Bool
  | .operator .mul => true
  | .operator .div => true
  | .operator .pow => true
  | _ => false

/-- Whether a formula may start with the symbol. -/
def starts : Symbol → Bool
  | .number _ => true
  | .name _ => true
  | .opening => true
  | .operator .add => true
  | .operator .sub => true
  | _ => false

/-- Whether a formula may end with the symbol. -/
def ends : Symbol → Bool
  | .number _ => true
  | .name _ => true
  | .closing => true
  | _ => false

theorem isTight_of_starts {s : Symbol} (h : s.starts) : s.isTight = false := by
  cases s with
  | operator op => cases op <;> first | rfl | cases h
  | _ => rfl

theorem isTight_of_ends {s : Symbol} (h : s.ends) : s.isTight = false := by
  cases s with
  | operator op => cases h
  | _ => rfl

@[simp] theorem isWord_sign (negative : Bool) : (sign negative).isWord = false := rfl

@[simp] theorem starts_sign (negative : Bool) : (sign negative).starts = true := by
  cases negative <;> rfl

end Symbol

/-- Whether two symbols may be neighbours. -/
structure Apart (a b : Symbol) : Prop where
  words : a.isWord = true → b.isWord = false
  operators : a.isTight = true → b.isTight = false

theorem apart_of_ends {a b : Symbol} (ha : a.ends) (hb : b.isWord = false) : Apart a b where
  words := fun _ => hb
  operators := fun h => by
    rw [Symbol.isTight_of_ends ha] at h
    cases h

theorem apart_of_starts {a b : Symbol} (ha : a.isWord = false) (hb : b.starts) : Apart a b where
  words := fun h => by
    rw [ha] at h
    cases h
  operators := fun _ => Symbol.isTight_of_starts hb

/-- Symbols that may stand where a formula is expected. -/
structure Phrase (ss : List Symbol) : Prop where
  chain : ss.IsChain Apart
  first : ∃ a, ss.head? = some a ∧ a.starts
  last : ∃ a, ss.getLast? = some a ∧ a.ends

namespace Phrase

variable {l r ss : List Symbol} {s : Symbol}

theorem single (hstarts : s.starts) (hends : s.ends) : Phrase [s] :=
  ⟨.singleton s, ⟨s, rfl, hstarts⟩, ⟨s, rfl, hends⟩⟩

/-- A phrase and what may follow it. -/
theorem chain_append (h : Phrase l) (hr : r.IsChain Apart)
    (hword : ∀ b ∈ r.head?, b.isWord = false) : (l ++ r).IsChain Apart := by
  refine h.chain.append hr ?_
  intro a ha b hb
  obtain ⟨c, hc, hends⟩ := h.last
  rw [hc] at ha
  cases ha
  exact apart_of_ends hends (hword b hb)

/-- A mark in front of a phrase and of what follows it. -/
theorem chain_cons (h : Phrase l) (hs : s.isWord = false) (hr : (l ++ r).IsChain Apart) :
    (s :: (l ++ r)).IsChain Apart := by
  rw [List.isChain_cons]
  refine ⟨?_, hr⟩
  intro b hb
  obtain ⟨a, ha, hstarts⟩ := h.first
  rw [List.head?_append, ha] at hb
  cases hb
  exact apart_of_starts hs hstarts

theorem cons (h : Phrase ss) (hword : s.isWord = false) (hstarts : s.starts) :
    Phrase (s :: ss) where
  chain := by
    rw [← List.append_nil ss]
    exact h.chain_cons hword (by simpa using h.chain)
  first := ⟨s, rfl, hstarts⟩
  last := by
    obtain ⟨a, ha, hends⟩ := h.last
    exact ⟨a, by simp [List.getLast?_cons, ha], hends⟩

/-- Two phrases with a mark between them. -/
theorem link (hl : Phrase l) (hs : s.isWord = false) (hr : Phrase r) : Phrase (l ++ s :: r) where
  chain := by
    rw [← List.append_nil r]
    refine hl.chain_append (hr.chain_cons hs (by simpa using hr.chain)) ?_
    intro b hb
    cases hb
    exact hs
  first := by
    obtain ⟨a, ha, hstarts⟩ := hl.first
    exact ⟨a, by simp [List.head?_append, ha], hstarts⟩
  last := by
    obtain ⟨a, ha, hends⟩ := hr.last
    exact ⟨a, by simp [List.getLast?_append, List.getLast?_cons, ha], hends⟩

theorem enclosed (h : Phrase ss) (needed : Bool) : Phrase (enclosed needed ss) := by
  cases needed with
  | false => exact h
  | true =>
    have hchain : (ss ++ [Symbol.closing]).IsChain Apart := by
      refine h.chain_append (.singleton _) ?_
      intro b hb
      cases hb
      rfl
    refine ⟨h.chain_cons rfl hchain, ⟨.opening, rfl, rfl⟩, ⟨.closing, ?_, rfl⟩⟩
    simp [Expr.enclosed, List.getLast?_cons, List.getLast?_append]

end Phrase

namespace Formula

/-- What follows an argument of a call. -/
theorem chain_furtherSymbols {fs : List Formula} (h : ∀ f ∈ fs, Phrase f.symbols) :
    (furtherSymbols fs).IsChain Apart ∧ (∀ b ∈ (furtherSymbols fs).head?, b.isWord = false) ∧
      (furtherSymbols fs).getLast? = some .closing := by
  induction fs with
  | nil =>
    refine ⟨.singleton _, ?_, rfl⟩
    intro b hb
    cases hb
    rfl
  | cons f fs ih =>
    obtain ⟨hchain, hword, hlast⟩ := ih fun g hg => h g (List.mem_cons_of_mem f hg)
    have hf : Phrase f.symbols := h f List.mem_cons_self
    refine ⟨hf.chain_cons rfl (hf.chain_append hchain hword), ?_, ?_⟩
    · intro b hb
      cases hb
      rfl
    · simp [furtherSymbols, List.getLast?_cons, List.getLast?_append, hlast]

/-- The arguments of a call behind the opening parenthesis. -/
theorem chain_argumentSymbols {fs : List Formula} (h : ∀ f ∈ fs, Phrase f.symbols) :
    (.opening :: argumentSymbols fs).IsChain Apart ∧
      (argumentSymbols fs).getLast? = some .closing := by
  cases fs with
  | nil => exact ⟨.cons_cons ⟨nofun, nofun⟩ (.singleton _), rfl⟩
  | cons f fs =>
    obtain ⟨hchain, hword, hlast⟩ :=
      chain_furtherSymbols fun g hg => h g (List.mem_cons_of_mem f hg)
    have hf : Phrase f.symbols := h f List.mem_cons_self
    refine ⟨hf.chain_cons rfl (hf.chain_append hchain hword), ?_⟩
    simp [argumentSymbols, List.getLast?_append, hlast]

/-- The symbols of a formula are a phrase. -/
theorem phrase (f : Formula) : Phrase f.symbols := by
  induction f using induction with
  | number n => exact .single rfl rfl
  | constant c => exact .single rfl rfl
  | signed negative f ih => exact (ih.enclosed _).cons (Symbol.isWord_sign _) (Symbol.starts_sign _)
  | binary op l r ihl ihr => exact (ihl.enclosed _).link rfl (ihr.enclosed _)
  | call f args ih =>
    obtain ⟨hchain, hlast⟩ := chain_argumentSymbols ih
    refine ⟨?_, ⟨.name f.name, rfl, rfl⟩, ⟨.closing, ?_, rfl⟩⟩
    · exact .cons_cons ⟨fun _ => rfl, nofun⟩ hchain
    · simp [symbols, List.getLast?_cons, hlast]

end Formula

end Abacus.Expr
