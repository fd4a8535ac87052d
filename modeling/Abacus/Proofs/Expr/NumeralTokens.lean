import Abacus.Expr.NumeralTokens
import Abacus.Proofs.Text.Pattern
import Abacus.Proofs.Text.Replacement

/-!
# Kinds of numerals in a text

A kind of numerals with a character that a text does not have is not found in it.  A parenthesis
stands in no numeral of any kind, so the numerals on its two sides are stripped by themselves.
-/

namespace Abacus

namespace Text

variable {p : Pattern} {c : Char}

/-- What a pattern takes does not depend on what stands on the other side of a separator. -/
theorem Pattern.Separates.length? (hc : p.Separates c) : Text.Separates p.length? c where
  cons b v n h := by
    rw [Pattern.length?, ← List.nil_append (c :: v), Pattern.segments?_append_cons hc,
      Option.map_map, Option.map_eq_some_iff] at h
    obtain ⟨⟨segs, rest⟩, hsegs, hlen⟩ := h
    have hnil := congrArg List.length (Pattern.segments?_append hsegs)
    rw [List.length_append, List.length_nil] at hnil
    have hlen : segs.flatten.length = n + 1 := hlen
    omega
  append b u v _ := by
    rw [Pattern.length?, Pattern.length?, Pattern.segments?_append_cons hc, Option.map_map]
    rfl
  length b u n h := by
    obtain ⟨⟨segs, rest⟩, hsegs, rfl⟩ := Option.map_eq_some_iff.1 h
    rw [← Pattern.segments?_append hsegs, List.length_append]
    exact Nat.le_add_right _ _
  start s := by
    have hword : (some c).any isWord = (none : Option Char).any isWord := hc.word
    rw [Pattern.length?, Pattern.length?, Pattern.segments?_congr p hword]

end Text

namespace Expr

open Text (Pattern)

variable {p : Pattern} {c : Char} {s : Text}

/-! ## Numerals that do not occur -/

theorem stripKind_eq_self
    (h : ∀ u c r, s = u ++ c :: r → p.segments? u.getLast? (c :: r) = none) :
    stripKind s [p] = s := by
  apply Text.replaceTokens_eq_self
  intro u c r hs
  simp [tokenLength?, Pattern.length?, h u c r hs]

/-- A kind with a character that the text does not have. -/
theorem stripKind_of_absent {m : Option Nat} {a : Char → Bool} (hp : .run 1 m a ∈ p)
    (ha : ∀ c ∈ s, a c = false) : stripKind s [p] = s := by
  apply stripKind_eq_self
  intro u c r hs
  refine Pattern.segments?_eq_none hp Nat.one_pos fun d hd => ha d ?_
  rw [hs]
  exact List.mem_append_right u hd

/-! ## Separators -/

/-- What separates all patterns of a kind separates the kind. -/
theorem separates_tokenLength? {kind : List Pattern} (h : ∀ p ∈ kind, p.Separates c) :
    Text.Separates (tokenLength? kind) c where
  cons b v n hn := by
    obtain ⟨p, hp, hn⟩ := List.exists_of_findSome?_eq_some hn
    exact (h p hp).length?.cons b v n hn
  append b u v hu := by
    induction kind with
    | nil => rfl
    | cons p kind ih =>
      obtain ⟨hp, hkind⟩ := List.forall_mem_cons.1 h
      have ih := ih hkind
      rw [tokenLength?] at ih ⊢
      rw [List.findSome?_cons, hp.length?.append b u v hu, ih]
      rfl
  length b u n hn := by
    obtain ⟨p, hp, hn⟩ := List.exists_of_findSome?_eq_some hn
    exact (h p hp).length?.length b u n hn
  start s := by
    induction kind with
    | nil => rfl
    | cons p kind ih =>
      obtain ⟨hp, hkind⟩ := List.forall_mem_cons.1 h
      have ih := ih hkind
      rw [tokenLength?] at ih ⊢
      rw [List.findSome?_cons, hp.length?.start, ih]
      rfl

/-- Parentheses stand in no numeral. -/
theorem stripNumerals_append_cons (hc : c = '(' ∨ c = ')') (u v : Text) :
    stripNumerals (u ++ c :: v) = stripNumerals u ++ c :: stripNumerals v := by
  have hkinds : ∀ kind ∈ numeralTokens, ∀ p ∈ kind, p.Separates c := by
    rcases hc with rfl | rfl <;> decide
  rw [stripNumerals, stripNumerals, stripNumerals]
  generalize numeralTokens = kinds at hkinds
  induction kinds generalizing u v with
  | nil => rfl
  | cons kind kinds ih =>
    obtain ⟨hkind, hkinds⟩ := List.forall_mem_cons.1 hkinds
    rw [List.foldl_cons, List.foldl_cons, List.foldl_cons, stripKind, stripKind, stripKind,
      Text.replaceTokens_append_cons (separates_tokenLength? hkind)]
    exact ih _ _ hkinds

end Expr

end Abacus
