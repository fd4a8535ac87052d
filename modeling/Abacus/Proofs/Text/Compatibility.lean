import Abacus.Proofs.Text.Composition
import Abacus.Proofs.Text.Tables

/-!
# Compatibility forms around ASCII characters

An ASCII character stays as it is, keeps the marks on its two sides apart and composes with nothing
in front of it; most ASCII characters that are no letters compose with nothing behind them either.
At such a character the compatibility form of a text falls into two.
-/

namespace Abacus.Text

namespace Compatibility

variable {n : Nat}

theorem decompose_of_lt (h : n < 128) : decompose n = [n] := if_pos h

theorem combiningClass_of_lt (h : n < 128) : combiningClass n = 0 := if_pos h

/-! ## Order -/

theorem place_append (hn : combiningClass n = 0) (m : Nat) (xs ys : List Nat) :
    place m (xs ++ n :: ys) = place m xs ++ n :: ys := by
  induction xs with
  | nil => exact if_neg (by omega)
  | cons x xs ih =>
    rw [List.cons_append, place, place, ih]
    split <;> rfl

/-- Marks do not pass a starter. -/
theorem ordered_append (hn : combiningClass n = 0) (xs ys : List Nat) :
    ordered (xs ++ n :: ys) = ordered xs ++ n :: ordered ys := by
  induction xs with
  | nil =>
    change place n (ordered ys) = n :: ordered ys
    cases ordered ys with
    | nil => rfl
    | cons m ms => rw [place, if_neg (by omega)]
  | cons x xs ih =>
    change place x (ordered (xs ++ n :: ys)) = place x (ordered xs) ++ n :: ordered ys
    rw [ih, place_append hn]

/-! ## Composition -/

/-- Whether a mark stands between a starter and what follows it. -/
def isBlocked (marks : List Nat) (n : Nat) : Bool :=
  marks.head?.any fun m => decide (combiningClass n ≤ combiningClass m)

theorem composeFrom_cons (starter : Nat) (marks : List Nat) (n : Nat) (ns : List Nat) :
    composeFrom starter marks (n :: ns) =
      match if isBlocked marks n then none else composePair? starter n with
      | some c => composeFrom c marks ns
      | none =>
          if combiningClass n = 0 then starter :: (marks.reverse ++ composeFrom n [] ns)
          else composeFrom starter (n :: marks) ns := by
  cases marks <;> rfl

/-- Composition starts anew at an ASCII character. -/
theorem composeFrom_append (hn : n < 128) (starter : Nat) (marks xs ys : List Nat) :
    composeFrom starter marks (xs ++ n :: ys) =
      composeFrom starter marks xs ++ composeFrom n [] ys := by
  induction xs generalizing starter marks with
  | nil =>
    rw [List.nil_append, composeFrom_cons, composePair?_right hn, ite_self]
    simp [combiningClass_of_lt hn, composeFrom]
  | cons x xs ih =>
    rw [List.cons_append, composeFrom_cons, composeFrom_cons]
    split
    · exact ih _ _
    · split
      · rw [ih, List.cons_append, List.append_assoc]
      · exact ih _ _

theorem compose_append (hn : n < 128) (xs ys : List Nat) :
    compose (xs ++ n :: ys) = compose xs ++ compose (n :: ys) := by
  have hstart : compose (n :: ys) = composeFrom n [] ys := if_pos (combiningClass_of_lt hn)
  rw [hstart]
  induction xs with
  | nil => exact hstart
  | cons x xs ih =>
    rw [List.cons_append, compose, compose]
    split
    · exact composeFrom_append hn x [] xs ys
    · rw [ih, List.cons_append]

/-- A starter that composes with nothing leaves what follows to itself. -/
theorem composeFrom_of_forall (h : ∀ m, composePair? n m = none) (marks ys : List Nat) :
    composeFrom n marks ys = n :: (marks.reverse ++ compose ys) := by
  induction ys generalizing marks with
  | nil => simp [composeFrom, compose]
  | cons y ys ih =>
    rw [composeFrom_cons, h, ite_self, compose]
    dsimp only
    split
    · rfl
    · rw [ih, List.reverse_cons, List.append_assoc, List.singleton_append]

theorem compose_cons (hn : n < 128) (hbearer : isBearer n = false) (ys : List Nat) :
    compose (n :: ys) = n :: compose ys := by
  rw [compose, if_pos (combiningClass_of_lt hn),
    composeFrom_of_forall (composePair?_left hn hbearer)]
  rfl

end Compatibility

open Compatibility

variable {c : Char}

/-- The code points of the compatibility form. -/
def compatible (s : Text) : List Nat :=
  compose (ordered (s.flatMap fun c => decompose c.toNat))

theorem compatible_append (hc : c.toNat < 128) (u v : Text) :
    compatible (u ++ c :: v) = compatible u ++ compatible (c :: v) := by
  have hstart := combiningClass_of_lt hc
  have hordered : ∀ u : Text, ordered ((u ++ c :: v).flatMap fun c => decompose c.toNat) =
      ordered (u.flatMap fun c => decompose c.toNat) ++
        c.toNat :: ordered (v.flatMap fun c => decompose c.toNat) := by
    intro u
    rw [List.flatMap_append, List.flatMap_cons, decompose_of_lt hc, List.singleton_append,
      ordered_append hstart]
  rw [compatible, compatible, compatible, hordered, ← List.nil_append (c :: v), hordered,
    compose_append hc]
  rfl

theorem compatible_cons (hc : c.toNat < 128) (hbearer : isBearer c.toNat = false) (v : Text) :
    compatible (c :: v) = c.toNat :: compatible v := by
  rw [compatible, List.flatMap_cons, decompose_of_lt hc, List.singleton_append,
    ← List.nil_append (c.toNat :: _), ordered_append (combiningClass_of_lt hc)]
  exact compose_cons hc hbearer _

theorem compatible_singleton (hc : c.toNat < 128) : compatible [c] = [c.toNat] := by
  rw [compatible, List.flatMap_singleton, decompose_of_lt hc]
  exact if_pos (combiningClass_of_lt hc)

/-- An ASCII text is its own compatibility form. -/
theorem compatible_of_ascii {s : Text} (hs : ∀ c ∈ s, c.toNat < 128) :
    compatible s = s.map Char.toNat := by
  induction s with
  | nil => rfl
  | cons c s ih =>
    obtain ⟨hc, hs⟩ := List.forall_mem_cons.1 hs
    cases s with
    | nil => exact compatible_singleton hc
    | cons d s =>
      rw [← List.singleton_append, compatible_append (hs d List.mem_cons_self), ih hs,
        compatible_singleton hc]
      rfl

theorem normalized_eq (s : Text) : normalized s = (compatible s).map Char.ofNat := by
  rw [normalized]
  split
  · rename_i h
    have hs : ∀ c ∈ s, c.toNat < 128 := by simpa using h
    have hid : (Char.ofNat ∘ Char.toNat) = id := funext Char.ofNat_toNat
    rw [compatible_of_ascii hs, List.map_map, hid, List.map_id]
  · rfl

/-- No ASCII character is changed by what is in front of it. -/
theorem normalized_append (hc : c.toNat < 128) (u v : Text) :
    normalized (u ++ c :: v) = normalized u ++ normalized (c :: v) := by
  rw [normalized_eq, normalized_eq, normalized_eq, compatible_append hc, List.map_append]

theorem normalized_cons (hc : c.toNat < 128) (hbearer : isBearer c.toNat = false) (v : Text) :
    normalized (c :: v) = c :: normalized v := by
  rw [normalized_eq, normalized_eq, compatible_cons hc hbearer, List.map_cons, Char.ofNat_toNat]

theorem mem_normalized {s : Text} (hc : c.toNat < 128) (hbearer : isBearer c.toNat = false)
    (h : c ∈ s) : c ∈ normalized s := by
  obtain ⟨u, v, rfl⟩ := List.append_of_mem h
  rw [normalized_append hc, normalized_cons hc hbearer]
  simp

end Abacus.Text
