import Abacus.Text.Compatibility

/-!
# What composes

Only some ASCII characters compose with what stands behind them, and none with what stands in front.
-/

namespace Abacus.Text.Compatibility

open CodePoints (Pairs words)

/-- The ASCII characters that a mark behind them can compose with. -/
def isBearer (n : Nat) : Bool := (Char.ofNat n).isAlpha || n == 60 || n == 61 || n == 62

set_option maxRecDepth 1000000 in
theorem compositions_bearer : (compositions.all fun p =>
    Nat.ble 128 p.1.2 && (Nat.ble 128 p.1.1 || isBearer p.1.1)) = true := by
  unfold compositions Pairs.ofString words
  rw [String.toList_ofList]
  decide +kernel

theorem mem_of_find? {a b c : Nat} (h : compositions.find? a b = some c) :
    ((a, b), c) ∈ compositions := by
  obtain ⟨ys, zs, h, -⟩ := List.lookup_eq_some_iff.1 h
  exact h ▸ List.mem_append_right ys List.mem_cons_self

/-- An ASCII character composes with nothing in front of it. -/
theorem composePair?_right {b : Nat} (hb : b < 128) (a : Nat) : composePair? a b = none := by
  rw [composePair?]
  split
  · rfl
  · rw [if_neg (by omega), if_neg (by omega), Option.eq_none_iff_forall_ne_some]
    intro c hc
    have hall := List.all_eq_true.1 compositions_bearer _ (mem_of_find? hc)
    simp only [Bool.and_eq_true, Nat.ble_eq] at hall
    omega

/-- Most ASCII characters that are no letters compose with nothing behind them. -/
theorem composePair?_left {a : Nat} (ha : a < 128) (hbearer : isBearer a = false) (b : Nat) :
    composePair? a b = none := by
  rw [composePair?]
  split
  · rfl
  · rw [if_neg (by omega), if_neg (by omega), Option.eq_none_iff_forall_ne_some]
    intro c hc
    have hall := List.all_eq_true.1 compositions_bearer _ (mem_of_find? hc)
    simp only [hbearer, Bool.or_false, Bool.and_eq_true, Nat.ble_eq] at hall
    omega

end Abacus.Text.Compatibility
