import Abacus.Text.Digit
import Abacus.Text.Identifier
import Abacus.Text.Letter
import Mathlib.Data.List.TakeWhile

/-!
# Runs of code points that stand apart

That two tables of runs have nothing in common is checked in one walk through both, since they are
in ascending order.
-/

namespace Abacus.Text

open CodePoints (Runs words)

/-- Whether runs in ascending order, of which none begins before a given number, have nothing in
common with other ones: the other ones that end before the first run are passed over, and the next
one has to begin behind it. -/
def apart : Nat → Runs → Runs → Bool
  | _, [], _ => true
  | start, r :: rs, qs =>
      Nat.ble start r.1 &&
        match qs.dropWhile fun q => Nat.blt q.2 r.1 with
        | [] => apart r.1 rs []
        | q :: qs => Nat.blt r.2 q.1 && apart r.1 rs (q :: qs)

theorem of_apart {start : Nat} {rs qs : Runs} (h : apart start rs qs)
    (hqs : qs.Pairwise fun p q => p.1 ≤ q.1) :
    ∀ r ∈ rs, start ≤ r.1 ∧ ∀ q ∈ qs, q.2 < r.1 ∨ r.2 < q.1 := by
  induction rs generalizing start qs with
  | nil => exact fun _ h => absurd h List.not_mem_nil
  | cons r rs ih =>
    rw [apart, Bool.and_eq_true, Nat.ble_eq] at h
    obtain ⟨hstart, h⟩ := h
    -- what is passed over ends before this run, and so before all that follow
    have hpassed : ∀ q ∈ qs, q ∈ qs.dropWhile (fun q => Nat.blt q.2 r.1) ∨ q.2 < r.1 := by
      intro q hq
      rw [← List.takeWhile_append_dropWhile (p := fun q => Nat.blt q.2 r.1) (l := qs)] at hq
      rcases List.mem_append.1 hq with hq | hq
      · have hlt := List.mem_takeWhile_imp hq
        rw [Nat.blt_eq] at hlt
        exact .inr hlt
      · exact .inl hq
    have hrest := hqs.sublist (List.dropWhile_sublist fun q => Nat.blt q.2 r.1)
    generalize qs.dropWhile (fun q => Nat.blt q.2 r.1) = rest at h hpassed hrest
    have hall : (∀ q ∈ rest, r.2 < q.1) ∧ apart r.1 rs rest := by
      cases rest with
      | nil => exact ⟨nofun, h⟩
      | cons p ps =>
        rw [Bool.and_eq_true, Nat.blt_eq] at h
        refine ⟨?_, h.2⟩
        intro q hq
        rcases List.mem_cons.1 hq with rfl | hq
        · exact h.1
        · exact Nat.lt_of_lt_of_le h.1 (List.rel_of_pairwise_cons hrest hq)
    intro r' hr'
    rcases List.mem_cons.1 hr' with rfl | hr'
    · exact ⟨hstart, fun q hq => (hpassed q hq).symm.imp_right (hall.1 q)⟩
    · obtain ⟨hle, hapart⟩ := ih hall.2 hrest r' hr'
      refine ⟨Nat.le_trans hstart hle, fun q hq => ?_⟩
      rcases hpassed q hq with hq | hq
      · exact hapart q hq
      · exact .inl (Nat.lt_of_lt_of_le hq hle)

/-- Runs of a table are apart from the code points of blanks. -/
theorem blanks_apart {rs : Runs} (h : apart 0 rs (blanks.map fun n => (n, n))) {r : Nat × Nat}
    (hr : r ∈ rs) {n : Nat} (hn : n ∈ blanks) : n < r.1 ∨ r.2 < n :=
  (of_apart h (by decide) r hr).2 (n, n) (List.mem_map_of_mem hn)

/-- The characters beyond ASCII that stand for an ASCII letter when case is ignored. -/
def foldedChars : List Char := ['ſ', '\u212A', 'İ', 'ı']

theorem mem_foldedChars {c : Char} (h : (folded? c).isSome) : c ∈ foldedChars := by
  unfold folded? at h
  split at h
  · decide
  · decide
  · decide
  · decide
  · cases h

set_option maxRecDepth 1000000 in
theorem zeros_apart : (zeros.all fun z => (blanks ++ foldedChars.map Char.toNat).all fun n =>
    !(z ≤ n && n < z + 10)) = true := by
  unfold zeros words
  rw [String.toList_ofList]
  decide +kernel

set_option maxRecDepth 1000000 in
theorem digitSigns_notAscii : (digitSigns.all fun r => Nat.ble 128 r.1) = true := by
  unfold digitSigns Runs.ofString words
  rw [String.toList_ofList]
  decide +kernel

/-- The code points of the decimal digits beyond ASCII. -/
def digitRuns : Runs := zeros.map fun z => (z, z + 9)

set_option maxRecDepth 1000000 in
theorem startRuns_apart : (digitRuns.Pairwise fun p q => p.1 ≤ q.1) ∧
    apart 0 startRuns (blanks.map fun n => (n, n)) = true ∧ apart 0 startRuns digitRuns = true := by
  unfold digitRuns startRuns zeros Runs.ofString words
  rw [String.toList_ofList, String.toList_ofList]
  decide +kernel

set_option maxRecDepth 1000000 in
theorem continueRuns_apart : apart 0 continueRuns (blanks.map fun n => (n, n)) = true := by
  unfold continueRuns Runs.ofString words
  rw [String.toList_ofList]
  decide +kernel

end Abacus.Text
