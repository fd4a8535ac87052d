import Abacus.Numeral.Conversion
import Abacus.Proofs.Text.Basic
import Abacus.Proofs.Text.Pattern

/-!
# Values and targets

An input is its value with blanks in front and, behind it, blanks or a separator and a tag.
-/

namespace Abacus.Numeral

open Text (Pattern isBlank isLetter)

variable {s : Text} {n : Numeral}

theorem splitSeparator?_eq_some {l r : Text} (h : splitSeparator? s = some (l, r)) :
    ∃ t k, s = l ++ t ∧ separatorLength? t = some k ∧ r = t.drop k := by
  induction s generalizing l with
  | nil => cases h
  | cons c t ih =>
    rw [splitSeparator?] at h
    split at h
    · rename_i k hk
      cases h
      exact ⟨c :: t, k, rfl, hk, rfl⟩
    split at h
    · cases h
    · obtain ⟨⟨l', r'⟩, hsplit, heq⟩ := Option.map_eq_some_iff.1 h
      cases heq
      obtain ⟨t', k, rfl, hk, rfl⟩ := ih hsplit
      exact ⟨t', k, rfl, hk, rfl⟩

/-- What may stand behind the value of an input. -/
inductive BehindValue : Text → Prop
  | blanks {v : Text} (hv : ∀ c ∈ v, isBlank c) : BehindValue v
  | arrow {v : Text} (hv : ∀ c ∈ v, isBlank c) (t : Text) : BehindValue (v ++ '-' :: '>' :: t)
  | word {v : Text} {c : Char} (hv : ∀ c ∈ v, isBlank c) (hne : v ≠ []) (hc : isLetter 't' c)
      (t : Text) : BehindValue (v ++ c :: t)

theorem BehindValue.append {u v : Text} (hu : ∀ c ∈ u, isBlank c) (hv : BehindValue v) :
    BehindValue (u ++ v) := by
  have hblanks : ∀ {w : Text}, (∀ c ∈ w, isBlank c) → ∀ c ∈ u ++ w, isBlank c := fun hw =>
    List.forall_mem_append.2 ⟨hu, hw⟩
  cases hv with
  | blanks hv => exact .blanks (hblanks hv)
  | arrow hv t =>
    rw [← List.append_assoc]
    exact .arrow (hblanks hv) t
  | word hv hne hc t =>
    rw [← List.append_assoc]
    exact .word (hblanks hv) (List.append_ne_nil_of_right_ne_nil u hne) hc t

/-- A separator is an arrow or a word behind blanks. -/
theorem behindValue_of_separatorLength? {k : Nat} (h : separatorLength? s = some k) (v : Text) :
    BehindValue (s ++ v) := by
  rw [separatorLength?] at h
  split at h
  · rename_i harrow
    obtain ⟨r, rfl⟩ := List.isPrefixOf_iff_prefix.1 harrow
    exact .arrow (v := []) nofun (r ++ v)
  · obtain ⟨⟨segs, rest⟩, hsegs, -⟩ := Option.map_eq_some_iff.1 h
    obtain ⟨u, s₁, _, rfl, hlen, hu, h₁, -⟩ := Pattern.segments?_run_eq_some hsegs
    obtain ⟨t, s₂, _, rfl, hlen', ht, -, -⟩ := Pattern.segments?_run_eq_some h₁
    obtain ⟨c, t, rfl⟩ := List.exists_cons_of_ne_nil (List.ne_nil_of_length_pos hlen')
    rw [List.append_assoc]
    exact .word hu (List.ne_nil_of_length_pos hlen) (ht c List.mem_cons_self) _

/-- An input is its value between blanks, with a separator and a tag or without them. -/
theorem Request.exists_append (s : Text) : ∃ u v, s = u ++ ((Request.ofText s).value ++ v) ∧
    (∀ c ∈ u, isBlank c) ∧ BehindValue v := by
  obtain ⟨u, v, hs, hu, hv⟩ := Text.exists_trim s
  rw [Request.ofText]
  cases hsplit : splitSeparator? (Text.trim s) with
  | none => exact ⟨u, v, hs, hu, .blanks hv⟩
  | some x =>
    obtain ⟨l, r⟩ := x
    obtain ⟨t, k, heq, hk, -⟩ := splitSeparator?_eq_some hsplit
    obtain ⟨u', v', hl, hu', hv'⟩ := Text.exists_trim l
    refine ⟨u ++ u', v' ++ (t ++ v), ?_, List.forall_mem_append.2 ⟨hu, hu'⟩,
      (behindValue_of_separatorLength? hk v).append hv'⟩
    rw [heq, hl] at hs
    simpa using hs

theorem isTrimmed_value (s : Text) : Text.IsTrimmed (Request.ofText s).value := by
  rw [Request.ofText]
  split <;> exact Text.isTrimmed_trim _

/-- The target has no part in the way a numeral is written. -/
theorem exists_read_of_ofText (h : Numeral.ofText s = .ok n) :
    ∃ target, read (Request.ofText s).value = .ok { n with target } := by
  rw [Numeral.ofText] at h
  cases hread : read (Request.ofText s).value with
  | error f =>
    simp only [hread] at h
    cases h
  | ok m =>
    simp only [hread] at h
    split at h
    · split at h
      · cases h
      · cases h
        exact ⟨m.target, rfl⟩
    · cases h
      exact ⟨_, rfl⟩

end Abacus.Numeral
