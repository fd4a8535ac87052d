import Abacus.Proofs.Text.Basic
import Abacus.Text.Letter

/-!
# What lower case shows

In lower case a character beyond ASCII does not become an ASCII text, but for the sign of the unit
kelvin, which becomes the letter `k`.  So a text whose lower case is made of other ASCII characters
is an ASCII text itself.
-/

namespace Abacus.Text

open CodePoints (Entry)

variable {s : Text}

/-- A character that the lower case of a character beyond ASCII may hold.  The number zero stands
for a code point that is no character. -/
def IsForeign (c : Char) : Prop := 128 ≤ c.toNat ∨ c = 'k' ∨ c = '\x00'

instance (c : Char) : Decidable (IsForeign c) := inferInstanceAs (Decidable (_ ∨ _))

/-- The image of a line holds a character beyond ASCII, or is the letter `k` of one character. -/
def showsForeign (e : Entry) : Bool :=
  e.image.any (128 ≤ ·) || e.image == [107] && e.first == e.last

set_option maxRecDepth 1000000 in
theorem lowerImages_showsForeign : lowerImages.all showsForeign = true := by
  unfold lowerImages CodePoints.Images.ofString CodePoints.words
  rw [String.toList_ofList]
  decide +kernel

theorem isForeign_ofNat {n : Nat} (h : 128 ≤ n) : IsForeign (Char.ofNat n) := by
  by_cases hn : n.isValidChar
  · have hnat : (Char.ofNat n).toNat = n := by
      rw [Char.ofNat, dif_pos hn]
      rfl
    exact .inl (by rwa [hnat])
  · rw [Char.ofNat, dif_neg hn]
    exact .inr (.inr rfl)

theorem exists_isForeign_of_imageOf? {e : Entry} (he : showsForeign e) {n : Nat} {ns : List Nat}
    (h : e.imageOf? n = some ns) : ∃ k ∈ ns, IsForeign (Char.ofNat k) := by
  rw [showsForeign, Bool.or_eq_true, List.any_eq_true, Bool.and_eq_true, beq_iff_eq,
    beq_iff_eq] at he
  rw [Entry.imageOf?] at h
  split at h
  · rename_i hn
    split at h
    · -- a run is sent onto the run that starts at the image
      rename_i t ht
      cases h
      refine ⟨_, List.mem_singleton_self _, ?_⟩
      rcases he with ⟨k, hk, hle⟩ | ⟨ht', hlast⟩
      · rw [ht] at hk
        obtain rfl := List.mem_singleton.1 hk
        have hle : 128 ≤ k := by simpa using hle
        exact isForeign_ofNat (Nat.le_add_right_of_le hle)
      · rw [ht] at ht'
        cases ht'
        have hzero : n - e.first = 0 := by omega
        rw [hzero]
        exact .inr (.inl rfl)
    · rename_i ht
      cases h
      rcases he with ⟨k, hk, hle⟩ | ⟨ht', -⟩
      · exact ⟨k, hk, isForeign_ofNat (by simpa using hle)⟩
      · exact absurd ht' (ht 107)
  · cases h

theorem exists_isForeign_of_lowerChar {c : Char} (hc : 128 ≤ c.toNat) (before after : Text) :
    ∃ d ∈ lowerChar before c after, IsForeign d := by
  rw [lowerChar, if_neg (by omega)]
  split
  · split
    · exact ⟨_, List.mem_singleton_self _, by decide⟩
    · exact ⟨_, List.mem_singleton_self _, by decide⟩
  split
  · rename_i ns hns
    obtain ⟨e, he, himage⟩ := List.exists_of_findSome?_eq_some hns
    have hshows := List.all_eq_true.1 lowerImages_showsForeign e he
    obtain ⟨k, hk, hforeign⟩ := exists_isForeign_of_imageOf? hshows himage
    exact ⟨_, List.mem_map_of_mem hk, hforeign⟩
  · exact ⟨c, List.mem_singleton_self c, .inl hc⟩

/-- A text is ASCII if its lower case is, the letter `k` left out. -/
theorem toNat_lt_of_lower (h : ∀ d ∈ lower s, ¬ IsForeign d) : ∀ c ∈ s, c.toNat < 128 := by
  have hfrom : ∀ (t before : Text), (∀ d ∈ lowerFrom before t, ¬ IsForeign d) →
      ∀ c ∈ t, c.toNat < 128 := by
    intro t
    induction t with
    | nil => exact fun _ _ _ hc => absurd hc List.not_mem_nil
    | cons c r ih =>
      intro before hin d hd
      rw [lowerFrom] at hin
      rcases List.mem_cons.1 hd with rfl | hd
      · refine Nat.lt_of_not_le fun hle => ?_
        obtain ⟨e, he, hforeign⟩ := exists_isForeign_of_lowerChar hle before r
        exact hin e (List.mem_append_left _ he) hforeign
      · exact ih _ (fun e he => hin e (List.mem_append_right _ he)) d hd
  exact hfrom s [] h

/-- Only three small letters stand for characters beyond ASCII when case is ignored. -/
theorem isLetter_iff {l c : Char} (hl : l ∉ ['s', 'k', 'i']) : isLetter l c ↔ c.toLower = l := by
  have hfold : folded? c ≠ some l := by
    intro h
    unfold folded? at h
    split at h <;> cases h <;> simp at hl
  simp [isLetter, hfold]

end Abacus.Text
