import Abacus.Proofs.Text.Replacement
import Abacus.Text.Word
import Mathlib.Data.List.SplitBy

/-!
# Replacing tokens inside words

A text is made of words and of the characters between them.  Where tokens are looked for inside
words and no token reaches beyond its word, a text is replaced word by word.
-/

namespace Abacus.Text

variable {token : Option Char → Text → Option Nat} {image : Text → Text} {b : Option Char}
  {c : Char} {s u v : Text}

/-- A text starts with a character that belongs to no word, or with a word as a whole. -/
theorem word_induction {P : Text → Prop} (nil : P [])
    (other : ∀ {c s}, isWord c = false → P s → P (c :: s))
    (word : ∀ {w s}, w ≠ [] → (∀ c ∈ w, isWord c) → (∀ c ∈ s.head?, isWord c = false) → P s →
      P (w ++ s)) (s : Text) : P s := by
  induction hn : s.length using Nat.strong_induction_on generalizing s with
  | _ n ih =>
    cases s with
    | nil => exact nil
    | cons c s =>
      cases hc : isWord c with
      | false => exact other hc (ih s.length (by simp [← hn]) s rfl)
      | true =>
        have hrest := (List.dropWhile_sublist isWord (l := s)).length_le
        rw [← List.takeWhile_append_dropWhile (p := isWord) (l := c :: s)]
        rw [List.takeWhile_cons_of_pos hc, List.dropWhile_cons_of_pos hc]
        refine word (List.cons_ne_nil c _) (List.forall_mem_cons.2 ⟨hc, fun d hd => ?_⟩)
          (fun d hd => not_of_mem_head?_dropWhile hd) (ih _ ?_ _ rfl)
        · exact List.mem_takeWhile_imp hd
        · rw [← hn, List.length_cons]
          exact Nat.lt_succ_of_le hrest

/-- The words of a text and the single characters between them, in order. -/
def fragments (s : Text) : List Text := s.splitBy fun c d => isWord c && isWord d

theorem fragments_cons (hc : isWord c = false) (s : Text) :
    fragments (c :: s) = [c] :: fragments s := by
  rw [← List.singleton_append, fragments, List.splitBy_append]
  · rfl
  · simp [hc]

theorem fragments_append (hu : u ≠ []) (hword : ∀ c ∈ u, isWord c)
    (hv : ∀ c ∈ v.head?, isWord c = false) : fragments (u ++ v) = u :: fragments v := by
  have hchain : u.IsChain fun c d => isWord c && isWord d :=
    List.Pairwise.isChain (List.pairwise_of_forall_mem_list fun c hc d hd => by
      rw [hword c hc, hword d hd]
      rfl)
  rw [fragments, List.splitBy_append fun c _ d hd => by simp [hv d hd],
    List.splitBy_of_isChain hu hchain]
  rfl

/-- Tokens start with a character of a word and end before the next other character. -/
structure InWords (token : Option Char → Text → Option Nat) : Prop where
  cons {c : Char} (hc : isWord c = false) : ∀ b v n, token b (c :: v) ≠ some (n + 1)
  append {c : Char} (hc : isWord c = false) : ∀ b u v, u ≠ [] → token b (u ++ c :: v) = token b u
  length : ∀ b u n, token b u = some n → n ≤ u.length

/-- Tokens that are separated by whatever belongs to no word. -/
theorem InWords.of_separates (h : ∀ c, isWord c = false → Separates token c) : InWords token where
  cons hc := (h _ hc).cons
  append hc := (h _ hc).append
  length := (h ' ' (by decide)).length

namespace InWords

theorem replaceFrom_cons (h : InWords token) (hc : isWord c = false) (b : Option Char) (s : Text) :
    replaceFrom token image 0 b (c :: s) = c :: replaceFrom token image 0 (some c) s :=
  replaceFrom_cons_of_ne (h.cons hc b s)

theorem head?_replaceFrom (h : InWords token) (hs : ∀ c ∈ s.head?, isWord c = false)
    (b : Option Char) : (replaceFrom token image 0 b s).head? = s.head? := by
  cases s with
  | nil => rfl
  | cons c s => rw [h.replaceFrom_cons (hs c rfl), List.head?_cons, List.head?_cons]

/-- What is in front only matters where a word starts. -/
theorem replaceFrom_congr (h : InWords token) (hs : ∀ c ∈ s.head?, isWord c = false)
    (b b' : Option Char) : replaceFrom token image 0 b s = replaceFrom token image 0 b' s := by
  cases s with
  | nil => rfl
  | cons c s => rw [h.replaceFrom_cons (hs c rfl), h.replaceFrom_cons (hs c rfl)]

/-- Where no word starts behind a text, it is replaced by itself. -/
theorem replaceFrom_append (h : InWords token) (hv : ∀ c ∈ v.head?, isWord c = false)
    (b b' : Option Char) (u : Text) : replaceFrom token image 0 b (u ++ v) =
      replaceFrom token image 0 b u ++ replaceFrom token image 0 b' v := by
  have happend : ∀ b w, w ≠ [] → w <:+ u → token b (w ++ v) = token b w := by
    intro b w hw _
    cases v with
    | nil => rw [List.append_nil]
    | cons c v => exact h.append (hv c rfl) b w v hw
  obtain ⟨b'', hb⟩ : ∃ b'', replaceFrom token image 0 b (u ++ v) =
      replaceFrom token image 0 b u ++ replaceFrom token image 0 b'' v :=
    exists_replaceFrom_append happend (fun b w n _ => h.length b w n) b
  rw [hb, h.replaceFrom_congr hv b'' b']

/-- A replacement that does nothing to words it has been done to does nothing to such texts. -/
theorem replaceFrom_replaceFrom (h : InWords token)
    (hword : ∀ b w, b.any isWord = false → (∀ c ∈ w, isWord c) →
      replaceFrom token image 0 b (replaceFrom token image 0 b w) = replaceFrom token image 0 b w)
    (hb : b.any isWord = false) (s : Text) :
    replaceFrom token image 0 b (replaceFrom token image 0 b s) =
      replaceFrom token image 0 b s := by
  induction s using word_induction generalizing b with
  | nil => rfl
  | @other c s hc ih => rw [h.replaceFrom_cons hc, h.replaceFrom_cons hc, @ih (some c) hc]
  | @word w s _ hw hs ih =>
    have hs' : ∀ c ∈ (replaceFrom token image 0 b s).head?, isWord c = false := by
      rwa [h.head?_replaceFrom hs]
    rw [h.replaceFrom_append hs b b, h.replaceFrom_append hs' b b, hword b w hb hw, ih hb]

end InWords

end Abacus.Text
