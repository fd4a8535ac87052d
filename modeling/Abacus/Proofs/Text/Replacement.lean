import Abacus.Proofs.Text.Basic
import Abacus.Text.Pattern

/-!
# Replacing tokens

A text in which no token starts stays as it is.  A text in which tokens and their images are made of
separators keeps its runs.
-/

namespace Abacus.Text

variable {token : Option Char → Text → Option Nat} {image : Text → Text} {before : Option Char}
  {s : Text}

/-- Where no token starts in front, only what follows is replaced. -/
theorem replaceFrom_append_of_none {u : Text} (v : Text)
    (h : ∀ x c y, u = x ++ c :: y → token (x.getLast?.or before) (c :: y ++ v) = none) :
    replaceFrom token image 0 before (u ++ v) =
      u ++ replaceFrom token image 0 (u.getLast?.or before) v := by
  induction u generalizing before with
  | nil => rfl
  | cons c u ih =>
    have htoken : token before (c :: (u ++ v)) = none := h [] c u rfl
    have hrest : ∀ x d y, u = x ++ d :: y →
        token (x.getLast?.or (some c)) (d :: y ++ v) = none := by
      intro x d y hu
      have := h (c :: x) d y (by rw [hu, List.cons_append])
      rwa [List.getLast?_cons, Option.some_or, ← Option.or_some] at this
    rw [List.cons_append, replaceFrom, htoken, List.getLast?_cons, Option.some_or, ← Option.or_some]
    exact congrArg (c :: ·) (ih hrest)

theorem replaceFrom_eq_self
    (h : ∀ u c r, s = u ++ c :: r → token (u.getLast?.or before) (c :: r) = none) :
    replaceFrom token image 0 before s = s := by
  have happend : replaceFrom token image 0 before (s ++ []) = _ :=
    replaceFrom_append_of_none [] fun x c y hs => by rw [List.append_nil]; exact h x c y hs
  simpa [replaceFrom] using happend

/-- Nothing is replaced in a text in which no token starts. -/
theorem replaceTokens_eq_self
    (h : ∀ u c r, s = u ++ c :: r → token u.getLast? (c :: r) = none) :
    replaceTokens token image s = s :=
  replaceFrom_eq_self fun u c r hs => by simpa using h u c r hs

/-- What belongs to a token is passed over. -/
theorem exists_replaceFrom_drop (n : Nat) (before : Option Char) (s : Text) :
    ∃ b, replaceFrom token image n before s = replaceFrom token image 0 b (s.drop n) := by
  induction n generalizing before s with
  | zero => exact ⟨before, rfl⟩
  | succ n ih =>
    cases s with
    | nil => exact ⟨before, rfl⟩
    | cons c r => exact ih (some c) r

/-- What belongs to a token is passed over, up to its last character. -/
theorem replaceFrom_append (u v : Text) (before : Option Char) :
    replaceFrom token image u.length before (u ++ v) =
      replaceFrom token image 0 (u.getLast?.or before) v := by
  induction u generalizing before with
  | nil => rfl
  | cons c u ih =>
    rw [List.length_cons, List.cons_append, replaceFrom, ih, List.getLast?_cons, Option.some_or,
      ← Option.or_some]

theorem replaceFrom_cons_of_none {c : Char} (h : token before (c :: s) = none) :
    replaceFrom token image 0 before (c :: s) = c :: replaceFrom token image 0 (some c) s := by
  rw [replaceFrom, h]

/-- A token is replaced by its image. -/
theorem replaceFrom_token {w : Text} (hw : w ≠ []) (v : Text)
    (h : token before (w ++ v) = some w.length) :
    replaceFrom token image 0 before (w ++ v) =
      image w ++ replaceFrom token image 0 w.getLast? v := by
  obtain ⟨c, u, rfl⟩ := List.exists_cons_of_ne_nil hw
  rw [List.cons_append, List.length_cons] at h
  have htake : (c :: (u ++ v)).take (u.length + 1) = c :: u := by
    rw [← List.cons_append, ← List.length_cons (a := c), List.take_left]
  rw [List.cons_append, replaceFrom, h]
  simp only [htake, replaceFrom_append]
  rw [List.getLast?_cons, ← Option.or_some]

/-! ## Separators -/

/-- No token reaches over the character, and behind it tokens are as at the start of a text. -/
structure Separates (token : Option Char → Text → Option Nat) (c : Char) : Prop where
  cons : ∀ b v n, token b (c :: v) ≠ some (n + 1)
  append : ∀ b u v, u ≠ [] → token b (u ++ c :: v) = token b u
  length : ∀ b u n, token b u = some n → n ≤ u.length
  start : ∀ s, token (some c) s = token none s

theorem replaceFrom_cons_of_ne {c : Char} (h : ∀ n, token before (c :: s) ≠ some (n + 1)) :
    replaceFrom token image 0 before (c :: s) = c :: replaceFrom token image 0 (some c) s := by
  rw [replaceFrom]
  split
  · rename_i n heq
    exact absurd heq (h n)
  · rfl

theorem replaceFrom_congr {b b' : Option Char} (h : token b s = token b' s) :
    replaceFrom token image 0 b s = replaceFrom token image 0 b' s := by
  cases s with
  | nil => rfl
  | cons c s => rw [replaceFrom, replaceFrom, h]

/-- Where no token that starts in front reaches over to what follows, both parts are replaced by
themselves. -/
theorem exists_replaceFrom_append {u v : Text}
    (happend : ∀ b w, w ≠ [] → w <:+ u → token b (w ++ v) = token b w)
    (hlength : ∀ b w n, w <:+ u → token b w = some n → n ≤ w.length) (before : Option Char) :
    ∃ b, replaceFrom token image 0 before (u ++ v) =
      replaceFrom token image 0 before u ++ replaceFrom token image 0 b v := by
  induction hn : u.length using Nat.strong_induction_on generalizing u before with
  | _ n ih =>
    cases u with
    | nil => exact ⟨before, rfl⟩
    | cons d u =>
      have hshorter : ∀ w, w <:+ d :: u → w.length < n → ∀ before, ∃ b,
          replaceFrom token image 0 before (w ++ v) =
            replaceFrom token image 0 before w ++ replaceFrom token image 0 b v :=
        fun w hw hlen before => ih _ hlen (fun b w' hne hw' => happend b w' hne (hw'.trans hw))
          (fun b w' n hw' => hlength b w' n (hw'.trans hw)) before rfl
      have htoken := happend before (d :: u) (List.cons_ne_nil d u) List.suffix_rfl
      by_cases h : ∃ k, token before (d :: u) = some (k + 1)
      · obtain ⟨k, hk⟩ := h
        have hle := hlength _ _ _ List.suffix_rfl hk
        obtain ⟨w, r, hs, hw⟩ : ∃ w r, d :: u = w ++ r ∧ w.length = k + 1 :=
          ⟨_, _, (List.take_append_drop (k + 1) (d :: u)).symm, List.length_take_of_le hle⟩
        have hne : w ≠ [] := by
          rintro rfl
          cases hw
        have hlen : r.length < n := by
          rw [← hn, hs, List.length_append]
          omega
        obtain ⟨b, hb⟩ := hshorter r (hs ▸ List.suffix_append w r) hlen w.getLast?
        refine ⟨b, ?_⟩
        rw [hk, hs, List.append_assoc, ← hw] at htoken
        rw [hs, ← hw] at hk
        rw [hs, List.append_assoc, replaceFrom_token hne _ htoken, replaceFrom_token hne _ hk, hb,
          List.append_assoc]
      · have hne : ∀ k, token before (d :: u) ≠ some (k + 1) := fun k hk => h ⟨k, hk⟩
        obtain ⟨b, hb⟩ := hshorter u (List.suffix_cons d u) (by simp [← hn]) (some d)
        refine ⟨b, ?_⟩
        rw [List.cons_append] at htoken ⊢
        rw [replaceFrom_cons_of_ne (htoken ▸ hne), replaceFrom_cons_of_ne hne, hb]
        rfl

theorem replaceFrom_append_cons {c : Char} (hc : Separates token c) (before : Option Char)
    (u v : Text) : replaceFrom token image 0 before (u ++ c :: v) =
      replaceFrom token image 0 before u ++ c :: replaceFrom token image 0 none v := by
  obtain ⟨b, hb⟩ := exists_replaceFrom_append (u := u) (v := c :: v)
    (fun b w hne _ => hc.append b w v hne) (fun b w n _ => hc.length b w n) before
  rw [hb, replaceFrom_cons_of_ne (hc.cons b v), replaceFrom_congr (hc.start v)]

/-- What stands on either side of a separator is replaced by itself. -/
theorem replaceTokens_append_cons {c : Char} (hc : Separates token c) (u v : Text) :
    replaceTokens token image (u ++ c :: v) =
      replaceTokens token image u ++ c :: replaceTokens token image v :=
  replaceFrom_append_cons hc none u v

/-- A property of all characters holds after replacement if it holds of the images. -/
theorem forall_mem_replaceFrom {P : Char → Prop} (hs : ∀ c ∈ s, P c)
    (himage : ∀ w, (∀ c ∈ w, P c) → ∀ c ∈ image w, P c) (skip : Nat) (before : Option Char) :
    ∀ c ∈ replaceFrom token image skip before s, P c := by
  induction s generalizing skip before with
  | nil => cases skip <;> exact nofun
  | cons c r ih =>
    obtain ⟨hc, hr⟩ := List.forall_mem_cons.1 hs
    cases skip with
    | succ skip => exact ih hr skip (some c)
    | zero =>
      rw [replaceFrom]
      split
      · rename_i n _
        refine List.forall_mem_append.2 ⟨himage _ fun d hd => ?_, ih hr n (some c)⟩
        exact hs d (List.mem_of_mem_take hd)
      · exact List.forall_mem_cons.2 ⟨hc, ih hr 0 (some c)⟩

/-- Characters of a class stay where they are if neither tokens nor their images hold any. -/
theorem filter_replaceFrom {q : Char → Bool}
    (h : ∀ b s n, token b s = some n →
      (∀ c ∈ s.take n, q c = false) ∧ ∀ c ∈ image (s.take n), q c = false)
    (before : Option Char) (s : Text) :
    (replaceFrom token image 0 before s).filter q = s.filter q := by
  have hnone : ∀ {t : Text}, (∀ c ∈ t, q c = false) → t.filter q = [] := fun ht =>
    List.filter_eq_nil_iff.2 fun c hc => by simp [ht c hc]
  induction hn : s.length using Nat.strong_induction_on generalizing s before with
  | _ n ih =>
    cases s with
    | nil => rfl
    | cons c s =>
      by_cases htoken : ∃ k, token before (c :: s) = some (k + 1)
      · obtain ⟨k, hk⟩ := htoken
        obtain ⟨htake, himage⟩ := h _ _ _ hk
        obtain ⟨b, hb⟩ : ∃ b, replaceFrom token image k (some c) s =
            replaceFrom token image 0 b (s.drop k) := exists_replaceFrom_drop k (some c) s
        have hlen : (s.drop k).length < n := by
          rw [← hn, List.length_drop, List.length_cons]
          omega
        have hsplit := congrArg (List.filter q) (List.take_append_drop (k + 1) (c :: s))
        rw [List.filter_append, hnone htake] at hsplit
        rw [replaceFrom, hk]
        dsimp only
        rw [hb, List.filter_append, hnone himage, List.nil_append, ih _ hlen b _ rfl]
        exact hsplit
      · rw [replaceFrom_cons_of_ne fun k hk => htoken ⟨k, hk⟩, List.filter_cons, List.filter_cons,
          ih s.length (by simp [← hn]) _ s rfl]

/-! ## Runs -/

theorem pieces_ne_nil (cut : Char → Bool) (s : Text) : pieces cut s ≠ [] := by
  cases s with
  | nil => exact List.cons_ne_nil _ _
  | cons c r =>
    rw [pieces, List.foldr_cons]
    split
    · exact List.cons_ne_nil _ _
    · split <;> exact List.cons_ne_nil _ _

theorem pieces_cons {cut : Char → Bool} {c : Char} (h : cut c = true) (s : Text) :
    pieces cut (c :: s) = [] :: pieces cut s := by
  rw [pieces, List.foldr_cons, if_pos h]
  rfl

/-- Any other character joins the first piece. -/
theorem pieces_cons_of_neg {cut : Char → Bool} {c : Char} (h : ¬ cut c = true) {s p : Text}
    {ps : List Text} (hs : pieces cut s = p :: ps) : pieces cut (c :: s) = (c :: p) :: ps := by
  have hfold : s.foldr _ [[]] = p :: ps := hs
  rw [pieces, List.foldr_cons, if_neg h, hfold]

/-- A separator cuts the pieces on its left from those on its right. -/
theorem pieces_append_cons {cut : Char → Bool} {c : Char} (h : cut c = true) (u v : Text) :
    pieces cut (u ++ c :: v) = pieces cut u ++ pieces cut v := by
  induction u with
  | nil => exact pieces_cons h v
  | cons d u ih =>
    by_cases hd : cut d = true
    · rw [List.cons_append, pieces_cons hd, pieces_cons hd, ih, List.cons_append]
    · obtain ⟨p, ps, hps⟩ := List.exists_cons_of_ne_nil (pieces_ne_nil cut u)
      rw [hps, List.cons_append] at ih
      rw [List.cons_append, pieces_cons_of_neg hd ih, pieces_cons_of_neg hd hps, List.cons_append]

theorem runs_append_cons {p : Char → Bool} {c : Char} (h : p c = false) (u v : Text) :
    runs p (u ++ c :: v) = runs p u ++ runs p v := by
  rw [runs, pieces_append_cons (by simp [h]), List.filter_append]
  rfl

@[simp] theorem runs_nil (p : Char → Bool) : runs p [] = [] := rfl

theorem runs_cons {p : Char → Bool} {c : Char} (h : p c = false) (s : Text) :
    runs p (c :: s) = runs p s :=
  runs_append_cons h [] s

/-- Separators in front have no part in the runs. -/
theorem runs_append_of_forall {p : Char → Bool} {u : Text} (h : ∀ c ∈ u, p c = false) (s : Text) :
    runs p (u ++ s) = runs p s := by
  induction u with
  | nil => rfl
  | cons c u ih =>
    rw [List.cons_append, runs_cons (h c List.mem_cons_self),
      ih fun d hd => h d (List.mem_cons_of_mem c hd)]

/-- Runs in front are kept apart by a separator. -/
theorem runs_append {p : Char → Bool} (u : Text) {s : Text} (h : ∀ c ∈ s.head?, p c = false) :
    runs p (u ++ s) = runs p u ++ runs p s := by
  cases s with
  | nil => rw [List.append_nil, runs_nil, List.append_nil]
  | cons c r =>
    have hc : p c = false := h c rfl
    rw [runs_append_cons hc, runs_cons hc]

/-- A separator in place of each token, which is made of separators, leaves the runs as they are. -/
theorem runs_replaceFrom {p : Char → Bool} {e : Char} (he : p e = false)
    (h : ∀ b u c r n, s = u ++ c :: r → token b (c :: r) = some n →
      ∀ d ∈ (c :: r).take n, p d = false) (u : Text) (before : Option Char) :
    runs p (u ++ replaceFrom token (fun _ => [e]) 0 before s) = runs p (u ++ s) := by
  induction hn : s.length using Nat.strongRecOn generalizing s u before with
  | _ n ih =>
    cases s with
    | nil => rfl
    | cons c r =>
      have htail : ∀ k, ∀ b u d v n, r.drop k = u ++ d :: v → token b (d :: v) = some n →
          ∀ x ∈ (d :: v).take n, p x = false := by
        intro k b u d v n hr
        refine h b (c :: r.take k ++ u) d v n ?_
        rw [List.append_assoc, ← hr, List.cons_append, List.take_append_drop]
      have hlen : ∀ k, (r.drop k).length < n := by
        intro k
        have := List.length_drop (i := k) (l := r)
        simp only [List.length_cons] at hn
        omega
      rw [replaceFrom]
      split
      · rename_i k hk
        obtain ⟨b, hb⟩ : ∃ b, replaceFrom token (fun _ => [e]) k (some c) r =
            replaceFrom token (fun _ => [e]) 0 b (r.drop k) := exists_replaceFrom_drop k (some c) r
        have htaken : ∀ x ∈ (c :: r).take (k + 1), p x = false := h before [] c r _ rfl hk
        have hrest := ih _ (hlen k) (htail k) [] b rfl
        rw [hb, List.singleton_append, runs_append_cons he]
        rw [List.nil_append, List.nil_append] at hrest
        calc
          runs p u ++ runs p (replaceFrom token (fun _ => [e]) 0 b (r.drop k))
              = runs p u ++ runs p (r.take k ++ r.drop k) := by
                rw [hrest, runs_append_of_forall fun x hx => htaken x (List.mem_cons_of_mem c hx)]
          _ = runs p (u ++ c :: r) := by
                rw [List.take_append_drop, runs_append_cons (htaken c List.mem_cons_self)]
      · have hrest := ih _ (hlen 0) (htail 0) (u ++ [c]) (some c) rfl
        simpa using hrest

/-- A separator in place of each token, which is made of separators, leaves the runs as they are. -/
theorem runs_replaceTokens {p : Char → Bool} {e : Char} (he : p e = false)
    (h : ∀ b u c r n, s = u ++ c :: r → token b (c :: r) = some n →
      ∀ d ∈ (c :: r).take n, p d = false) :
    runs p (replaceTokens token (fun _ => [e]) s) = runs p s :=
  runs_replaceFrom he h [] none

theorem runs_of_forall {p : Char → Bool} {u : Text} (hu : u ≠ []) (h : ∀ c ∈ u, p c = true) :
    runs p u = [u] := by
  have hpieces : pieces (fun c => !p c) u = [u] := by
    clear hu
    induction u with
    | nil => rfl
    | cons c u ih =>
      obtain ⟨hc, hu⟩ := List.forall_mem_cons.1 h
      exact pieces_cons_of_neg (by simp [hc]) (ih hu)
  rw [runs, hpieces, List.filter_cons_of_pos (by simpa using hu)]
  rfl

/-- Behind a separator a run begins. -/
theorem takeWhile_mem_runs {p : Char → Bool} {u v : Text} (hu : ∀ c ∈ u.getLast?, p c = false)
    (hv : v.takeWhile p ≠ []) : v.takeWhile p ∈ runs p (u ++ v) := by
  have hmem : v.takeWhile p ∈ runs p v := by
    have hruns : runs p (v.takeWhile p ++ v.dropWhile p) = _ :=
      runs_append (v.takeWhile p) fun c hc => not_of_mem_head?_dropWhile hc
    rw [List.takeWhile_append_dropWhile,
      runs_of_forall hv fun c hc => List.mem_takeWhile_imp hc] at hruns
    rw [hruns]
    exact List.mem_cons_self
  rcases List.eq_nil_or_concat u with rfl | ⟨u, c, rfl⟩
  · exact hmem
  · rw [List.concat_eq_append, List.append_assoc, List.singleton_append,
      runs_append_cons (hu c (by simp))]
    exact List.mem_append_right _ hmem

end Abacus.Text
