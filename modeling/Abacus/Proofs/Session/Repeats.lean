import Abacus.Proofs.Session.Currency

/-!
# No expression is shown twice in a row

An expression that is on display is not shown again before something else was, or before an empty
selection.  Whether a selection is passed over is decided when it comes in, and its report is shown
later, when the task is taken out.  So it is the waiting task that has to be watched: since the text
of an expression that waits was last shown, another text was, or nothing was selected.

`Remembers` is what every step keeps.  It speaks about all that has occurred, selections as well as
events, in this order.
-/

namespace Abacus.Session

/-- What occurs in a run: a selection, with its trimmed text, or an event. -/
inductive Occurrence where
  | selected (text : Text)
  | told (event : Event)

/-- The text of a report that is shown. -/
def Occurrence.shown? : Occurrence → Option Text
  | .told (.show t _) => some t
  | _ => none

/-- What lets a text be shown again: a report of another text, or an empty selection. -/
def Occurrence.Renews (t : Text) : Occurrence → Prop
  | .selected u => u = []
  | .told (.show u _) => u ≠ t
  | .told .clear => False

/-- What occurs in a sequence of steps: the selection of each, then what it tells the display. -/
def occurrences (cfg : Limits) (s : Session) : List Step → List Occurrence
  | [] => []
  | st :: sts =>
      (st.selection?.map .selected).toList ++ (step cfg s st).2.events.map .told ++
        occurrences cfg (step cfg s st).1 sts

/-- The text of the report shown last. -/
def latestShown? (os : List Occurrence) : Option Text := (os.filterMap Occurrence.shown?).getLast?

/-- After every report of the text something has occurred that lets it be shown again. -/
def Renewed (t : Text) (os : List Occurrence) : Prop :=
  ∀ before o after, os = before ++ o :: after → o.shown? = some t → ∃ o' ∈ after, o'.Renews t

/-- The text is taken for an expression. -/
def IsExpression (cfg : Limits) (t : Text) : Prop :=
  ∃ r, classify cfg t = .ok r ∧ r.kind = .expression

/-- Whenever an expression was shown, it could be. -/
def Unrepeated (cfg : Limits) (os : List Occurrence) : Prop :=
  ∀ before o after t, os = before ++ o :: after → o.shown? = some t → IsExpression cfg t →
    Renewed t before

variable {cfg : Limits} {s s' : Session} {sel : Option Text} {t : Text} {o : Occurrence}
  {os os' : List Occurrence}

/-! ## Sequences of occurrences -/

theorem renewed_nil : Renewed t [] := by simp [Renewed]

/-- A text may still be shown, or may again, if what occurs is no report of it. -/
theorem renewed_append (hos' : ∀ o ∈ os', o.shown? ≠ some t)
    (h : Renewed t os ∨ ∃ o ∈ os', o.Renews t) : Renewed t (os ++ os') := by
  intro before o after heq ho
  rcases List.append_eq_append_iff.1 heq with ⟨x, -, hx⟩ | ⟨x, hx, hafter⟩
  · exact absurd ho (hos' o (by simp [hx]))
  cases x with
  | nil =>
    rw [List.nil_append] at hafter
    exact absurd ho (hos' o (by simp [← hafter]))
  | cons p x =>
    obtain ⟨rfl, rfl⟩ := List.cons.inj hafter
    rcases h with h | ⟨o', ho', hrenews⟩
    · obtain ⟨o', ho', hrenews⟩ := h before o x hx ho
      exact ⟨o', List.mem_append_left os' ho', hrenews⟩
    · exact ⟨o', List.mem_append_right x ho', hrenews⟩

theorem unrepeated_nil : Unrepeated cfg [] := by simp [Unrepeated]

theorem Unrepeated.append (h : Unrepeated cfg os)
    (hos' : ∀ before o after t, os' = before ++ o :: after → o.shown? = some t →
      IsExpression cfg t → Renewed t (os ++ before)) : Unrepeated cfg (os ++ os') := by
  intro before o after t heq ho ht
  rcases List.append_eq_append_iff.1 heq with ⟨x, rfl, hx⟩ | ⟨x, hx, hafter⟩
  · exact hos' x o after t hx ho ht
  cases x with
  | nil =>
    rw [List.append_nil] at hx
    rw [List.nil_append] at hafter
    have := hos' [] o after t hafter.symm ho ht
    rwa [List.append_nil, hx] at this
  | cons p x =>
    obtain ⟨rfl, rfl⟩ := List.cons.inj hafter
    exact h before o x t hx ho ht

theorem latestShown?_append (os os' : List Occurrence) :
    latestShown? (os ++ os') = (latestShown? os').or (latestShown? os) := by
  simp [latestShown?, List.filterMap_append, List.getLast?_append]

theorem latestShown?_of_quiet (h : ∀ o ∈ os, o.shown? = none) : latestShown? os = none := by
  have hnil : os.filterMap Occurrence.shown? = [] := List.filterMap_eq_nil_iff.2 h
  rw [latestShown?, hnil]
  rfl

/-! ## What every step keeps -/

/-- What is true of the session after every step, given what has occurred. -/
structure Remembers (cfg : Limits) (s : Session) (os : List Occurrence) : Prop where
  /-- The text shown last is that of the last report, unless it was given up. -/
  latest : s.lastShown = [] ∨ latestShown? os = some s.lastShown
  /-- Any other text may be shown. -/
  renewed : ∀ t, t ≠ s.lastShown → Renewed t os
  /-- A waiting expression may be shown. -/
  waiting : ∀ task, s.deferral.pending = some task → task.kind = .expression → Renewed task.text os
  unrepeated : Unrepeated cfg os

theorem remembers_start : Remembers cfg start [] :=
  ⟨.inl rfl, fun _ _ => renewed_nil, nofun, unrepeated_nil⟩

/-- No report is shown.  The text shown last stays or is given up with an empty selection, and a
task that comes to wait is not for that text. -/
theorem Remembers.quiet (h : Remembers cfg s os) (hquiet : ∀ o ∈ os', o.shown? = none)
    (hlast : s'.lastShown = s.lastShown ∨ s'.lastShown = [] ∧ .selected [] ∈ os')
    (hwaiting : ∀ task, s'.deferral.pending = some task → task.kind = .expression →
      s.deferral.pending = some task ∨ task.text ≠ s.lastShown) :
    Remembers cfg s' (os ++ os') := by
  have hnot : ∀ t, ∀ o ∈ os', o.shown? ≠ some t := fun t o ho hshown => by
    rw [hquiet o ho] at hshown
    cases hshown
  have hkept : ∀ {t}, Renewed t os → Renewed t (os ++ os') := fun hrenewed =>
    renewed_append (hnot _) (.inl hrenewed)
  refine ⟨?_, fun t ht => ?_, fun task htask hkind => ?_, h.unrepeated.append ?_⟩
  · rcases hlast with hlast | ⟨hlast, -⟩
    · rw [latestShown?_append, latestShown?_of_quiet hquiet, Option.none_or, hlast]
      exact h.latest
    · exact .inl hlast
  · rcases hlast with hlast | ⟨-, hempty⟩
    · exact hkept (h.renewed t (hlast ▸ ht))
    · exact renewed_append (hnot t) (.inr ⟨_, hempty, rfl⟩)
  · rcases hwaiting task htask hkind with hpending | hne
    · exact hkept (h.waiting task hpending hkind)
    · exact hkept (h.renewed _ hne)
  · rintro before o after t rfl ho -
    exact absurd ho (hnot t o (by simp))

/-- A report is shown, and nothing waits then. -/
theorem Remembers.show (h : Remembers cfg s os) {items : List Item}
    (ht : IsExpression cfg t → Renewed t os) (hlast : s'.lastShown = t)
    (hpending : s'.deferral.pending = none) :
    Remembers cfg s' (os ++ [.told (.show t items)]) := by
  refine ⟨.inr ?_, fun u hu => ?_, fun task htask => ?_, h.unrepeated.append ?_⟩
  · rw [latestShown?_append, hlast]
    rfl
  · have hne : t ≠ u := fun heq => hu (heq ▸ hlast.symm)
    refine renewed_append ?_ (.inr ⟨_, List.mem_singleton_self _, hne⟩)
    intro o ho hshown
    obtain rfl := List.mem_singleton.1 ho
    exact hne (Option.some.inj hshown)
  · rw [hpending] at htask
    cases htask
  · intro before o after u heq ho hu
    obtain ⟨rfl, rfl, -⟩ : before = [] ∧ o = .told (.show t items) ∧ after = [] := by
      cases before <;> simp_all
    obtain rfl : t = u := Option.some.inj ho
    rw [List.append_nil]
    exact ht hu

/-! ## The steps -/

theorem Remembers.select (h : Remembers cfg s os) (text : Text) :
    Remembers cfg (select cfg s text).1
      (os ++ .selected (Text.trim text) :: (select cfg s text).2.events.map .told) := by
  have hquiet : ∀ o ∈ Occurrence.selected (Text.trim text) ::
      (Session.select cfg s text).2.events.map .told, o.shown? = none := by
    refine List.forall_mem_cons.2 ⟨rfl, List.forall_mem_map.2 fun e he => ?_⟩
    match e with
    | .show t items => exact absurd he (not_show_of_select text t items)
    | .clear => rfl
  by_cases hempty : (Text.trim text).isEmpty
  · have hnil : Text.trim text = [] := List.isEmpty_iff.1 hempty
    refine h.quiet hquiet (.inr ⟨?_, ?_⟩) ?_
    · simp [Session.select, hempty, clear]
    · simp [hnil]
    · simp [Session.select, hempty, clear, Deferral.cancel]
  simp only [Session.select, hempty, Bool.false_eq_true, if_false] at hquiet ⊢
  cases hr : classify cfg (Text.trim text) with
  | error f =>
    simp only [hr] at hquiet ⊢
    exact h.quiet hquiet (.inl rfl) fun task htask _ => .inl htask
  | ok r =>
    simp only [hr] at hquiet ⊢
    by_cases hkind : r.kind = .ignored
    · rw [if_pos hkind] at hquiet ⊢
      exact h.quiet hquiet (.inl rfl) (by simp [clear, Deferral.cancel])
    rw [if_neg hkind] at hquiet ⊢
    split at hquiet
    · rename_i hrepeat
      rw [if_pos hrepeat]
      exact h.quiet hquiet (.inl rfl) fun task htask _ => .inl htask
    · -- the text that comes to wait is not the one shown last, if it is an expression
      rename_i hrepeat
      rw [if_neg hrepeat]
      refine h.quiet hquiet (.inl rfl) ?_
      rintro task ⟨⟩ hexpression
      refine .inr fun hlast => hrepeat ?_
      rw [decide_eq_true hexpression, Bool.true_and]
      exact beq_iff_eq.2 hlast

theorem Remembers.performTaken (h : Remembers cfg s os) (hf : Follows cfg s sel)
    {r : Option Task × Deferral Task} (hr : s.deferral.Takes r) :
    Remembers cfg (performTaken cfg s r).1 (os ++ (performTaken cfg s r).2.events.map .told) := by
  obtain ⟨taken, d⟩ := r
  cases taken with
  | none =>
    exact h.quiet (List.forall_mem_nil _) (.inl rfl) fun task htask _ => .inl (hr.of_none ▸ htask)
  | some task =>
    obtain ⟨hpending, hd⟩ := hr.of_some
    have htask : IsExpression cfg task.text → Renewed task.text os := by
      rintro ⟨r, hclass, hexpression⟩
      obtain ⟨r', hclass', hkind, -⟩ := hf.waiting task hpending
      cases hclass.symm.trans hclass'
      exact h.waiting task hpending (hkind.symm.trans hexpression)
    have hnone : ∀ task', d.pending = some task' → task'.kind = .expression →
        s.deferral.pending = some task' ∨ task'.text ≠ s.lastShown := fun task' htask' => by
      rw [hd] at htask'
      cases htask'
    simp only [Session.performTaken, Session.perform]
    split
    · exact h.quiet (List.forall_mem_nil _) (.inl rfl) hnone
    split
    · exact h.show htask rfl hd
    split
    · exact h.quiet (by simp [Occurrence.shown?]) (.inl rfl) hnone
    · exact h.quiet (List.forall_mem_nil _) (.inl rfl) hnone

theorem Remembers.step (h : Remembers cfg s os) (hf : Follows cfg s sel) (st : Step) :
    Remembers cfg (step cfg s st).1
      (os ++ ((st.selection?.map .selected).toList ++ (step cfg s st).2.events.map .told)) := by
  cases st with
  | select text => exact h.select text
  | fire i => exact h.performTaken hf (s.deferral.takes_fire i)
  | flush => exact h.performTaken hf s.deferral.takes_flush
  | cancel => exact h.quiet (List.forall_mem_nil _) (.inl rfl) nofun

/-! ## Runs -/

theorem Remembers.run (h : Remembers cfg s os) (hf : Follows cfg s sel) (sts : List Step) :
    Remembers cfg (final cfg s sts) (os ++ occurrences cfg s sts) := by
  induction sts generalizing s sel os with
  | nil =>
    rw [final_nil, occurrences, List.append_nil]
    exact h
  | cons st sts ih =>
    rw [final_cons, occurrences, ← List.append_assoc]
    exact ih (h.step hf st) (hf.step st)

/-- In a run from the start, between two reports of an expression there is a report of another text
or an empty selection.  The text that counts as shown last is the one of the last report, if it
counts at all. -/
theorem shows_unrepeated (cfg : Limits) (sts : List Step) :
    (∀ before t items between items' after r,
      occurrences cfg start sts =
        before ++ .told (.show t items) :: (between ++ .told (.show t items') :: after) →
      classify cfg t = .ok r → r.kind = .expression →
      (∃ u items, u ≠ t ∧ .told (.show u items) ∈ between) ∨ .selected [] ∈ between) ∧
    ((final cfg start sts).lastShown = [] ∨
      latestShown? (occurrences cfg start sts) = some (final cfg start sts).lastShown) := by
  have h : Remembers cfg (final cfg start sts) (occurrences cfg start sts) :=
    remembers_start.run follows_start sts
  refine ⟨?_, h.latest⟩
  intro before t items between items' after r heq hr hexpression
  have hrenewed : Renewed t (before ++ .told (.show t items) :: between) :=
    h.unrepeated _ (.told (.show t items')) after t (by simpa using heq) rfl ⟨r, hr, hexpression⟩
  obtain ⟨o, ho, hrenews⟩ := hrenewed before _ between rfl rfl
  match o, hrenews with
  | .selected u, hu => exact .inr (hu ▸ ho)
  | .told (.show u items), hu => exact .inl ⟨u, items, hu, ho⟩

/-- Two expressions in turn, the first of them selected once more while it is on display. -/
def alternating : List Step :=
  [.select "1+1".toList, .fire 0, .select "1+1".toList, .fire 0, .select "2+2".toList, .fire 1,
    .select "1+1".toList, .fire 2]

theorem shows_unrepeated_alternating :
    ∃ items items' between r,
      occurrences {} start alternating = .selected "1+1".toList ::
        .told (.show "1+1".toList items) :: (between ++ [.told (.show "1+1".toList items')]) ∧
      classify {} "1+1".toList = .ok r ∧ r.kind = .expression ∧
      ((∃ u items, u ≠ "1+1".toList ∧ .told (.show u items) ∈ between) ∨
        .selected [] ∈ between) :=
  ⟨_, _, [_, _, _, _], _, rfl, rfl, rfl,
    (shows_unrepeated {} alternating).1 [_] _ _ [_, _, _, _] _ [] _ rfl rfl rfl⟩

end Abacus.Session
