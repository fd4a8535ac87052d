import Abacus.Proofs.Session.Repeats

/-!
# Which selection a task waits for

A new selection supersedes the waiting task: it takes its place, or gives it up and clears the
display.  This can fail in one way only.  An expression that was the last one to be shown is passed
over when it is selected again, and a task that waits for another text is left waiting.

`Heeds` is what every step keeps: a waiting task is for the current text unless that text was passed
over, and a waiting expression has not been shown last.
-/

namespace Abacus.Session

variable {cfg : Limits} {s : Session} {sel : Option Text}

/-- The steps that are looked at: all but selections of texts that cannot be classified. -/
def Step.Classified (cfg : Limits) : Step → Prop
  | .select text => (classify cfg (Text.trim text)).isOk
  | .fire _ => True
  | .flush => True
  | .cancel => True

instance (cfg : Limits) (st : Step) : Decidable (st.Classified cfg) :=
  match st with
  | .select text => inferInstanceAs (Decidable ((classify cfg (Text.trim text)).isOk = true))
  | .fire _ => .isTrue trivial
  | .flush => .isTrue trivial
  | .cancel => .isTrue trivial

/-- The current text is an expression that was shown last, so that selecting it had no effect. -/
def PassedOver (cfg : Limits) (s : Session) : Prop :=
  s.current = s.lastShown ∧ IsExpression cfg s.current

/-- What is true of the waiting task after every step. -/
structure Heeds (cfg : Limits) (s : Session) : Prop where
  /-- The task is for the current text, unless that was passed over. -/
  current : ∀ task, s.deferral.pending = some task → task.text = s.current ∨ PassedOver cfg s
  /-- A waiting expression is not the text shown last. -/
  unshown : ∀ task, s.deferral.pending = some task → task.kind = .expression →
    task.text ≠ s.lastShown

theorem heeds_of_none (h : s.deferral.pending = none) : Heeds cfg s := by
  constructor
  · intro task htask
    rw [h] at htask
    cases htask
  · intro task htask
    rw [h] at htask
    cases htask

theorem heeds_start : Heeds cfg start := heeds_of_none rfl

/-- With a task waiting, it is for the current text unless that was passed over. -/
theorem Heeds.text_eq_iff (h : Heeds cfg s) (hf : Follows cfg s sel) {task : Task}
    (htask : s.deferral.pending = some task) : task.text = s.current ↔ ¬ PassedOver cfg s := by
  constructor
  · rintro heq ⟨hlast, r, hr, hexpression⟩
    -- the task is for an expression then, and that is the text shown last
    obtain ⟨r', hr', hkind, -⟩ := hf.waiting task htask
    rw [heq, hr] at hr'
    cases hr'
    exact h.unshown task htask (hkind.symm.trans hexpression) (heq.trans hlast)
  · intro hnot
    exact (h.current task htask).resolve_right hnot

/-! ## The steps -/

/-- A new selection, of a text that can be classified. -/
theorem Heeds.select (h : Heeds cfg s) {text : Text} {r : Reason}
    (hr : classify cfg (Text.trim text) = .ok r) : Heeds cfg (select cfg s text).1 := by
  by_cases hempty : (Text.trim text).isEmpty
  · simp only [Session.select, hempty, if_true]
    exact heeds_of_none rfl
  simp only [Session.select, hempty, Bool.false_eq_true, if_false, hr]
  by_cases hkind : r.kind = .ignored
  · rw [if_pos hkind]
    exact heeds_of_none rfl
  rw [if_neg hkind]
  split
  · -- the text shown last is passed over, with whatever is waiting
    rename_i hrepeat
    rw [Bool.and_eq_true, decide_eq_true_eq, beq_iff_eq] at hrepeat
    exact ⟨fun task _ => .inr ⟨hrepeat.2, r, hr, hrepeat.1⟩, h.unshown⟩
  · rename_i hrepeat
    constructor
    · rintro task ⟨⟩
      exact .inl rfl
    · rintro task ⟨⟩ hexpression hlast
      apply hrepeat
      rw [Bool.and_eq_true, decide_eq_true_eq, beq_iff_eq]
      exact ⟨hexpression, hlast⟩

/-- What is taken out waits no more, and nothing comes to wait. -/
theorem Heeds.performTaken (h : Heeds cfg s) {r : Option Task × Deferral Task}
    (hr : s.deferral.Takes r) : Heeds cfg (performTaken cfg s r).1 := by
  obtain ⟨taken, d⟩ := r
  cases taken with
  | none =>
    exact ⟨fun task htask => h.current task (hr.of_none ▸ htask),
      fun task htask => h.unshown task (hr.of_none ▸ htask)⟩
  | some task =>
    apply heeds_of_none
    rw [Session.performTaken, (perform_fst cfg { s with deferral := d } task).2]
    exact hr.of_some.2

theorem Heeds.step (h : Heeds cfg s) {st : Step} (hst : st.Classified cfg) :
    Heeds cfg (step cfg s st).1 := by
  cases st with
  | select text =>
    cases hr : classify cfg (Text.trim text) with
    | ok r => exact h.select hr
    | error f =>
      rw [Step.Classified, hr] at hst
      cases hst
  | fire i => exact h.performTaken (s.deferral.takes_fire i)
  | flush => exact h.performTaken s.deferral.takes_flush
  | cancel => exact heeds_of_none rfl

/-! ## Runs -/

theorem Heeds.run (h : Heeds cfg s) {sts : List Step} (hsts : ∀ st ∈ sts, st.Classified cfg) :
    Heeds cfg (final cfg s sts) := by
  induction sts generalizing s with
  | nil => exact h
  | cons st sts ih =>
    rw [final_cons]
    exact ih (h.step (hsts st List.mem_cons_self)) fun t ht => hsts t (List.mem_cons_of_mem st ht)

/-- In a run from the start, a task that waits is for the current selection if and only if this
selection is not an expression that was shown last. -/
theorem waits_for_current_iff (cfg : Limits) (sts : List Step)
    (hsts : ∀ st ∈ sts, st.Classified cfg) (task : Task)
    (htask : (final cfg start sts).deferral.pending = some task) :
    task.text = (final cfg start sts).current ↔ ¬ PassedOver cfg (final cfg start sts) := by
  exact (heeds_start.run hsts).text_eq_iff (follows_start.run sts) htask

/-- A numeral that is selected again while it is on display. -/
def shownNumeral : List Step := [.select "ff".toList, .fire 0, .select " ff ".toList]

/-- It waits again, for the current selection: only expressions are passed over. -/
theorem waits_for_current_numeral :
    (∀ st ∈ shownNumeral, st.Classified {}) ∧ ∃ task,
      (final {} start shownNumeral).deferral.pending = some task ∧
      (final {} start shownNumeral).current = (final {} start shownNumeral).lastShown ∧
      task.text = (final {} start shownNumeral).current := by
  have hsts : ∀ st ∈ shownNumeral, st.Classified {} := by decide +kernel
  refine ⟨hsts, _, rfl, rfl, (waits_for_current_iff {} shownNumeral hsts _ rfl).2 ?_⟩
  rintro ⟨-, r, hr, hexpression⟩
  cases hr
  cases hexpression

/-- An expression is shown, another one waits, and the first is selected again. -/
def leftWaiting : List Step :=
  [.select "1+1".toList, .fire 0, .select "2+2".toList, .select "1+1".toList]

/-- A task does not always wait for the current selection. -/
theorem not_waits_for_current :
    (∀ st ∈ leftWaiting, st.Classified {}) ∧ ∃ task,
      (final {} start leftWaiting).deferral.pending = some task ∧
      task.text ≠ (final {} start leftWaiting).current :=
  ⟨by decide +kernel, _, rfl, by decide⟩

end Abacus.Session
