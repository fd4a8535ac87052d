import Abacus.Proofs.Session.Display

/-!
# What is shown is the current selection

Nothing but the selection made last is ever shown, with the report of its own kind, whatever timers
go off in between and in whatever order.  An older task may still wait when a selection is passed
over, and it may be taken out later; it is then dropped, since its text is no longer the current
one.

`Follows` is what every step keeps: the current text is the selection made last, and a waiting task
has the kind of its text.
-/

namespace Abacus.Session

variable {cfg : Limits} {s : Session} {sel : Option Text}

/-- The trimmed text that a step selects. -/
def Step.selection? : Step → Option Text
  | .select text => some (Text.trim text)
  | _ => none

/-- The trimmed text of the selection made last. -/
def latest? (sts : List Step) : Option Text := (sts.filterMap Step.selection?).getLast?

/-- The items are the report of a text by the pipeline of its kind. -/
def Reports (cfg : Limits) (t : Text) (items : List Item) : Prop :=
  ∃ r, classify cfg t = .ok r ∧ (r.kind = .numeral ∨ r.kind = .expression) ∧
    run cfg r.kind t = .ok items

/-- The steps do not make a selection. -/
def Keep (sts : List Step) : Prop := ∀ st ∈ sts, st.selection? = none

/-! ## Selections of a sequence of steps -/

theorem latest?_cons (st : Step) (sts : List Step) :
    latest? (st :: sts) = (latest? sts).or st.selection? := by
  cases h : st.selection? with
  | none => simp [latest?, h]
  | some t => simp [latest?, h, List.getLast?_cons]

theorem latest?_append (sts sts' : List Step) :
    latest? (sts ++ sts') = (latest? sts').or (latest? sts) := by
  simp [latest?, List.filterMap_append, List.getLast?_append]

theorem latest?_of_keep {sts : List Step} (h : Keep sts) : latest? sts = none := by
  have hnil : sts.filterMap Step.selection? = [] := List.filterMap_eq_nil_iff.2 h
  rw [latest?, hnil]
  rfl

/-! ## What every step keeps -/

/-- What is true of the session after every step, given the selection made last. -/
structure Follows (cfg : Limits) (s : Session) (sel : Option Text) : Prop where
  current : s.current = sel.getD []
  /-- The waiting task is of the kind of its text, which is one that runs. -/
  waiting : ∀ task, s.deferral.pending = some task →
    ∃ r, classify cfg task.text = .ok r ∧ r.kind = task.kind ∧ r.kind ≠ .ignored

theorem follows_start : Follows cfg start none := ⟨rfl, nofun⟩

/-- A selection shows nothing. -/
theorem not_show_of_select (text : Text) (t : Text) (items : List Item) :
    .show t items ∉ (select cfg s text).2.events := by
  rw [select]
  dsimp only
  split
  · simp [clear]
  split
  · simp
  split
  · simp [clear]
  split <;> simp [quiet]

theorem follows_clear (h : s.current = sel.getD []) : Follows cfg s.clear.1 sel :=
  ⟨h, by simp [clear, Deferral.cancel]⟩

theorem Follows.select (h : Follows cfg s sel) (text : Text) :
    Follows cfg (select cfg s text).1 (some (Text.trim text)) := by
  rw [Session.select]
  dsimp only
  split
  · exact follows_clear rfl
  split
  · exact ⟨rfl, h.waiting⟩
  · rename_i r hr
    split
    · exact follows_clear rfl
    rename_i hkind
    split
    · exact ⟨rfl, h.waiting⟩
    · refine ⟨rfl, ?_⟩
      rintro task ⟨⟩
      exact ⟨r, hr, rfl, hkind⟩

/-- A run changes nothing but the text shown last. -/
theorem perform_fst (cfg : Limits) (s : Session) (task : Task) :
    (perform cfg s task).1.current = s.current ∧ (perform cfg s task).1.deferral = s.deferral := by
  rw [perform]
  split
  · exact ⟨rfl, rfl⟩
  split
  · exact ⟨rfl, rfl⟩
  split <;> exact ⟨rfl, rfl⟩

/-- What a run shows is the report of its task, whose text is the current one. -/
theorem show_of_perform {task : Task} {t : Text} {items : List Item}
    (h : .show t items ∈ (perform cfg s task).2.events) :
    t = task.text ∧ t = s.current ∧ run cfg task.kind t = .ok items := by
  rw [perform] at h
  split at h
  · simp [quiet] at h
  rename_i hcurrent
  split at h
  · rename_i hrun
    cases List.mem_singleton.1 h
    exact ⟨rfl, not_not.1 hcurrent, hrun⟩
  split at h <;> simp at h

theorem Follows.performTaken (h : Follows cfg s sel) {r : Option Task × Deferral Task}
    (hr : s.deferral.Takes r) : Follows cfg (performTaken cfg s r).1 sel := by
  obtain ⟨taken, d⟩ := r
  cases taken with
  | none => exact ⟨h.current, fun task htask => h.waiting task (hr.of_none ▸ htask)⟩
  | some task =>
    obtain ⟨hcurrent, hdeferral⟩ := perform_fst cfg { s with deferral := d } task
    refine ⟨hcurrent.trans h.current, fun task' htask' => ?_⟩
    rw [Session.performTaken, hdeferral] at htask'
    cases hr.of_some.2.symm.trans htask'

/-- What is shown when a task is taken out is the report of the selection made last. -/
theorem Follows.show_of_performTaken (h : Follows cfg s sel) {r : Option Task × Deferral Task}
    (hr : s.deferral.Takes r) {t : Text} {items : List Item}
    (hshow : .show t items ∈ (Session.performTaken cfg s r).2.events) :
    sel = some t ∧ Reports cfg t items := by
  obtain ⟨taken, d⟩ := r
  cases taken with
  | none => simp [Session.performTaken, quiet] at hshow
  | some task =>
    obtain ⟨reason, hreason, hkind, hruns⟩ := h.waiting task hr.of_some.1
    obtain ⟨rfl, hcurrent, hitems⟩ := show_of_perform hshow
    have hsel : task.text = sel.getD [] := hcurrent.trans h.current
    constructor
    · cases sel with
      | some t => exact congrArg some hsel.symm
      | none =>
        -- nothing has been selected, and the empty text is of no kind that runs
        have hnil : task.text = [] := hsel
        rw [hnil, classify_nil] at hreason
        cases hreason
        exact absurd rfl hruns
    · refine ⟨reason, hreason, ?_, hkind ▸ hitems⟩
      cases hk : reason.kind with
      | numeral => exact .inl rfl
      | expression => exact .inr rfl
      | ignored => exact absurd hk hruns

theorem Follows.step (h : Follows cfg s sel) (st : Step) :
    Follows cfg (step cfg s st).1 (st.selection?.or sel) := by
  cases st with
  | select text => exact h.select text
  | fire i => exact h.performTaken (s.deferral.takes_fire i)
  | flush => exact h.performTaken s.deferral.takes_flush
  | cancel => exact ⟨h.current, nofun⟩

theorem Follows.show_of_step (h : Follows cfg s sel) {st : Step} {t : Text} {items : List Item}
    (hshow : .show t items ∈ (Session.step cfg s st).2.events) :
    st.selection?.or sel = some t ∧ Reports cfg t items := by
  cases st with
  | select text => exact absurd hshow (not_show_of_select text t items)
  | fire i => exact h.show_of_performTaken (s.deferral.takes_fire i) hshow
  | flush => exact h.show_of_performTaken s.deferral.takes_flush hshow
  | cancel => simp [Session.step, quiet] at hshow

/-! ## Runs -/

theorem Follows.run (h : Follows cfg s sel) (sts : List Step) :
    Follows cfg (final cfg s sts) ((latest? sts).or sel) := by
  induction sts generalizing s sel with
  | nil => exact h
  | cons st sts ih =>
    rw [final_cons, latest?_cons, Option.or_assoc]
    exact ih (h.step st)

theorem Follows.show_of_history (h : Follows cfg s sel) {sts : List Step} {k : Nat}
    {r : Session × Effect} (hr : (history cfg s sts)[k]? = some r) {t : Text} {items : List Item}
    (hshow : .show t items ∈ r.2.events) :
    (latest? (sts.take (k + 1))).or sel = some t ∧ Reports cfg t items := by
  induction sts generalizing s sel k with
  | nil => simp [history] at hr
  | cons st sts ih =>
    rw [List.take_succ_cons, latest?_cons, Option.or_assoc]
    cases k with
    | zero =>
      rw [history, List.getElem?_cons_zero, Option.some.injEq] at hr
      exact h.show_of_step (hr ▸ hshow)
    | succ k =>
      rw [history, List.getElem?_cons_succ] at hr
      exact ih (h.step st) hr

/-- In a run from the start, what a step shows is the selection made last, with the report of its
kind.  So after a selection that is empty or ignored nothing is shown before another selection. -/
theorem shows_latest (cfg : Limits) :
    (∀ (sts : List Step) (k : Nat) (r : Session × Effect), (history cfg start sts)[k]? = some r →
      ∀ t items, .show t items ∈ r.2.events →
        latest? (sts.take (k + 1)) = some t ∧ Reports cfg t items) ∧
    ∀ (before : List Step) (text : Text) (between : List Step) (reason : Reason),
      classify cfg (Text.trim text) = .ok reason → reason.kind = .ignored → Keep between →
      ∀ r ∈ (history cfg start (before ++ .select text :: between)).drop before.length,
        ∀ t items, .show t items ∉ r.2.events := by
  have hshows : ∀ (sts : List Step) (k : Nat) (r : Session × Effect),
      (history cfg start sts)[k]? = some r → ∀ t items, .show t items ∈ r.2.events →
        latest? (sts.take (k + 1)) = some t ∧ Reports cfg t items := by
    intro sts k r hr t items hshow
    have h := follows_start.show_of_history hr hshow
    rwa [Option.or_none] at h
  refine ⟨hshows, ?_⟩
  intro before text between reason hreason hignored hkeep r hr t items hshow
  obtain ⟨n, hn⟩ := List.mem_iff_getElem?.1 hr
  rw [List.getElem?_drop] at hn
  obtain ⟨hlatest, reason', hreason', hruns, -⟩ := hshows _ _ r hn t items hshow
  -- the ignored selection is the last one up to this step
  have htake : (before ++ .select text :: between).take (before.length + n + 1) =
      before ++ .select text :: between.take n := by
    rw [Nat.add_assoc, List.take_length_add_append, List.take_succ_cons]
  have hkept : Keep (between.take n) := fun st hst => hkeep st (List.mem_of_mem_take hst)
  rw [htake, latest?_append, latest?_cons, latest?_of_keep hkept] at hlatest
  obtain rfl : Text.trim text = t := by simpa [Step.selection?] using hlatest
  rw [hreason] at hreason'
  cases hreason'
  simp [hignored] at hruns

/-- A task that waits while another selection is passed over, then one for a numeral, and at last an
ignored selection with all timers going off again. -/
def overtaken : List Step :=
  [.select "1+1".toList, .fire 0, .select "2+2".toList, .select "1+1".toList, .fire 1,
    .select " ff ".toList, .fire 2, .select "foo".toList, .fire 0, .fire 1, .fire 2, .flush]

/-- The numeral is shown when its timer goes off, and nothing after the ignored selection. -/
theorem shows_latest_overtaken :
    let items := Report.ofConversion (Conversion.ofInt 255 none)
    (∃ s, (history {} start overtaken)[6]? = some (s, ⟨[.show "ff".toList items], none⟩) ∧
      latest? (overtaken.take 7) = some "ff".toList ∧ Reports {} "ff".toList items) ∧
    ∃ reason, classify {} (Text.trim "foo".toList) = .ok reason ∧ reason.kind = .ignored ∧
      Keep (overtaken.drop 8) ∧
      ∀ r ∈ (history {} start overtaken).drop 7, ∀ t items, .show t items ∉ r.2.events := by
  intro items
  constructor
  · refine ⟨_, rfl, ?_⟩
    exact (shows_latest {}).1 overtaken 6 _ rfl _ _ (List.mem_singleton.2 rfl)
  · have hkeep : Keep (overtaken.drop 8) := by
      rw [Keep]
      decide
    refine ⟨_, rfl, rfl, hkeep, ?_⟩
    exact (shows_latest {}).2 (overtaken.take 7) "foo".toList (overtaken.drop 8) _ rfl rfl hkeep

end Abacus.Session
