import Abacus.Selection
import Mathlib.Data.List.Basic

/-!
# What the display shows

With nothing waiting, the display shows the report of the current selection, or is clear if there is
none.  This can fail in one way only: the current text is the one that was shown last, and the
display was cleared after that.  Such a selection counts as shown already and is passed over.

`Tracks` is what every step keeps: what the last event says about the text shown last, which text a
waiting task has, and that the display is in order, or the current text the one shown last, whenever
no task is waiting.
-/

namespace Abacus

/-! ## Taking the waiting job -/

namespace Deferral

variable {α : Type}

/-- What a step of the deferral takes out is the waiting job, and then none is waiting any more. -/
def Takes (d : Deferral α) (r : Option α × Deferral α) : Prop :=
  (r.1 = none ∧ r.2.pending = d.pending) ∨ (r.1 = d.pending ∧ r.2.pending = none)

theorem takes_fire (d : Deferral α) (i : Nat) : Takes d (d.fire i) := by
  rw [fire]
  split
  · split
    · exact .inr ⟨rfl, rfl⟩
    · exact .inl ⟨rfl, rfl⟩
  · exact .inl ⟨rfl, rfl⟩

theorem takes_flush (d : Deferral α) : Takes d d.flush := .inr ⟨rfl, rfl⟩

variable {d d' : Deferral α} {job : α}

/-- Where nothing is taken out, what was waiting still is. -/
theorem Takes.of_none (h : Takes d (none, d')) : d'.pending = d.pending := by
  rcases h with ⟨-, h⟩ | ⟨h, hd⟩
  · exact h
  · exact hd.trans h

theorem Takes.of_some (h : Takes d (some job, d')) :
    d.pending = some job ∧ d'.pending = none := by
  rcases h with ⟨h, -⟩ | ⟨h, hd⟩
  · cases h
  · exact ⟨h.symm, hd⟩

end Deferral

namespace Session

variable {cfg : Limits} {s : Session} {last : Option Event}

/-! ## Runs -/

/-- The state after a sequence of steps. -/
def final (cfg : Limits) (s : Session) (sts : List Step) : Session :=
  ((history cfg s sts).getLast?.map (·.1)).getD s

/-- What the display is told in a sequence of steps. -/
def events (cfg : Limits) (s : Session) (sts : List Step) : List Event :=
  (history cfg s sts).flatMap (·.2.events)

@[simp] theorem final_nil : final cfg s [] = s := rfl

@[simp] theorem events_nil : events cfg s [] = [] := rfl

theorem final_cons (st : Step) (sts : List Step) :
    final cfg s (st :: sts) = final cfg (step cfg s st).1 sts := by
  simp only [final, history]
  cases history cfg (step cfg s st).1 sts with
  | nil => rfl
  | cons r rs => simp [List.getLast?_cons]

theorem events_cons (st : Step) (sts : List Step) :
    events cfg s (st :: sts) = (step cfg s st).2.events ++ events cfg (step cfg s st).1 sts := rfl

/-- The last event once a step has told the display something, or nothing. -/
def lastAfter (last : Option Event) (es : List Event) : Option Event := es.getLast?.or last

@[simp] theorem lastAfter_nil : lastAfter last [] = last := rfl

theorem lastAfter_append (es fs : List Event) :
    lastAfter last (es ++ fs) = lastAfter (lastAfter last es) fs := by
  simp [lastAfter, List.getLast?_append, Option.or_assoc]

/-! ## What should be shown -/

/-- The report of a selection: what its pipeline makes of it, if it is of a kind that runs. -/
def report? (cfg : Limits) (t : Text) : Option (List Item) :=
  match classify cfg t with
  | .ok r => if r.kind = .ignored then none else (run cfg r.kind t).toOption
  | .error _ => none

/-- The display agrees with a selection: it was last told to show the report of the selection, or
was last cleared, or never told anything, if there is no report. -/
def Agrees (cfg : Limits) (t : Text) (last : Option Event) : Prop :=
  match report? cfg t with
  | some items => last = some (.show t items)
  | none => last = none ∨ last = some .clear

/-- The current text is the one shown last, and the display was cleared after that. -/
def Stale (s : Session) (last : Option Event) : Prop :=
  s.current ≠ [] ∧ s.current = s.lastShown ∧ last = some .clear

theorem agrees_of_report {t : Text} {items : List Item} (h : report? cfg t = some items) :
    Agrees cfg t last ↔ last = some (.show t items) := by
  rw [Agrees, h]

theorem agrees_of_no_report {t : Text} (h : report? cfg t = none) :
    Agrees cfg t last ↔ last = none ∨ last = some .clear := by
  rw [Agrees, h]

theorem report?_of_ignored {t : Text} {r : Reason} (h : classify cfg t = .ok r)
    (hr : r.kind = .ignored) : report? cfg t = none := by
  rw [report?, h]
  exact if_pos hr

theorem report?_of_classify {t : Text} {r : Reason} (h : classify cfg t = .ok r)
    (hr : r.kind ≠ .ignored) : report? cfg t = (run cfg r.kind t).toOption := by
  rw [report?, h]
  exact if_neg hr

theorem classify_nil : classify cfg [] = .ok .empty := rfl

theorem report?_nil : report? cfg [] = none := report?_of_ignored classify_nil rfl

/-! ## Running a classified text -/

/-- A text that is classified as a numeral has a tag that can be read, or none. -/
theorem numeral_tag_ok {t : Text} {r : Reason} (h : classify cfg t = .ok r)
    (hr : r.kind = .numeral) {f : Numeral.TagFault} :
    Numeral.ofText t ≠ .error (.tag f) := by
  intro hf
  rw [Numeral.ofText] at hf
  simp only [classify] at h
  split at h
  · cases h
    cases hr
  split at h
  · cases h
    cases hr
  split at hf
  · cases hf
  split at hf
  · rename_i htarget
    rw [if_pos htarget] at h
    split at hf
    · rename_i hbase
      rw [hbase] at h
      cases h
    · cases hf
  · cases hf

/-- The pipeline of a classified text fails with a message for the author of the text only. -/
theorem isSome_report?_of_run {t : Text} {r : Reason} (h : classify cfg t = .ok r)
    (hr : r.kind ≠ .ignored) {f : Failure} (hf : run cfg r.kind t = .error f) :
    f.report?.isSome := by
  cases hk : r.kind with
  | ignored => exact absurd hk hr
  | expression =>
    rw [hk, run] at hf
    split at hf
    · cases hf
    · cases hf
      rfl
  | numeral =>
    rw [hk, run, Conversion.ofText] at hf
    cases hn : Numeral.ofText t with
    | ok n =>
      rw [hn] at hf
      cases hf
    | error g =>
      rw [hn] at hf
      cases hf
      cases hg : f with
      | numeral => rfl
      | expression => rfl
      | tag => exact absurd (hg ▸ hn) (numeral_tag_ok h hk)
      | notRunnable =>
        -- reading a numeral has no such failure
        rw [hg, Numeral.ofText] at hn
        grind

/-! ## What every step keeps -/

/-- A waiting task is for a text of a kind that runs, and for the current text unless the current
text is the one shown last. -/
structure Awaits (cfg : Limits) (s : Session) (task : Task) : Prop where
  runs : ∃ r, classify cfg task.text = .ok r ∧ r.kind = task.kind ∧ r.kind ≠ .ignored
  current : task.text = s.current ∨ s.current ≠ [] ∧ s.current = s.lastShown

/-- What is true of the session and the last event after every step. -/
structure Tracks (cfg : Limits) (s : Session) (last : Option Event) : Prop where
  /-- A report on display is the one of the text shown last. -/
  shown : ∀ t items, last = some (.show t items) → t = s.lastShown ∧ report? cfg t = some items
  /-- The text shown last has a report, and the display was told something. -/
  known : s.lastShown ≠ [] → last ≠ none ∧ (report? cfg s.lastShown).isSome
  /-- The waiting task, if there is one. -/
  waiting : ∀ task, s.deferral.pending = some task → Awaits cfg s task
  /-- With nothing waiting, the display is in order or the current text is the one shown last. -/
  settled : s.deferral.pending = none →
    Agrees cfg s.current last ∨ s.current ≠ [] ∧ s.current = s.lastShown

theorem tracks_start : Tracks cfg start none where
  shown := by rintro _ _ ⟨⟩
  known := fun h => absurd rfl h
  waiting := by rintro _ ⟨⟩
  settled := fun _ => .inl ((agrees_of_no_report report?_nil).2 (.inl rfl))

/-- With nothing waiting, the display agrees with the current text unless that text is stale. -/
theorem Tracks.agrees_iff (h : Tracks cfg s last) (hpending : s.deferral.pending = none) :
    Agrees cfg s.current last ↔ ¬ Stale s last := by
  constructor
  · rintro hagrees ⟨hne, hlast, hclear⟩
    obtain ⟨items, hitems⟩ := Option.isSome_iff_exists.1 (h.known (hlast ▸ hne)).2
    rw [← hlast] at hitems
    have := (agrees_of_report hitems).1 hagrees
    rw [hclear] at this
    cases this
  · intro hstale
    rcases h.settled hpending with hagrees | ⟨hne, hlast⟩
    · exact hagrees
    · have htold := (h.known (hlast ▸ hne)).1
      match hev : last with
      | none => exact absurd rfl htold
      | some .clear => exact absurd ⟨hne, hlast, rfl⟩ hstale
      | some (.show t items) =>
        obtain ⟨rfl, hitems⟩ := h.shown t items rfl
        rw [hlast]
        exact (agrees_of_report hitems).2 rfl

/-! ## The steps -/

/-- Giving up the waiting task and clearing the display suits a text without a report. -/
theorem Tracks.clear (h : Tracks cfg s last) {t shown : Text} (ht : report? cfg t = none)
    (hshown : shown = [] ∨ shown = s.lastShown) :
    Tracks cfg ({ s with current := t, lastShown := shown }.clear).1 (some .clear) where
  shown := by rintro _ _ ⟨⟩
  known := by
    intro hne
    rcases hshown with rfl | rfl
    · exact absurd rfl hne
    · exact ⟨nofun, (h.known hne).2⟩
  waiting := by rintro _ ⟨⟩
  settled := fun _ => .inl ((agrees_of_no_report ht).2 (.inr rfl))

/-- A new selection, of a text that can be classified. -/
theorem Tracks.select (h : Tracks cfg s last) {text : Text} {r : Reason}
    (hr : classify cfg (Text.trim text) = .ok r) :
    Tracks cfg (select cfg s text).1 (lastAfter last (select cfg s text).2.events) := by
  by_cases hempty : (Text.trim text).isEmpty
  · have hnil : Text.trim text = [] := List.isEmpty_iff.1 hempty
    simp only [Session.select, hempty, if_true]
    exact h.clear (hnil ▸ report?_nil) (.inl rfl)
  have hne : Text.trim text ≠ [] := by simpa using hempty
  simp only [Session.select, hempty, Bool.false_eq_true, if_false, hr]
  by_cases hkind : r.kind = .ignored
  · -- an ignored text clears the display and leaves the text shown last as it is
    rw [if_pos hkind]
    exact h.clear (report?_of_ignored hr hkind) (.inr rfl)
  rw [if_neg hkind]
  split
  · -- the text shown last is passed over, with whatever is waiting
    rename_i hrepeat
    have hlast : Text.trim text = s.lastShown := by
      simp only [Bool.and_eq_true, beq_iff_eq] at hrepeat
      exact hrepeat.2
    refine ⟨h.shown, h.known, ?_, ?_⟩
    · intro task htask
      exact ⟨(h.waiting task htask).runs, .inr ⟨hne, hlast⟩⟩
    · intro _
      exact .inr ⟨hne, hlast⟩
  · refine ⟨h.shown, h.known, ?_, ?_⟩
    · rintro task ⟨⟩
      exact ⟨⟨r, hr, rfl, hkind⟩, .inl rfl⟩
    · rintro ⟨⟩

/-- A task is run once it has been taken out. -/
theorem Tracks.perform (h : Tracks cfg s last) {task : Task} (htask : Awaits cfg s task)
    {d : Deferral Task} (hd : d.pending = none) :
    Tracks cfg (perform cfg { s with deferral := d } task).1
      (lastAfter last (perform cfg { s with deferral := d } task).2.events) := by
  obtain ⟨r, hr, hkind, hrun⟩ := htask.runs
  have hwaiting : ∀ (P : Task → Prop) task, d.pending = some task → P task := fun P task ht => by
    rw [hd] at ht
    cases ht
  by_cases hcur : task.text = s.current
  · have hreport := report?_of_classify hr hrun
    rw [hkind] at hreport
    simp only [Session.perform, hcur, ne_eq, not_true_eq_false, if_false]
    rw [hcur] at hr hreport
    cases hres : run cfg task.kind s.current with
    | ok items =>
      have hitems : report? cfg s.current = some items := by rw [hreport, hres]; rfl
      refine ⟨?_, ?_, hwaiting _, ?_⟩
      · rintro t items' ⟨⟩
        exact ⟨rfl, hitems⟩
      · intro _
        exact ⟨nofun, by simp [hitems]⟩
      · intro _
        exact .inl ((agrees_of_report hitems).2 rfl)
    | error f =>
      have hnone : report? cfg s.current = none := by rw [hreport, hres]; rfl
      obtain ⟨m, hm⟩ := Option.isSome_iff_exists.1 (isSome_report?_of_run hr hrun (hkind ▸ hres))
      simp only [hm]
      refine ⟨?_, ?_, hwaiting _, ?_⟩
      · rintro t items' ⟨⟩
      · intro hne
        exact ⟨nofun, (h.known hne).2⟩
      · intro _
        exact .inl ((agrees_of_no_report hnone).2 (.inr rfl))
  · -- a task for another text is dropped: the current text is the one shown last
    simp only [Session.perform, ne_eq, hcur, not_false_eq_true, if_true]
    refine ⟨h.shown, h.known, hwaiting _, ?_⟩
    intro _
    exact .inr (htask.current.resolve_left hcur)

/-- A timer that goes off, or a flush. -/
theorem Tracks.performTaken (h : Tracks cfg s last) {r : Option Task × Deferral Task}
    (hr : s.deferral.Takes r) :
    Tracks cfg (performTaken cfg s r).1 (lastAfter last (performTaken cfg s r).2.events) := by
  obtain ⟨taken, d⟩ := r
  cases taken with
  | none =>
    refine ⟨h.shown, h.known, ?_, ?_⟩
    · intro task htask
      have hawaits := h.waiting task (hr.of_none ▸ htask)
      exact ⟨hawaits.runs, hawaits.current⟩
    · intro hnone
      exact h.settled (hr.of_none ▸ hnone)
  | some task =>
    obtain ⟨htask, hd⟩ := hr.of_some
    exact h.perform (h.waiting task htask) hd

/-- The steps that are looked at: selections of texts that can be classified, timers and flushes. -/
def Step.Admissible (cfg : Limits) : Step → Prop
  | .select text => (classify cfg (Text.trim text)).isOk
  | .fire _ => True
  | .flush => True
  | .cancel => False

instance (cfg : Limits) (st : Step) : Decidable (st.Admissible cfg) :=
  match st with
  | .select text => inferInstanceAs (Decidable ((classify cfg (Text.trim text)).isOk = true))
  | .fire _ => .isTrue trivial
  | .flush => .isTrue trivial
  | .cancel => .isFalse id

theorem Tracks.step (h : Tracks cfg s last) {st : Step} (hst : st.Admissible cfg) :
    Tracks cfg (step cfg s st).1 (lastAfter last (step cfg s st).2.events) := by
  cases st with
  | select text =>
    cases hr : classify cfg (Text.trim text) with
    | ok r => exact h.select hr
    | error f => simp [Step.Admissible, hr, Except.isOk, Except.toBool] at hst
  | fire i => exact h.performTaken (s.deferral.takes_fire i)
  | flush => exact h.performTaken s.deferral.takes_flush
  | cancel => exact hst.elim

theorem Tracks.run (h : Tracks cfg s last) {sts : List Step}
    (hsts : ∀ st ∈ sts, st.Admissible cfg) :
    Tracks cfg (final cfg s sts) (lastAfter last (events cfg s sts)) := by
  induction sts generalizing s last with
  | nil =>
    rw [final_nil, events_nil, lastAfter_nil]
    exact h
  | cons st sts ih =>
    rw [final_cons, events_cons, lastAfter_append]
    exact ih (h.step (hsts st List.mem_cons_self)) fun t ht => hsts t (List.mem_cons_of_mem st ht)

/-- In a run from the start, whenever nothing is waiting, the display agrees with the current
selection if and only if the selection is not stale. -/
theorem agrees_iff_not_stale (cfg : Limits) (sts : List Step)
    (hsts : ∀ st ∈ sts, st.Admissible cfg)
    (hpending : (final cfg start sts).deferral.pending = none) :
    Agrees cfg (final cfg start sts).current (events cfg start sts).getLast? ↔
      ¬ Stale (final cfg start sts) (events cfg start sts).getLast? := by
  have h : Tracks cfg (final cfg start sts) _ := tracks_start.run hsts
  rw [lastAfter, Option.or_none] at h
  exact h.agrees_iff hpending

/-- A selection that is passed over while another task waits, which is then dropped. -/
def passedOver : List Step :=
  [.select "1+1".toList, .fire 0, .select "2+2".toList, .select " 1+1".toList, .fire 1, .fire 0]

theorem agrees_passedOver :
    (∀ st ∈ passedOver, st.Admissible {}) ∧ (final {} start passedOver).deferral.pending = none ∧
      Agrees {} (final {} start passedOver).current (events {} start passedOver).getLast? := by
  have hsts : ∀ st ∈ passedOver, st.Admissible {} := by decide +kernel
  have hpending : (final {} start passedOver).deferral.pending = none := rfl
  refine ⟨hsts, hpending, (agrees_iff_not_stale {} passedOver hsts hpending).2 ?_⟩
  rintro ⟨-, -, hclear⟩
  have hshow : ((events {} start passedOver).getLast?.map fun e =>
      match e with | .show _ _ => true | .clear => false) = some true := rfl
  rw [hclear] at hshow
  cases hshow

/-- An expression is shown, an ignored text clears the display, and the expression is selected
again. -/
def clearedBetween : List Step :=
  [.select "1+1".toList, .fire 0, .select "foo".toList, .select "1+1".toList]

/-- The display does not always agree with the current selection when nothing is waiting. -/
theorem not_agrees_clearedBetween :
    (∀ st ∈ clearedBetween, st.Admissible {}) ∧
      (final {} start clearedBetween).deferral.pending = none ∧
      ¬ Agrees {} (final {} start clearedBetween).current
        (events {} start clearedBetween).getLast? := by
  refine ⟨by decide +kernel, rfl, ?_⟩
  have hlast : (events {} start clearedBetween).getLast? = some .clear := rfl
  have hreport : (report? {} (final {} start clearedBetween).current).isSome := by decide +kernel
  obtain ⟨items, hitems⟩ := Option.isSome_iff_exists.1 hreport
  rw [agrees_of_report hitems, hlast]
  exact nofun

end Session

end Abacus
