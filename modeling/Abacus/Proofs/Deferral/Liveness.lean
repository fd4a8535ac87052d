import Abacus.Proofs.Deferral.Slot

/-!
# At most one timer is live

A timer is live from the moment it is created until it is given up or goes off and starts its job.
While a job waits there is exactly one live timer, which would start that job; while none waits
there is no live timer.  A timer that is not live starts nothing, however often it goes off.

`Tends` adds to the refinement of the slot what is needed for this: the timer that may be given up
is the one that the slot names, and it is the live one.
-/

namespace Abacus.Deferral

variable {α : Type}

/-! ## Stages of a run -/

/-- A step that was carried out, the job it started, and the state it led to. -/
structure Stage (α : Type) where
  step : Step α
  started : Option (Job α)
  state : Deferral (Job α)

/-- The stages of a sequence of steps.  The steps of a started job come before those that follow. -/
def stages (d : Deferral (Job α)) : List (Step α) → List (Stage α)
  | [] => []
  | s :: ss =>
      ⟨s, (d.advance s).1, (d.advance s).2⟩ ::
        stages (d.advance s).2 (bodyOf (d.advance s).1 ++ ss)
termination_by ss => d.pendingWeight + Step.weights ss
decreasing_by
  have := advance_weight d s
  simp only [Step.weights_append, Step.weights_cons]
  omega

/-- The history lists the jobs and states of the stages. -/
theorem history_eq_map_stages (d : Deferral (Job α)) (ss : List (Step α)) :
    history d ss = (stages d ss).map fun g => (g.started.map (·.1), g.state) := by
  induction hn : d.pendingWeight + Step.weights ss using Nat.strongRecOn generalizing d ss with
  | _ n ih =>
    cases ss with
    | nil => rw [history, stages, List.map_nil]
    | cons s ss =>
      have hweight := advance_weight d s
      rw [Step.weights_cons] at hn
      rw [history, stages, List.map_cons, ih _ ?_ _ _ rfl]
      rw [Step.weights_append]
      omega

/-- The timer has been created and not given up, and it has not gone off and started a job. -/
structure Live (past : List (Stage α)) (d : Deferral (Job α)) (i : Nat) : Prop where
  kept : ∃ t, d.timers[i]? = some t ∧ t.cancelled = false
  unspent : ∀ g ∈ past, g.step = .fire i → g.started = none

/-! ## Timers after a step -/

theorem giveUp_of_kept {ts : List Timer} {o : Option Nat} {i : Nat} {t : Timer}
    (h : (giveUp ts o)[i]? = some t) (ht : t.cancelled = false) : ts[i]? = some t ∧ o ≠ some i := by
  cases o with
  | none => exact ⟨h, nofun⟩
  | some k =>
    rw [giveUp, List.getElem?_modify, Option.map_eq_map, Option.map_eq_some_iff] at h
    obtain ⟨u, hu, rfl⟩ := h
    by_cases hk : k = i
    · rw [if_pos hk] at ht
      cases ht
    · rw [if_neg hk]
      refine ⟨hu, ?_⟩
      rintro ⟨⟩
      exact hk rfl

/-- A timer that goes off changes nothing, or it takes the waiting job out and is not given up. -/
theorem fire_cases (d : Deferral α) (i : Nat) :
    d.fire i = (none, d) ∨ d.fire i = (d.pending, { d with current := none, pending := none }) := by
  rw [fire]
  split
  · split
    · exact .inr rfl
    · exact .inl rfl
  · exact .inl rfl

theorem fire_of_none {d : Deferral α} {i : Nat} (h : d.timers[i]? = none) :
    d.fire i = (none, d) := by
  rw [fire, h]

/-- The timer that the slot names takes the job out of it. -/
theorem Slot.fire_of_named {c : Slot α} {job : α} {i : Nat} (h : c.held = some (job, i)) :
    c.fire i = (some job, c.cancel) := by
  rw [Slot.fire, h]
  exact if_pos rfl

theorem Slot.fire_of_not_named {c : Slot α} {i : Nat} (h : ∀ job, c.held ≠ some (job, i)) :
    c.fire i = (none, c) := by
  rw [Slot.fire]
  split
  · rename_i job j hjob
    rw [if_neg]
    rintro rfl
    exact h job hjob
  · rfl

/-! ## What every step keeps -/

section

variable {d : Deferral (Job α)} {c : Slot (Job α)} {past : List (Stage α)}

/-- The slot names the live timer, which is the one that scheduling, flushing and cancelling give
up. -/
structure Tends (d : Deferral (Job α)) (c : Slot (Job α)) (past : List (Stage α)) : Prop extends
    Refines d c where
  current : d.current = c.held.map (·.2)
  /-- A timer that has started a job has been created. -/
  created_of_started : ∀ g ∈ past, ∀ i, g.step = .fire i → g.started ≠ none → i < d.timers.length
  live_iff : ∀ i, Live past d i ↔ ∃ job, c.held = some (job, i)

theorem tends_idle : Tends (idle : Deferral (Job α)) .empty [] where
  toRefines := refines_idle
  current := rfl
  created_of_started := nofun
  live_iff := by
    intro i
    constructor
    · rintro ⟨⟨t, ht, -⟩, -⟩
      cases ht
    · rintro ⟨job, hjob⟩
      cases hjob

/-- The timers that have started jobs are among the first ones, after one more stage as before. -/
theorem created_append {n : Nat}
    (h : ∀ g ∈ past, ∀ i, g.step = .fire i → g.started ≠ none → i < n) {g : Stage α}
    (hg : ∀ i, g.step = .fire i → g.started ≠ none → i < n) :
    ∀ g' ∈ past ++ [g], ∀ i, g'.step = .fire i → g'.started ≠ none → i < n := by
  intro g' hg'
  rcases List.mem_append.1 hg' with hg' | hg'
  · exact h g' hg'
  · rw [List.mem_singleton.1 hg']
    exact hg

/-- Giving up the waiting job leaves no timer live. -/
theorem Tends.cancel (h : Tends d c past) {g : Stage α} (hg : ∀ i, g.step ≠ .fire i) :
    Tends d.cancel c.cancel (past ++ [g]) where
  toRefines := h.toRefines.cancel
  current := rfl
  created_of_started := by
    refine created_append ?_ fun i hi => absurd hi (hg i)
    intro g' hg' i hi hstarted
    have hlt := h.created_of_started g' hg' i hi hstarted
    rwa [Deferral.cancel, length_giveUp]
  live_iff := by
    intro i
    constructor
    · rintro ⟨⟨t, ht, hkept⟩, hunspent⟩
      obtain ⟨hold, hcurrent⟩ := giveUp_of_kept ht hkept
      have hlive : Live past d i :=
        ⟨⟨t, hold, hkept⟩, fun g' hg' => hunspent g' (List.mem_append_left [g] hg')⟩
      obtain ⟨job, hjob⟩ := (h.live_iff i).1 hlive
      rw [h.current, hjob] at hcurrent
      exact absurd rfl hcurrent
    · rintro ⟨job, hjob⟩
      cases hjob

/-- The new timer is live, and it alone. -/
theorem Tends.schedule (h : Tends d c past) (job : Job α) {g : Stage α}
    (hg : ∀ i, g.step ≠ .fire i) : Tends (d.schedule job) (c.schedule job) (past ++ [g]) := by
  have hcancel : Tends d.cancel c.cancel (past ++ [g]) := h.cancel hg
  have hlen : d.cancel.timers.length = c.created := hcancel.created
  have htimers : (d.schedule job).timers =
      d.cancel.timers ++ [⟨d.cancel.generation + 1, false⟩] := rfl
  refine ⟨h.toRefines.schedule job, congrArg some hlen, ?_, ?_⟩
  · intro g' hg' i hi hstarted
    have hlt := hcancel.created_of_started g' hg' i hi hstarted
    rw [htimers, List.length_append]
    exact Nat.lt_add_right _ hlt
  intro i
  constructor
  · rintro ⟨⟨t, ht, hkept⟩, hunspent⟩
    rw [htimers, List.getElem?_append] at ht
    split at ht
    · -- an older timer is not live any more
      obtain ⟨job', hjob'⟩ := (hcancel.live_iff i).1 ⟨⟨t, ht, hkept⟩, hunspent⟩
      cases hjob'
    · obtain ⟨hlt, -⟩ := List.getElem?_eq_some_iff.1 ht
      rw [List.length_singleton] at hlt
      obtain rfl : i = c.created := by omega
      exact ⟨job, rfl⟩
  · rintro ⟨job', hjob'⟩
    obtain rfl : c.created = i := congrArg Prod.snd (Option.some.inj hjob')
    constructor
    · refine ⟨⟨d.cancel.generation + 1, false⟩, ?_, rfl⟩
      rw [htimers, ← hlen, List.getElem?_append_right (Nat.le_refl _), Nat.sub_self]
      rfl
    · -- no timer with this number has gone off before
      intro g' hg' hi
      by_contra hstarted
      have hlt := hcancel.created_of_started g' hg' c.created hi hstarted
      omega

/-- The timer that the slot names starts the waiting job. -/
theorem Tends.fire_of_named (h : Tends d c past) {job : Job α} {i : Nat}
    (hheld : c.held = some (job, i)) :
    d.fire i = (some job, { d with current := none, pending := none }) := by
  have hpending : d.pending = some job := by rw [h.pending, hheld, Option.map_some]
  have hstarted : (d.fire i).1 = some job := by
    rw [(h.toRefines.fire i).1, Slot.fire_of_named hheld]
  rcases fire_cases d i with hd | hd
  · rw [hd] at hstarted
    cases hstarted
  · rw [hd, hpending]

/-- Any other timer changes nothing. -/
theorem Tends.fire_of_not_named (h : Tends d c past) {i : Nat}
    (hheld : ∀ job, c.held ≠ some (job, i)) : d.fire i = (none, d) := by
  have hstarted : (d.fire i).1 = none := by
    rw [(h.toRefines.fire i).1, Slot.fire_of_not_named hheld]
  rcases fire_cases d i with hd | hd
  · exact hd
  · -- the current generation, in which no job waits any more
    have hpending : d.pending = none := by rw [← hstarted, hd]
    have hnone : c.held = none := by
      have := h.pending
      rw [hpending] at this
      exact Option.map_eq_none_iff.1 this.symm
    have hcurrent : d.current = none := by rw [h.current, hnone, Option.map_none]
    rw [hd, ← hpending, ← hcurrent]

/-- The live timer is spent when it goes off; any other one goes off for nothing. -/
theorem Tends.fire (h : Tends d c past) (i : Nat) :
    Tends (d.fire i).2 (c.fire i).2 (past ++ [⟨.fire i, (d.fire i).1, (d.fire i).2⟩]) := by
  have hrefines := (h.toRefines.fire i).2
  have hcreated : ∀ g ∈ past ++ [⟨.fire i, (d.fire i).1, (d.fire i).2⟩], ∀ j, g.step = .fire j →
      g.started ≠ none → j < d.timers.length := by
    refine created_append h.created_of_started ?_
    rintro j ⟨⟩ hne
    by_contra hlt
    rw [fire_of_none (List.getElem?_eq_none (Nat.le_of_not_lt hlt))] at hne
    exact hne rfl
  by_cases hnamed : ∃ job, c.held = some (job, i)
  · obtain ⟨job, hheld⟩ := hnamed
    rw [h.fire_of_named hheld] at hrefines hcreated ⊢
    rw [Slot.fire_of_named hheld] at hrefines ⊢
    refine ⟨hrefines, rfl, hcreated, ?_⟩
    intro j
    constructor
    · intro hlive
      -- the timer that was live is the one that has just been spent
      have hold : Live past d j :=
        ⟨hlive.kept, fun g hg => hlive.unspent g (List.mem_append_left _ hg)⟩
      obtain ⟨job', hjob'⟩ := (h.live_iff j).1 hold
      obtain rfl : i = j := by
        rw [hheld] at hjob'
        exact congrArg Prod.snd (Option.some.inj hjob')
      have hspent := hlive.unspent _ (List.mem_append_right past (List.mem_singleton_self _)) rfl
      cases hspent
    · rintro ⟨job', hjob'⟩
      cases hjob'
  · have hheld : ∀ job, c.held ≠ some (job, i) := fun job hjob => hnamed ⟨job, hjob⟩
    rw [h.fire_of_not_named hheld] at hrefines hcreated ⊢
    rw [Slot.fire_of_not_named hheld] at hrefines ⊢
    refine ⟨hrefines, h.current, hcreated, ?_⟩
    intro j
    rw [← h.live_iff j]
    constructor
    · intro hlive
      exact ⟨hlive.kept, fun g hg => hlive.unspent g (List.mem_append_left _ hg)⟩
    · intro hlive
      refine ⟨hlive.kept, fun g hg hj => ?_⟩
      rcases List.mem_append.1 hg with hg | hg
      · exact hlive.unspent g hg hj
      · rw [List.mem_singleton.1 hg]

theorem Tends.advance (h : Tends d c past) (s : Step α) :
    Tends (d.advance s).2 (c.advance s).2
      (past ++ [⟨s, (d.advance s).1, (d.advance s).2⟩]) := by
  cases s with
  | schedule label body => exact h.schedule (label, body) nofun
  | fire i => exact h.fire i
  | flush => exact h.cancel nofun
  | cancel => exact h.cancel nofun

/-! ## Runs -/

/-- The slot names the live timer at every stage of a run. -/
theorem Tends.stages (h : Tends d c past) {ss : List (Step α)} {before after : List (Stage α)}
    {g : Stage α} (hstages : Deferral.stages d ss = before ++ g :: after) :
    ∃ c', Tends g.state c' (past ++ (before ++ [g])) := by
  induction before generalizing d c past ss with
  | nil =>
    cases ss with
    | nil =>
      rw [Deferral.stages] at hstages
      cases hstages
    | cons s ss =>
      rw [Deferral.stages] at hstages
      obtain ⟨rfl, -⟩ := List.cons.inj hstages
      exact ⟨_, h.advance s⟩
  | cons e before ih =>
    cases ss with
    | nil =>
      rw [Deferral.stages] at hstages
      cases hstages
    | cons s ss =>
      rw [Deferral.stages] at hstages
      obtain ⟨rfl, hrest⟩ := List.cons.inj hstages
      obtain ⟨c', hc'⟩ := ih (h.advance s) hrest
      rw [List.append_assoc] at hc'
      exact ⟨c', hc'⟩

end

/-- After every step of a run, those of the jobs it starts included: if a job waits, exactly one
timer is live, and it would start that job; if none waits, no timer is live.  A timer that is not
live, in particular one that was given up, starts nothing. -/
theorem live_iff_waiting (ss : List (Step α)) (before : List (Stage α)) (g : Stage α)
    (after : List (Stage α)) (h : stages idle ss = before ++ g :: after) :
    (∀ job, g.state.pending = some job →
      ∃ i, (∀ j, Live (before ++ [g]) g.state j ↔ j = i) ∧ (g.state.fire i).1 = some job) ∧
    (g.state.pending = none → ∀ j, ¬ Live (before ++ [g]) g.state j) ∧
    (∀ j, ¬ Live (before ++ [g]) g.state j → (g.state.fire j).1 = none) ∧
    ∀ j t, g.state.timers[j]? = some t → t.cancelled = true → (g.state.fire j).1 = none := by
  obtain ⟨c, hc⟩ := tends_idle.stages h
  rw [List.nil_append] at hc
  have hidle : ∀ j, ¬ Live (before ++ [g]) g.state j → (g.state.fire j).1 = none := by
    intro j hlive
    have hheld : ∀ job, c.held ≠ some (job, j) := fun job hjob =>
      hlive ((hc.live_iff j).2 ⟨job, hjob⟩)
    rw [hc.fire_of_not_named hheld]
  refine ⟨?_, ?_, hidle, ?_⟩
  · intro job hjob
    have hsome := hc.pending
    rw [hjob] at hsome
    obtain ⟨⟨job', i⟩, hheld, rfl⟩ := Option.map_eq_some_iff.1 hsome.symm
    refine ⟨i, ?_, by rw [hc.fire_of_named hheld]⟩
    intro j
    rw [hc.live_iff j, hheld]
    constructor
    · rintro ⟨job, hjob⟩
      exact (congrArg Prod.snd (Option.some.inj hjob)).symm
    · rintro rfl
      exact ⟨job', rfl⟩
  · intro hnone j hlive
    obtain ⟨job, hjob⟩ := (hc.live_iff j).1 hlive
    have hpending := hc.pending
    rw [hnone, hjob] at hpending
    cases hpending
  · intro j t ht hcancelled
    apply hidle
    rintro ⟨⟨u, hu, hkept⟩, -⟩
    rw [ht] at hu
    cases hu
    rw [hcancelled] at hkept
    cases hkept

/-- In the middle of the first job, which has scheduled another one, the timer of that one is live
and the timer of the first job is spent. -/
theorem live_iff_waiting_nested :
    ∃ before g after, stages idle nested = before ++ g :: after ∧ before.length = 2 ∧
      g.state.pending = some (2, [.flush]) ∧ (∀ j, Live (before ++ [g]) g.state j ↔ j = 1) ∧
      (g.state.fire 1).1 = some (2, [.flush]) ∧ (g.state.fire 0).1 = none := by
  have hstages : ∃ before g after, stages idle nested = before ++ g :: after ∧ before.length = 2 ∧
      g.state = ⟨4, [⟨2, false⟩, ⟨4, false⟩], some 1, some (2, [.flush])⟩ := by
    simp only [nested, stages, advance, bodyOf, Deferral.fire, Deferral.schedule, Deferral.cancel,
      idle, giveUp, List.nil_append, List.cons_append, List.getElem?_cons_zero, if_true]
    exact ⟨[_, _], _, _, rfl, rfl, rfl⟩
  obtain ⟨before, g, after, h, hlen, hstate⟩ := hstages
  have hpending : g.state.pending = some (2, [.flush]) := by rw [hstate]
  have hzero : (g.state.fire 0).1 = none := by
    rw [hstate]
    rfl
  obtain ⟨hwaiting, -, -⟩ := live_iff_waiting nested before g after h
  obtain ⟨i, hlive, hfire⟩ := hwaiting _ hpending
  have hi : i < 2 := by
    by_contra hlt
    have htimers : g.state.timers[i]? = none := by
      rw [hstate]
      exact List.getElem?_eq_none (Nat.le_of_not_lt hlt)
    rw [fire_of_none htimers] at hfire
    cases hfire
  obtain rfl : i = 1 := by
    cases i with
    | zero =>
      rw [hzero] at hfire
      cases hfire
    | succ i => omega
  exact ⟨before, g, after, h, hlen, hpending, hlive, hfire, hzero⟩

end Abacus.Deferral
