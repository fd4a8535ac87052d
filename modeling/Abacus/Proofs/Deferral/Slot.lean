import Abacus.Deferral.History
import Mathlib.Data.List.Basic

/-!
# One place for a waiting job

Deferral by generations does what a single slot does.  The slot holds the waiting job together with
the number of its timer; scheduling fills it anew, and only the timer it names can empty it by going
off.

A run is told in moves, one for every step that is carried out, the steps of a started job nested
between the step that started it and the next one.  `Refines` relates the two machines: a timer in
the current generation is the one that the slot names, and no two timers share a generation.
-/

namespace Abacus.Deferral

variable {α : Type}

/-! ## Runs of nested steps -/

/-- One step that was carried out. -/
structure Move (α : Type) where
  step : Step α
  /-- The job that the step started. -/
  started : Option (Job α)
  /-- Whether a job waits when the step has been taken, before the started job takes its own. -/
  waiting : Bool
  /-- Whether a job waits when the started job has ended. -/
  settled : Bool

/-- A machine that jobs are scheduled with: what a step starts and leads to, and whether a job is
waiting. -/
structure Machine (α σ : Type) where
  advance : σ → Step α → Option (Job α) × σ
  waits : σ → Bool

/-- The runs of a machine.  A started job takes its own steps to their end before the run goes
on. -/
inductive Machine.Run {σ : Type} (m : Machine α σ) : σ → List (Step α) → List (Move α) → σ → Prop
  | nil (x : σ) : m.Run x [] [] x
  | cons {x y z : σ} {s : Step α} {ss : List (Step α)} {inner outer : List (Move α)} :
      m.Run (m.advance x s).2 (bodyOf (m.advance x s).1) inner y → m.Run y ss outer z →
      m.Run x (s :: ss)
        (⟨s, (m.advance x s).1, m.waits (m.advance x s).2, m.waits y⟩ :: (inner ++ outer)) z

/-- A machine has one run of given steps. -/
theorem Machine.Run.unique {σ : Type} {m : Machine α σ} {x y y' : σ} {ss : List (Step α)}
    {moves moves' : List (Move α)} (h : m.Run x ss moves y) (h' : m.Run x ss moves' y') :
    moves = moves' ∧ y = y' := by
  induction h generalizing moves' y' with
  | nil x =>
    cases h'
    exact ⟨rfl, rfl⟩
  | cons _ _ ihinner ihouter =>
    cases h' with
    | cons hinner houter =>
      obtain ⟨rfl, rfl⟩ := ihinner hinner
      obtain ⟨rfl, rfl⟩ := ihouter houter
      exact ⟨rfl, rfl⟩

/-- Deferral by generations. -/
def machine (α : Type) : Machine α (Deferral (Job α)) := ⟨advance, isPending⟩

/-- Every sequence of steps has a run: what is left to do loses weight. -/
theorem exists_run (d : Deferral (Job α)) (ss : List (Step α)) :
    ∃ moves d', (machine α).Run d ss moves d' ∧ d'.pendingWeight ≤ d.pendingWeight +
      Step.weights ss := by
  induction hn : d.pendingWeight + Step.weights ss using Nat.strongRecOn generalizing d ss with
  | _ n ih =>
    cases ss with
    | nil => exact ⟨[], d, .nil d, by omega⟩
    | cons s ss =>
      have hweight := advance_weight d s
      have hstep := s.one_le_weight
      rw [Step.weights_cons] at hn
      obtain ⟨inner, y, hinner, hy⟩ := ih _ (by omega) (d.advance s).2 (bodyOf (d.advance s).1) rfl
      obtain ⟨outer, z, houter, hz⟩ := ih _ (by omega) y ss rfl
      exact ⟨_, z, .cons hinner houter, by omega⟩

/-- The history lists the jobs and states of the run. -/
theorem map_history_append {d d' : Deferral (Job α)} {ss : List (Step α)} {moves : List (Move α)}
    (h : (machine α).Run d ss moves d') (ts : List (Step α)) :
    (history d (ss ++ ts)).map (fun r => (r.1, r.2.isPending)) =
      moves.map (fun m => (m.started.map (·.1), m.waiting)) ++
        (history d' ts).map (fun r => (r.1, r.2.isPending)) := by
  induction h generalizing ts with
  | nil d => rfl
  | @cons x y z s ss inner outer _ _ ihinner ihouter =>
    have hinner := ihinner (ss ++ ts)
    rw [ihouter ts] at hinner
    rw [List.cons_append, history, List.map_cons, List.map_cons, List.cons_append, List.map_append,
      List.append_assoc, ← hinner]
    rfl

/-! ## The slot -/

/-- The waiting job with the number of its timer, and how many timers have been created. -/
structure Slot (α : Type) where
  created : Nat
  held : Option (α × Nat)

namespace Slot

def empty : Slot α := ⟨0, none⟩

def isHeld (c : Slot α) : Bool := c.held.isSome

def cancel (c : Slot α) : Slot α := { c with held := none }

/-- The job takes the place of the one that was waiting, with a new timer. -/
def schedule (c : Slot α) (job : α) : Slot α := ⟨c.created + 1, some (job, c.created)⟩

def flush (c : Slot α) : Option α × Slot α := (c.held.map (·.1), c.cancel)

/-- The timer of the waiting job starts it; any other timer does nothing. -/
def fire (c : Slot α) (i : Nat) : Option α × Slot α :=
  match c.held with
  | some (job, j) => if j = i then (some job, c.cancel) else (none, c)
  | none => (none, c)

def advance (c : Slot (Job α)) : Step α → Option (Job α) × Slot (Job α)
  | .schedule label body => (none, c.schedule (label, body))
  | .fire i => c.fire i
  | .flush => c.flush
  | .cancel => (none, c.cancel)

/-- Deferral by a slot. -/
def machine (α : Type) : Machine α (Slot (Job α)) := ⟨advance, isHeld⟩

end Slot

/-! ## The two machines side by side -/

/-- The deferral is in the state of the slot. -/
structure Refines (d : Deferral α) (c : Slot α) : Prop where
  created : d.timers.length = c.created
  pending : d.pending = c.held.map (·.1)
  /-- No timer is ahead of the current generation. -/
  reached : ∀ t ∈ d.timers, t.ticket ≤ d.generation
  /-- Every generation has at most one timer. -/
  single : ∀ (i j : Nat) (t u : Timer), d.timers[i]? = some t → d.timers[j]? = some u →
    t.ticket = u.ticket → i = j
  /-- The timer that the slot names is the one of the current generation. -/
  named : ∀ job (i : Nat), c.held = some (job, i) →
    ∃ t, d.timers[i]? = some t ∧ t.ticket = d.generation

/-- Giving up a timer changes no ticket. -/
theorem ticket_of_giveUp {ts : List Timer} {o : Option Nat} {i : Nat} {t : Timer}
    (h : (giveUp ts o)[i]? = some t) : ∃ u, ts[i]? = some u ∧ u.ticket = t.ticket := by
  cases o with
  | none => exact ⟨t, h, rfl⟩
  | some k =>
    rw [giveUp, List.getElem?_modify, Option.map_eq_map, Option.map_eq_some_iff] at h
    obtain ⟨u, hu, rfl⟩ := h
    refine ⟨u, hu, ?_⟩
    split <;> rfl

theorem length_giveUp (ts : List Timer) (o : Option Nat) : (giveUp ts o).length = ts.length := by
  cases o with
  | none => rfl
  | some k => exact List.length_modify _ _ _

theorem refines_idle : Refines (idle : Deferral α) .empty where
  created := rfl
  pending := rfl
  reached := nofun
  single := nofun
  named := nofun

section

variable {d : Deferral α} {c : Slot α}

theorem Refines.isPending_eq (h : Refines d c) : d.isPending = c.isHeld := by
  rw [isPending, h.pending, Slot.isHeld, Option.isSome_map]

theorem Refines.cancel (h : Refines d c) : Refines d.cancel c.cancel where
  created := (length_giveUp _ _).trans h.created
  pending := rfl
  reached := by
    intro t ht
    obtain ⟨i, hi⟩ := List.mem_iff_getElem?.1 ht
    obtain ⟨u, hu, heq⟩ := ticket_of_giveUp hi
    have hle : u.ticket ≤ d.generation := h.reached u (List.mem_of_getElem? hu)
    exact heq ▸ Nat.le_succ_of_le hle
  single := by
    intro i j t u ht hu heq
    obtain ⟨t', ht', heqt⟩ := ticket_of_giveUp ht
    obtain ⟨u', hu', hequ⟩ := ticket_of_giveUp hu
    exact h.single i j t' u' ht' hu' (by rw [heqt, hequ, heq])
  named := nofun

/-- The new timer is the only one of its generation, which lies ahead of all others. -/
theorem Refines.schedule (h : Refines d c) (job : α) :
    Refines (d.schedule job) (c.schedule job) := by
  have hc := h.cancel
  have hlen : d.cancel.timers.length = c.created := hc.created
  have hold : ∀ (i : Nat) (t : Timer), d.cancel.timers[i]? = some t →
      t.ticket < d.cancel.generation + 1 :=
    fun i t hi => Nat.lt_succ_of_le (hc.reached t (List.mem_of_getElem? hi))
  have hlast : ∀ (i : Nat) (t : Timer),
      (d.cancel.timers ++ [⟨d.cancel.generation + 1, false⟩])[i]? = some t →
      d.cancel.timers[i]? = some t ∨
        i = d.cancel.timers.length ∧ t.ticket = d.cancel.generation + 1 := by
    intro i t hi
    rw [List.getElem?_append] at hi
    split at hi
    · exact .inl hi
    · obtain ⟨hlt, rfl⟩ := List.getElem?_eq_some_iff.1 hi
      rw [List.length_singleton] at hlt
      exact .inr ⟨by omega, by rw [List.getElem_singleton]⟩
  refine ⟨?_, rfl, ?_, ?_, ?_⟩
  · simp [Deferral.schedule, Slot.schedule, hlen]
  · intro t ht
    obtain ⟨i, hi⟩ := List.mem_iff_getElem?.1 ht
    rcases hlast i t hi with hi | ⟨-, heq⟩
    · exact Nat.le_of_lt (hold i t hi)
    · exact Nat.le_of_eq heq
  · intro i j t u ht hu heq
    rcases hlast i t ht with hi | ⟨hi, ht'⟩ <;> rcases hlast j u hu with hj | ⟨hj, hu'⟩
    · exact hc.single i j t u hi hj heq
    · have := hold i t hi
      omega
    · have := hold j u hj
      omega
    · omega
  · rintro _ _ ⟨⟩
    refine ⟨⟨d.cancel.generation + 1, false⟩, ?_, rfl⟩
    simp [Deferral.schedule, ← hlen]

/-- A flush takes the same job out of both. -/
theorem Refines.flush (h : Refines d c) :
    d.flush.1 = c.flush.1 ∧ Refines d.flush.2 c.flush.2 :=
  ⟨h.pending, h.cancel⟩

/-- A timer takes the same job out of both. -/
theorem Refines.fire (h : Refines d c) (i : Nat) :
    (d.fire i).1 = (c.fire i).1 ∧ Refines (d.fire i).2 (c.fire i).2 := by
  have hemptied : Refines { d with current := none, pending := none } c.cancel :=
    ⟨h.created, rfl, h.reached, h.single, nofun⟩
  rw [Deferral.fire, Slot.fire]
  cases hheld : c.held with
  | none =>
    -- nothing waits, whether or not the timer is of the current generation
    have hnone : d.pending = none := by rw [h.pending, hheld]; rfl
    have hcancel : c.cancel = c := by rw [Slot.cancel, ← hheld]
    rw [hcancel] at hemptied
    split
    · split
      · exact ⟨hnone, hemptied⟩
      · exact ⟨rfl, h⟩
    · exact ⟨rfl, h⟩
  | some held =>
    obtain ⟨job, j⟩ := held
    obtain ⟨u, hu, hticket⟩ := h.named job j hheld
    have hsome : d.pending = some job := by rw [h.pending, hheld]; rfl
    simp only
    split
    · rename_i t ht
      by_cases hcurrent : t.ticket = d.generation
      · -- the timer of the current generation is the one that the slot names
        have hij : j = i := h.single j i u t hu ht (hticket.trans hcurrent.symm)
        rw [if_pos hcurrent, if_pos hij]
        exact ⟨hsome, hemptied⟩
      · have hij : j ≠ i := by
          rintro rfl
          rw [hu] at ht
          cases ht
          exact hcurrent hticket
        rw [if_neg hcurrent, if_neg hij]
        exact ⟨rfl, h⟩
    · rename_i hnone
      have hij : j ≠ i := by
        rintro rfl
        rw [hu] at hnone
        cases hnone
      rw [if_neg hij]
      exact ⟨rfl, h⟩

end

section

variable {d d' : Deferral (Job α)} {c c' : Slot (Job α)}

/-- A step starts the same job in both. -/
theorem Refines.advance (h : Refines d c) (s : Step α) :
    (d.advance s).1 = (c.advance s).1 ∧ Refines (d.advance s).2 (c.advance s).2 := by
  cases s with
  | schedule label body => exact ⟨rfl, h.schedule (label, body)⟩
  | fire i => exact h.fire i
  | flush => exact h.flush
  | cancel => exact ⟨rfl, h.cancel⟩

/-- A run of the deferral is a run of the slot. -/
theorem Refines.run (h : Refines d c) {ss : List (Step α)} {moves : List (Move α)}
    (hrun : (machine α).Run d ss moves d') :
    ∃ c', (Slot.machine α).Run c ss moves c' ∧ Refines d' c' := by
  induction hrun generalizing c with
  | nil d => exact ⟨c, .nil c, h⟩
  | @cons x y z s ss inner outer _ _ ihinner ihouter =>
    obtain ⟨hstarted, hstep⟩ := h.advance s
    obtain ⟨c₁, hinner, h₁⟩ := ihinner hstep
    obtain ⟨c₂, houter, h₂⟩ := ihouter h₁
    refine ⟨c₂, ?_, h₂⟩
    change (Slot.machine α).Run c (s :: ss) (⟨s, (x.advance s).1, (x.advance s).2.isPending,
      y.isPending⟩ :: (inner ++ outer)) c₂
    rw [hstep.isPending_eq, h₁.isPending_eq, hstarted]
    change (Slot.machine α).Run _ (bodyOf (x.advance s).1) inner c₁ at hinner
    rw [hstarted] at hinner
    exact .cons hinner houter

end

/-! ## What is started -/

/-- The jobs that moves started, in order. -/
def starts (moves : List (Move α)) : List (Job α) := moves.filterMap (·.started)

/-- The job that a step schedules. -/
def Step.scheduled? : Step α → Option (Job α)
  | .schedule label body => some (label, body)
  | _ => none

/-- The jobs that moves scheduled, in order. -/
def schedulings (moves : List (Move α)) : List (Job α) := moves.filterMap (·.step.scheduled?)

/-- A timer that went off and started nothing. -/
def Move.Idle (m : Move α) : Prop := (∃ i, m.step = .fire i) ∧ m.started = none

/-- The moves scheduled the job, and after that only timers went off that started nothing. -/
def Latest (job : Job α) (moves : List (Move α)) : Prop :=
  ∃ before m between, moves = before ++ m :: between ∧ m.step = .schedule job.1 job.2 ∧
    ∀ b ∈ between, b.Idle

/-- What is true of the slot and of the moves so far. -/
structure Slot.Traces (c : Slot (Job α)) (past : List (Move α)) : Prop where
  /-- The waiting job is the latest one. -/
  latest : ∀ job i, c.held = some (job, i) → Latest job past
  /-- Every job that was started or waits has been scheduled on its own. -/
  sublist : (starts past ++ (c.held.map (·.1)).toList).Sublist (schedulings past)

namespace Slot

variable {c c' : Slot (Job α)} {past : List (Move α)}

theorem starts_append_singleton (past : List (Move α)) (m : Move α) :
    starts (past ++ [m]) = starts past ++ m.started.toList := by
  rw [starts, List.filterMap_append]
  cases h : m.started <;> simp [starts, h]

theorem schedulings_append_singleton (past : List (Move α)) (m : Move α) :
    schedulings (past ++ [m]) = schedulings past ++ m.step.scheduled?.toList := by
  rw [schedulings, List.filterMap_append]
  cases h : m.step.scheduled? <;> simp [schedulings, h]

theorem traces_empty : (empty : Slot (Job α)).Traces [] := ⟨nofun, .slnil⟩

/-- Emptying the slot, with or without starting its job. -/
theorem Traces.emptied (h : c.Traces past) {m : Move α}
    (hm : m.started = none ∨ m.started = c.held.map (·.1)) : c.cancel.Traces (past ++ [m]) where
  latest := nofun
  sublist := by
    have hstarts : (starts past ++ m.started.toList).Sublist (schedulings past) := by
      rcases hm with hm | hm
      · rw [hm, Option.toList_none, List.append_nil]
        exact (List.sublist_append_left _ _).trans h.sublist
      · rw [hm]
        exact h.sublist
    rw [starts_append_singleton, schedulings_append_singleton]
    change (starts past ++ m.started.toList ++ []).Sublist _
    rw [List.append_nil]
    exact hstarts.trans (List.sublist_append_left _ _)

/-- A timer that starts nothing. -/
theorem Traces.idle (h : c.Traces past) {m : Move α} (hm : m.Idle) : c.Traces (past ++ [m]) where
  latest := by
    intro job i hheld
    obtain ⟨before, s, between, rfl, hs, hidle⟩ := h.latest job i hheld
    refine ⟨before, s, between ++ [m], by simp, hs, ?_⟩
    intro b hb
    rcases List.mem_append.1 hb with hb | hb
    · exact hidle b hb
    · exact List.mem_singleton.1 hb ▸ hm
  sublist := by
    rw [starts_append_singleton, schedulings_append_singleton, hm.2, Option.toList_none,
      List.append_nil]
    exact h.sublist.trans (List.sublist_append_left _ _)

/-- What a step starts is the latest job, and what it leads to is traced by one more move. -/
theorem Traces.advance (h : c.Traces past) (s : Step α) (waiting settled : Bool) :
    (∀ job, (c.advance s).1 = some job → Latest job past) ∧
      (c.advance s).2.Traces (past ++ [⟨s, (c.advance s).1, waiting, settled⟩]) := by
  have hheld : ∀ job, c.held.map (·.1) = some job → Latest job past := by
    intro job hjob
    obtain ⟨⟨job, i⟩, hi, rfl⟩ := Option.map_eq_some_iff.1 hjob
    exact h.latest job i hi
  cases s with
  | schedule label body =>
    refine ⟨nofun, ?_, ?_⟩
    · rintro _ _ ⟨⟩
      exact ⟨past, _, [], rfl, rfl, nofun⟩
    · rw [starts_append_singleton, schedulings_append_singleton]
      change (starts past ++ [] ++ [(label, body)]).Sublist (schedulings past ++ [(label, body)])
      rw [List.append_nil]
      exact ((List.sublist_append_left _ _).trans h.sublist).append (.refl _)
  | flush => exact ⟨hheld, h.emptied (.inr rfl)⟩
  | cancel => exact ⟨nofun, h.emptied (.inl rfl)⟩
  | fire i =>
    simp only [Slot.advance, fire]
    cases hc : c.held with
    | none => exact ⟨nofun, h.idle ⟨⟨i, rfl⟩, rfl⟩⟩
    | some held =>
      obtain ⟨job, j⟩ := held
      simp only
      split
      · refine ⟨?_, h.emptied (.inr (by rw [hc]; rfl))⟩
        rintro _ ⟨⟩
        exact h.latest job j hc
      · exact ⟨nofun, h.idle ⟨⟨i, rfl⟩, rfl⟩⟩

/-- Every job that a run starts is the latest one at that time. -/
theorem Traces.run (h : c.Traces past) {ss : List (Step α)} {moves : List (Move α)}
    (hrun : (machine α).Run c ss moves c') :
    c'.Traces (past ++ moves) ∧ ∀ before m after, moves = before ++ m :: after →
      ∀ job, m.started = some job → Latest job (past ++ before) := by
  induction hrun generalizing past with
  | nil c =>
    refine ⟨by rwa [List.append_nil], ?_⟩
    intro before m after hmoves
    cases before <;> cases hmoves
  | @cons x y z s ss inner outer _ _ ihinner ihouter =>
    obtain ⟨hstarted, hstep⟩ := h.advance s (isHeld (x.advance s).2) (isHeld y)
    obtain ⟨hy, hinner⟩ := ihinner hstep
    obtain ⟨hz, houter⟩ := ihouter hy
    refine ⟨?_, ?_⟩
    · rw [List.append_assoc, List.append_assoc] at hz
      exact hz
    intro before m after hmoves job hjob
    cases before with
    | nil =>
      cases hmoves
      rw [List.append_nil]
      exact hstarted job hjob
    | cons e before =>
      obtain ⟨rfl, hrest⟩ := List.cons.inj hmoves
      rw [List.append_cons]
      rcases List.append_eq_append_iff.1 hrest with ⟨b, rfl, rfl⟩ | ⟨b, rfl, hb⟩
      · rw [← List.append_assoc]
        exact houter b m after rfl job hjob
      · cases b with
        | nil =>
          have hjust := houter [] m after hb.symm job hjob
          rw [List.append_nil, List.append_nil] at hjust
          exact hjust
        | cons e b =>
          obtain ⟨rfl, -⟩ := List.cons.inj hb
          exact hinner before m b rfl job hjob

end Slot

/-- Deferral has the runs of the slot: for any steps, nested to any depth, both start the same jobs
at the same moves, with a job waiting after the same moves, and the history lists just these moves.
Every job that is started is the one scheduled last, with no more than idle timers since then, and
no job is started twice for one scheduling. -/
theorem runs_as_slot (ss : List (Step α)) :
    ∃ moves d c, (machine α).Run idle ss moves d ∧
      (history idle ss).map (fun r => (r.1, r.2.isPending)) =
        moves.map (fun m => (m.started.map (·.1), m.waiting)) ∧
      (Slot.machine α).Run .empty ss moves c ∧
      (∀ moves' c', (Slot.machine α).Run .empty ss moves' c' → moves' = moves) ∧
      (starts moves).Sublist (schedulings moves) ∧
      ∀ before m after, moves = before ++ m :: after → ∀ job, m.started = some job →
        Latest job before := by
  obtain ⟨moves, d, hrun, -⟩ := exists_run idle ss
  obtain ⟨c, hslot, -⟩ := refines_idle.run hrun
  obtain ⟨htraces, hlatest⟩ := Slot.traces_empty.run hslot
  refine ⟨moves, d, c, hrun, ?_, hslot, ?_, ?_, ?_⟩
  · have := map_history_append hrun []
    rwa [List.append_nil, history, List.map_nil, List.append_nil] at this
  · intro moves' c' h
    exact (h.unique hslot).1
  · exact (List.sublist_append_left _ _).trans htraces.sublist
  · simpa using hlatest

/-- A job that schedules another one while it runs, in front of its own timer going off again. -/
def nested : List (Step Nat) :=
  [.schedule 1 [.schedule 2 [.flush], .fire 0], .fire 0, .fire 0, .fire 1, .fire 1]

/-- The first timer starts the first job only, and the second one what that job has scheduled. -/
theorem runs_as_slot_nested :
    ∃ moves d, (machine Nat).Run idle nested moves d ∧ (starts moves).map (·.1) = [1, 2] ∧
      moves.map (·.waiting) = [true, false, true, true, true, false, false, false] ∧
      moves.map (·.settled) = [true, true, true, true, true, false, false, false] := by
  obtain ⟨moves, d, -, hrun, -, -, hunique, -, -⟩ := runs_as_slot nested
  obtain rfl := hunique _ _ (.cons (.nil _) (.cons (.cons (.nil _) (.cons (.nil _) (.nil _)))
    (.cons (.nil _) (.cons (.cons (.nil _) (.nil _)) (.cons (.nil _) (.nil _))))))
  exact ⟨_, d, hrun, rfl, rfl, rfl⟩

end Abacus.Deferral
