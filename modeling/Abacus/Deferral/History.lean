import Abacus.Deferral.Basic

/-!
# Histories of deferral

A job may take steps of its own while it runs: it may schedule, fire, flush and cancel. The history
of a sequence of steps lists, for every step in the order in which they happen, the job it starts
and the state it leads to.
-/

namespace Abacus.Deferral

/-- A step; a scheduled job has a label and the steps it takes when it runs. -/
inductive Step (α : Type) where
  | schedule (label : α) (body : List (Step α))
  | fire (i : Nat)
  | flush
  | cancel

/-- A job: its label and the steps it takes. -/
abbrev Job (α : Type) := α × List (Step α)

namespace Step

variable {α : Type}

mutual

/-- The number of steps in a step, those of the jobs it schedules included. -/
def weight : Step α → Nat
  | .schedule _ body => 1 + weights body
  | .fire _ => 1
  | .flush => 1
  | .cancel => 1

def weights : List (Step α) → Nat
  | [] => 0
  | s :: ss => weight s + weights ss

end

@[simp] theorem weights_nil : weights ([] : List (Step α)) = 0 := by rw [weights]

@[simp] theorem weights_cons (s : Step α) (ss : List (Step α)) :
    weights (s :: ss) = s.weight + weights ss := by rw [weights]

@[simp] theorem weights_append (ss ts : List (Step α)) :
    weights (ss ++ ts) = weights ss + weights ts := by
  induction ss with
  | nil => simp
  | cons s ss ih => simp [ih, Nat.add_assoc]

theorem one_le_weight (s : Step α) : 1 ≤ s.weight := by
  cases s <;> simp [weight]

end Step

variable {α : Type}

/-- The steps a waiting job would take. -/
def pendingWeight (d : Deferral (Job α)) : Nat :=
  match d.pending with
  | some job => Step.weights job.2
  | none => 0

/-- One step: the job it starts, if any, and the state after it. -/
def advance (d : Deferral (Job α)) : Step α → Option (Job α) × Deferral (Job α)
  | .schedule label body => (none, d.schedule (label, body))
  | .fire i => d.fire i
  | .flush => d.flush
  | .cancel => (none, d.cancel)

/-- The steps that the started job takes. -/
def bodyOf : Option (Job α) → List (Step α)
  | some job => job.2
  | none => []

/-- A step uses up weight: what a started job takes was waiting before. -/
theorem advance_weight (d : Deferral (Job α)) (s : Step α) :
    Step.weights (bodyOf (d.advance s).1) + (d.advance s).2.pendingWeight <
      s.weight + d.pendingWeight := by
  cases s with
  | schedule label body =>
    simp only [advance, bodyOf, Deferral.schedule, pendingWeight, Step.weight, Step.weights_nil]
    omega
  | cancel =>
    simp only [advance, bodyOf, Deferral.cancel, pendingWeight, Step.weight, Step.weights_nil]
    omega
  | flush =>
    simp only [advance, Deferral.flush, Deferral.cancel, pendingWeight, Step.weight]
    cases d.pending <;> simp only [bodyOf, Step.weights_nil] <;> omega
  | fire i =>
    simp only [advance, Deferral.fire, Step.weight]
    split
    · split
      · simp only [pendingWeight]
        cases d.pending <;> simp only [bodyOf, Step.weights_nil] <;> omega
      · simp only [bodyOf, Step.weights_nil]
        omega
    · simp only [bodyOf, Step.weights_nil]
      omega

/-- The history of a sequence of steps. The steps of a started job come before those that follow. -/
def history (d : Deferral (Job α)) : List (Step α) → List (Option α × Deferral (Job α))
  | [] => []
  | s :: ss =>
      ((d.advance s).1.map (·.1), (d.advance s).2) ::
        history (d.advance s).2 (bodyOf (d.advance s).1 ++ ss)
termination_by ss => d.pendingWeight + Step.weights ss
decreasing_by
  have := advance_weight d s
  simp only [Step.weights_append, Step.weights_cons]
  omega

/-- The labels of the jobs that were started, in order. -/
def started (h : List (Option α × Deferral (Job α))) : List α := h.filterMap (·.1)

/-- The state at the end of a history. -/
def final (d : Deferral (Job α)) (h : List (Option α × Deferral (Job α))) : Deferral (Job α) :=
  (h.getLast?.map (·.2)).getD d

end Abacus.Deferral
