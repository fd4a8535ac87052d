import Abacus.Decimal.Shortest

/-!
# Deferral

One job at a time waits for a timer. Scheduling another one, cancelling and flushing give up the
waiting timer and start a new generation. A timer carries the generation it was created in, and one
that fires in a later generation runs nothing.
-/

namespace Abacus

/-- A started timer: its generation, and whether it was given up. -/
structure Timer where
  ticket : Nat
  cancelled : Bool
deriving DecidableEq, Repr

/-- A timer's state as two letters: started, and given up or not. -/
def Timer.status (t : Timer) : Text := ['S', if t.cancelled then 'C' else '-']

/-- The state of deferral for jobs of one type. Timers are numbered as they are created; `current`
is the number of the waiting one. -/
structure Deferral (α : Type) where
  generation : Nat
  timers : List Timer
  current : Option Nat
  pending : Option α

namespace Deferral

variable {α : Type}

/-- No job has been scheduled yet. -/
def idle : Deferral α := ⟨0, [], none, none⟩

def isPending (d : Deferral α) : Bool := d.pending.isSome

/-- The timers after one of them was given up. -/
def giveUp (ts : List Timer) : Option Nat → List Timer
  | some i => ts.modify i fun t => { t with cancelled := true }
  | none => ts

/-- Gives up the waiting job, if there is one. -/
def cancel (d : Deferral α) : Deferral α :=
  ⟨d.generation + 1, giveUp d.timers d.current, none, none⟩

/-- Gives up the waiting job and lets another one wait for a new timer. -/
def schedule (d : Deferral α) (job : α) : Deferral α :=
  let c := d.cancel
  ⟨c.generation + 1, c.timers ++ [⟨c.generation + 1, false⟩], some c.timers.length, some job⟩

/-- Takes the waiting job out to be run at once. -/
def flush (d : Deferral α) : Option α × Deferral α := (d.pending, d.cancel)

/-- What happens when a timer goes off: in its own generation it takes the waiting job out to be
run. -/
def fire (d : Deferral α) (i : Nat) : Option α × Deferral α :=
  match d.timers[i]? with
  | some t =>
      if t.ticket = d.generation then (d.pending, { d with current := none, pending := none })
      else (none, d)
  | none => (none, d)

end Deferral

/-- A delay in seconds, as a whole number or a double. -/
inductive Delay where
  | whole (n : Int)
  | real (x : Float)

namespace Delay

def shown : Delay → Text
  | .whole n => (toString n).toList
  | .real x => Decimal.shown x

def toFloat : Delay → Float
  | .whole n => Binary64.ofInt n
  | .real x => x

def isNegative : Delay → Bool
  | .whole n => n < 0
  | .real x => x < 0

/-- A delay must not be negative. -/
def refusal? (d : Delay) : Option Text :=
  if d.isNegative then some ("delay_sec must be non-negative, got ".toList ++ d.shown) else none

end Delay

end Abacus
