import Abacus.Regex.Element
import Abacus.Regex.Extent

/-!
# Reading patterns

A text is a pattern if its elements fit together: groups are closed, a repetition has one item to
repeat, groups that are referred to are known and closed, a look-behind has matches of one length,
and flags stand at the start. The elements are taken one after the other; what is open is kept
from the inside to the outside.
-/

namespace Abacus.Regex

/-- What is open. -/
inductive Scope where
  | whole
  | group
  | kept (number : Nat)
  | ahead
  /-- A look-behind, which may be the outermost one. -/
  | behind (isOutermost : Bool)
  | condition
deriving DecidableEq, Repr

/-- The last element of an alternative. Only an item can be repeated. -/
inductive Last where
  | nothing
  | place
  | item (e : Extent)
  | repetition (e : Extent)
deriving DecidableEq, Repr

def Last.extent : Last → Extent
  | .nothing => .empty
  | .place => .empty
  | .item e => e
  | .repetition e => e

/-- A scope with the alternatives that are complete, and the one that is not: its last element and
the extent of those before it. -/
structure Frame where
  scope : Scope
  verbose : Bool
  complete : Option Extent
  before : Extent
  last : Last

namespace Frame

def start (scope : Scope) (verbose : Bool) : Frame := ⟨scope, verbose, none, .empty, .nothing⟩

/-- Whether nothing has been read yet. -/
def isFresh (f : Frame) : Bool := f.complete.isNone && f.last = .nothing

/-- The extent of the alternatives, the last one included. -/
def alternatives (f : Frame) : Extent :=
  let e := f.before.append f.last.extent
  match f.complete with
  | some c => c.either e
  | none => e

/-- The extent of the whole scope. A look around takes up nothing, and a condition with one
alternative may take up nothing. -/
def extent (f : Frame) : Extent :=
  match f.scope, f.complete with
  | .ahead, _ => .empty
  | .behind _, _ => .empty
  | .condition, none => f.alternatives.either .empty
  | _, _ => f.alternatives

def add (f : Frame) (l : Last) : Frame :=
  { f with before := f.before.append f.last.extent, last := l }

/-- Repeats the last element. -/
def repeat? (f : Frame) (least : Nat) (most : Option Nat) : Option Frame :=
  match f.last with
  | .item e => some { f with last := .repetition (e.repeated least most) }
  | _ => none

/-- Starts another alternative. A condition has at most two of them. -/
def divide? (f : Frame) : Option Frame :=
  if f.scope = .condition ∧ f.complete.isSome then none
  else some { f with complete := some f.alternatives, before := .empty, last := .nothing }

end Frame

/-- What has been read. -/
structure Reading where
  /-- The extents of the groups that are kept; a group that is open has none yet. -/
  groups : List (Option Extent)
  names : List (Text × Nat)
  /-- How many groups there were when the outermost open look-behind began. -/
  barrier : Option Nat
  /-- The greatest group number that a condition asks for. -/
  asked : Nat
  flags : List Flag
  hasRepetition : Bool
  /-- Whether some look-behind has matches of different lengths. -/
  isLoose : Bool
  /-- Whether some look-behind is too long. -/
  isFar : Bool
  frame : Frame
  outer : List Frame

namespace Reading

def start : Reading := ⟨[], [], none, 0, [], false, false, false, .start .whole false, []⟩

def item (r : Reading) (e : Extent) : Reading := { r with frame := r.frame.add (.item e) }

/-- The extent of a group that is closed. In a look-behind it has to stand before that. -/
def group? (r : Reading) (n : Nat) : Option Extent :=
  if 0 < n ∧ r.barrier.all (n ≤ ·) then (r.groups[n - 1]?).join else none

def number? (r : Reading) : Reference → Option Nat
  | .number n => some n
  | .name s => r.names.lookup s

/-- The condition asks for a group, which may still follow unless a look-behind is open. -/
def ask? (r : Reading) (ref : Reference) : Option Reading := do
  let n ← r.number? ref
  if r.barrier.isSome && (r.group? n).isNone then none
  return { r with asked := max r.asked n }

/-- Opens a scope. -/
def enter (r : Reading) (scope : Scope) (verbose : Bool) : Reading :=
  { r with frame := .start scope verbose, outer := r.frame :: r.outer }

/-- The flags hold for the whole pattern. They stand in front of everything that matches. -/
def setFlags? (r : Reading) (on : List Flag) : Option Reading :=
  if r.outer.isEmpty && r.frame.isFresh then
    let flags := on ++ r.flags
    some { r with flags, frame := { r.frame with verbose := flags.contains .verbose } }
  else none

def open? (r : Reading) : Opening → Option Reading
  | .group on off =>
      let verbose := (r.frame.verbose || on.contains .verbose) && !off.contains .verbose
      some (r.enter .group verbose)
  | .kept name =>
      let n := r.groups.length + 1
      let names := match name with
        | some s => (s, n) :: r.names
        | none => r.names
      if name.any fun s => (r.names.lookup s).isSome then none
      else some ({ r with groups := r.groups ++ [none], names }.enter (.kept n) r.frame.verbose)
  | .ahead => some (r.enter .ahead r.frame.verbose)
  | .behind =>
      some ({ r with barrier := r.barrier.or r.groups.length }.enter
        (.behind r.barrier.isNone) r.frame.verbose)
  | .condition ref => (r.ask? ref).map fun r => r.enter .condition r.frame.verbose

/-- What closing a scope changes outside of it. -/
def leave (r : Reading) (f : Frame) : Reading :=
  match f.scope with
  | .kept n => { r with groups := r.groups.set (n - 1) (some f.extent) }
  | .behind isOutermost =>
      { r with
        barrier := if isOutermost then none else r.barrier
        isLoose := r.isLoose || !f.alternatives.isFixed
        isFar := r.isFar || f.alternatives.isFar }
  | _ => r

/-- Closes the innermost scope, which is an item of the scope around it. -/
def close? (r : Reading) : Option Reading :=
  match r.outer with
  | [] => none
  | f :: outer => some (({ r with frame := f, outer }.leave r.frame).item r.frame.extent)

/-- Takes one element. -/
def add? (r : Reading) : Element → Option Reading
  | .skipped => some r
  | .flags on => r.setFlags? on
  | .place => some { r with frame := r.frame.add .place }
  | .character => some (r.item .character)
  | .reference ref => ((r.number? ref).bind r.group?).map r.item
  | .repetition least most =>
      (r.frame.repeat? least most).map fun f => { r with frame := f, hasRepetition := true }
  | .opening o => r.open? o
  | .bar => r.frame.divide?.map fun f => { r with frame := f }
  | .closing => r.close?

/-- Whether the pattern may end. Every scope is closed, and what had to be known of the whole
pattern holds. A template has no repetitions. -/
def isComplete (r : Reading) : Bool :=
  r.outer.isEmpty && r.asked ≤ r.groups.length && !r.isLoose && compatible r.flags &&
    !(r.flags.contains .template && r.hasRepetition)

/-- Takes all elements. Each takes up at least one token, so that the number of tokens is enough to
count down. -/
def addAll : Nat → Reading → List Token → Except Fault Reading
  | _, r, [] => .ok r
  | 0, _, _ :: _ => .error .malformed
  | n + 1, r, t :: ts => do
      let (e, ts) ← Element.read r.frame.verbose t ts
      let r ← Element.orMalformed (r.add? e)
      addAll n r ts

end Reading

/-- Whether a text is a pattern. -/
def check (s : Text) : Except Fault Unit := do
  let ts := Token.ofText s
  let r ← Reading.addAll ts.length .start ts
  if !r.isComplete then .error .malformed
  else if r.isFar then .error (.excess .lookBehind)
  else .ok ()

end Abacus.Regex
