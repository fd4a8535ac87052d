import Abacus.Deferral.Basic
import Abacus.Dispatch

/-!
# Selections

A session follows the selections in an editor. A selection that can be run is deferred and then
shown, unless another one has come in between; an expression that is already shown is not run again.
An empty or ignored selection clears the display.
-/

namespace Abacus

/-- What the display is told. -/
inductive Event where
  | show (text : Text) (items : List Item)
  | clear

/-- A text waiting to be run by the pipeline of a kind. -/
structure Task where
  text : Text
  kind : Kind

/-- The trimmed current selection, the text shown last, and the waiting task. -/
structure Session where
  current : Text
  lastShown : Text
  deferral : Deferral Task

/-- What a step of a session does to the display, and a failure that is not for the display. -/
structure Effect where
  events : List Event
  failure : Option Failure

namespace Session

def start : Session := ⟨[], [], .idle⟩

def quiet : Effect := ⟨[], none⟩

/-- Gives up the waiting task and clears the display. -/
def clear (s : Session) : Session × Effect :=
  ({ s with deferral := s.deferral.cancel }, ⟨[.clear], none⟩)

/-- A new selection. -/
def select (cfg : Limits) (s : Session) (text : Text) : Session × Effect :=
  let t := Text.trim text
  let s := { s with current := t, lastShown := if t.isEmpty then [] else s.lastShown }
  if t.isEmpty then s.clear
  else match classify cfg t with
    | .error f => (s, ⟨[], some (.tag f)⟩)
    | .ok r =>
        if r.kind = .ignored then s.clear
        else if r.kind = .expression && t == s.lastShown then (s, quiet)
        else ({ s with deferral := s.deferral.schedule ⟨t, r.kind⟩ }, quiet)

/-- Runs a task, unless the selection has changed since. -/
def perform (cfg : Limits) (s : Session) (task : Task) : Session × Effect :=
  if task.text ≠ s.current then (s, quiet)
  else match run cfg task.kind task.text with
    | .ok items => ({ s with lastShown := task.text }, ⟨[.show task.text items], none⟩)
    | .error f => match f.report? with
      | some _ => (s, ⟨[.clear], none⟩)
      | none => (s, ⟨[], some f⟩)

/-- Runs the task that a step of the deferral took out, if any. -/
def performTaken (cfg : Limits) (s : Session) (r : Option Task × Deferral Task) :
    Session × Effect :=
  match r.1 with
  | some task => perform cfg { s with deferral := r.2 } task
  | none => ({ s with deferral := r.2 }, quiet)

/-- What can happen to a session. -/
inductive Step where
  | select (text : Text)
  | fire (i : Nat)
  | flush
  | cancel

def step (cfg : Limits) (s : Session) : Step → Session × Effect
  | .select text => select cfg s text
  | .fire i => performTaken cfg s (s.deferral.fire i)
  | .flush => performTaken cfg s s.deferral.flush
  | .cancel => ({ s with deferral := s.deferral.cancel }, quiet)

/-- The states a sequence of steps leads to, each with the effect of its step. -/
def history (cfg : Limits) (s : Session) : List Step → List (Session × Effect)
  | [] => []
  | st :: sts => step cfg s st :: history cfg (step cfg s st).1 sts

end Session

end Abacus
