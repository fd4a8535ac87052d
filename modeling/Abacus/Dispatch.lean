import Abacus.Classification
import Abacus.Report

/-!
# Dispatch

A classified text is run by the pipeline of its kind: a numeral is converted, an expression is
calculated. Dispatch classifies and runs, and turns faults of the input into a result.
-/

namespace Abacus

/-- The report of a text by the pipeline of a kind. -/
def run (cfg : Limits) (k : Kind) (s : Text) : Except Failure (List Item) :=
  match k with
  | .numeral => (Conversion.ofText s).map Report.ofConversion
  | .expression =>
      match Expr.calculate cfg.settings s with
      | .ok x => .ok (Report.ofFloat x)
      | .error f => .error (.expression f)
  | .ignored => .error .notRunnable

/-- The outcome for a text: a report, or an error in its place. -/
structure Outcome where
  kind : Kind
  text : Text
  items : List Item
  error : Option Text

def Outcome.isOk (o : Outcome) : Bool := o.error.isNone && !o.items.isEmpty

def dispatch (cfg : Limits) (text : Text) : Except Failure Outcome :=
  let s := Text.trim text
  match classify cfg s with
  | .error f => .error (.tag f)
  | .ok r =>
      if r.kind = .ignored then
        .ok ⟨r.kind, s, [], some ("Input ignored: ".toList ++ r.name)⟩
      else match run cfg r.kind s with
        | .ok items => .ok ⟨r.kind, s, items, none⟩
        | .error f => match f.report? with
          | some m => .ok ⟨r.kind, s, [], some m⟩
          | none => .error f

end Abacus
