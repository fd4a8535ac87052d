import Abacus.Expr.Fault
import Abacus.Numeral.Fault
import Abacus.Numeral.Target

/-!
# Failures

An input fails as a numeral or as an expression, with a message for its author. The other failures
are no fault of the input's notation: a tag that shows a number but cannot be converted, and a
request to run a text that no pipeline takes.
-/

namespace Abacus

inductive Failure where
  | numeral (fault : Numeral.Fault)
  | expression (fault : Expr.Fault)
  | tag (fault : Numeral.TagFault)
  | notRunnable

def Failure.message : Failure → Text
  | .numeral fault => fault.message
  | .expression fault => fault.message
  | .tag fault => fault.message
  | .notRunnable => "Cannot run pipeline for ignored input".toList

/-- The message of a failure that is reported as a result. -/
def Failure.report? : Failure → Option Text
  | .numeral fault => some fault.message
  | .expression fault => some fault.message
  | .tag _ => none
  | .notRunnable => none

end Abacus
