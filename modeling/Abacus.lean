import Abacus.Main
import Abacus.Deferral.History
import Abacus.Payload.Catalogue
import Abacus.Payload.Record
import Abacus.Selection
import Abacus.Proofs.Numeral.Canonical
import Abacus.Proofs.Session.Display
import Abacus.Proofs.Expr.Formula.Value
import Abacus.Proofs.CommandLine.Interleaving
import Abacus.Proofs.Deferral.Slot
import Abacus.Proofs.Deferral.Liveness
import Abacus.Proofs.Expr.Retry.Unchanged
import Abacus.Proofs.Session.Currency
import Abacus.Proofs.Session.Repeats
import Abacus.Proofs.Session.Supersession
import Abacus.Proofs.Classification.Soundness
import Abacus.Proofs.Expr.Summand.Notation
import Abacus.Proofs.Numeral.Standalone
import Abacus.Proofs.Numeral.Tagged
import Abacus.Proofs.Dispatch.Escapes
import Abacus.Proofs.Expr.Platform
import Abacus.Proofs.Expr.Containment
import Abacus.Proofs.Expr.IntegerLiterals
import Abacus.Proofs.Dispatch.Automatic
import Abacus.Proofs.Numeral.LetterCase
import Abacus.Proofs.Radix.Correspondence
import Abacus.Proofs.Expr.Stripping.Names
import Abacus.Proofs.Payload.Decoding
import Abacus.Proofs.Payload.Loading
import Abacus.Proofs.Expr.Retry.Wordwise
import Abacus.Proofs.Expr.Operands
