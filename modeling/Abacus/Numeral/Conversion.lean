import Abacus.Failure
import Abacus.Numeral.Reader
import Abacus.Radix.Rendering

/-!
# Conversion

A numeral is read with its target and shown in the four common bases, and in the target base if it
names one. A tag that is not known is passed over.
-/

namespace Abacus

/-- The renderings of one integer. -/
structure Conversion where
  hex : Text
  dec : Text
  bin : Text
  oct : Text
  first : Option Text
deriving DecidableEq, Repr

namespace Numeral

/-- Reads a numeral with the base it is asked to be shown in. -/
def ofText (s : Text) : Except Failure Numeral :=
  let r := Request.ofText s
  match read r.value with
  | .error f => .error (.numeral f)
  | .ok n =>
      if r.hasTarget then
        match baseOfTag r.tag with
        | .error f => .error (.tag f)
        | .ok target => .ok { n with target }
      else .ok n

end Numeral

/-- The renderings of an integer, in a target base as well. -/
def Conversion.ofInt (n : Int) (target : Option Base) : Conversion where
  hex := Radix.toHex n
  dec := Radix.toDec n
  bin := Radix.toBin n
  oct := Radix.toOct n
  first := target.map fun b => Radix.render b n

def Conversion.ofNumeral (n : Numeral) : Conversion := .ofInt n.value n.target

def Conversion.ofText (s : Text) : Except Failure Conversion :=
  (Numeral.ofText s).map .ofNumeral

end Abacus
