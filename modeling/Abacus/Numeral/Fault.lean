import Abacus.Text.Quoted

/-!
# What can be wrong with a numeral
-/

namespace Abacus.Numeral

inductive Fault where
  /-- No way of writing numerals fits the text. -/
  | unrecognized (text : Text)
  /-- A character is no digit, or a digit not below the base. -/
  | invalidDigit (digit : Char) (base : Int)
deriving DecidableEq, Repr

def Fault.message : Fault → Text
  | .unrecognized text => "Unrecognized number format: ".toList ++ text.quoted
  | .invalidDigit digit base =>
      "Digit ".toList ++ Text.quoted [digit] ++ " is out of range for base ".toList
        ++ (toString base).toList

end Abacus.Numeral
