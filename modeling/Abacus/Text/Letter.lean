/-!
# Letters regardless of case

A keyword or a digit is found in either case. A few characters beyond ASCII have an ASCII letter as
their other case and are found with it.
-/

namespace Abacus.Text

/-- The ASCII letter that a character beyond ASCII stands for when case is ignored. -/
def folded? : Char → Option Char
  | 'ſ' => some 's'
  | '\u212A' => some 'k'
  | 'İ' => some 'i'
  | 'ı' => some 'i'
  | _ => none

/-- Whether the character is the given small letter, case ignored. -/
def isLetter (l c : Char) : Bool := c.toLower == l || folded? c == some l

@[simp] theorem isLetter_toLower (l c : Char) (h : folded? c = none) :
    isLetter l c = (c.toLower == l) := by
  simp [isLetter, h]

end Abacus.Text
