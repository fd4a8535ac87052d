import Abacus.Regex.Token

/-!
# Flags of patterns

Letters behind a question mark switch flags for a group, up to a colon, or for the whole pattern, up
to a parenthesis. In a group, the letters behind a minus switch flags off.
-/

namespace Abacus.Regex

inductive Flag where
  | ascii
  | dotAll
  | ignoreCase
  | locale
  | multiline
  | template
  | unicode
  | verbose
deriving DecidableEq, Repr

def Flag.ofChar? : Char → Option Flag
  | 'a' => some .ascii
  | 's' => some .dotAll
  | 'i' => some .ignoreCase
  | 'L' => some .locale
  | 'm' => some .multiline
  | 't' => some .template
  | 'u' => some .unicode
  | 'x' => some .verbose
  | _ => none

/-- Whether the flag chooses the letters and digits of the classes of characters. Such a flag cannot
be switched off. -/
def Flag.choosesLetters (f : Flag) : Bool := f == .ascii || f == .locale || f == .unicode

/-- Whether no two of the flags exclude each other. -/
def compatible (fs : List Flag) : Bool := !(fs.contains .ascii && fs.contains .unicode)

/-- Flags for the whole pattern, or switched on and off for a group. -/
inductive Switches where
  | whole (on : List Flag)
  | group (on off : List Flag)
deriving DecidableEq, Repr

/-- Takes the letters of flags. -/
def takeFlags (ts : List Token) : List Flag × List Token :=
  let r := takeRun (fun c => (Flag.ofChar? c).isSome) ts
  (r.1.filterMap Flag.ofChar?, r.2)

namespace Switches

/-- The flags of the locale are for patterns of bytes only. -/
def whole? (on : List Flag) : Option Switches :=
  if on.isEmpty || on.contains .locale || !compatible on then none else some (.whole on)

/-- A template is a property of the whole pattern. -/
def group? (on off : List Flag) : Option Switches :=
  if on.contains .locale || on.contains .template || !compatible on || off.contains .template ||
      off.any Flag.choosesLetters || off.any on.contains then none
  else some (.group on off)

/-- Takes flags and the sign that ends them. -/
def take? (ts : List Token) : Option (Switches × List Token) :=
  match takeFlags ts with
  | (on, .plain ')' :: r) => (whole? on).map fun s => (s, r)
  | (on, .plain ':' :: r) => (group? on []).map fun s => (s, r)
  | (on, .plain '-' :: r) =>
      match takeFlags r with
      | (f :: off, .plain ':' :: r) => (group? on (f :: off)).map fun s => (s, r)
      | _ => none
  | _ => none

end Switches

end Abacus.Regex
