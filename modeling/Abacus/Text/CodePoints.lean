import Abacus.Text.Basic

/-!
# Tables of code points

Properties of characters beyond ASCII are kept as text: hexadecimal code points between blanks, and
`lo-hi` for a run of them. A table of images adds the image after a colon, several code points
joined by points; `lo-hi:t` sends a run onto the run that starts at `t`, and `lo~hi:t` does so for
every second code point.
-/

namespace Abacus.CodePoints

open Text (pieces)

/-- The value of an upper-case hexadecimal digit. -/
def hexValue (c : Char) : Nat :=
  if c.toNat < 65 then c.toNat - 48 else c.toNat - 55

def ofHex (s : List Char) : Nat :=
  s.foldl (fun n c => n * 16 + hexValue c) 0

/-- The words of a table. -/
def words (s : String) : List (List Char) :=
  (pieces (fun c => c == ' ' || c == '\n') s.toList).filter (!·.isEmpty)

/-- The first and the last member of a run. -/
def run (s : List Char) : Nat × Nat :=
  match pieces (fun c => c == '-' || c == '~') s with
  | lo :: hi :: _ => (ofHex lo, ofHex hi)
  | lo :: [] => (ofHex lo, ofHex lo)
  | [] => (0, 0)

/-- A set of code points as a list of runs. -/
abbrev Runs := List (Nat × Nat)

def Runs.ofString (s : String) : Runs :=
  (words s).map run

def Runs.contains (rs : Runs) (n : Nat) : Bool :=
  rs.any fun r => r.1 ≤ n && n ≤ r.2

/-- One line of a table of images. -/
structure Entry where
  first : Nat
  last : Nat
  step : Nat
  image : List Nat

/-- The image of a code point under one line, where it has one. -/
def Entry.imageOf? (e : Entry) (n : Nat) : Option (List Nat) :=
  if e.first ≤ n ∧ n ≤ e.last ∧ (n - e.first) % e.step = 0 then
    match e.image with
    | [t] => some [t + (n - e.first)]
    | ts => some ts
  else none

/-- A partial map from code points to sequences of them. -/
abbrev Images := List Entry

def Images.ofString (s : String) : Images :=
  (words s).map fun w =>
    match pieces (· == ':') w with
    | key :: image :: _ =>
        let r := run key
        ⟨r.1, r.2, if key.contains '~' then 2 else 1, (pieces (· == '.') image).map ofHex⟩
    | _ => ⟨1, 0, 1, []⟩

def Images.find? (is : Images) (n : Nat) : Option (List Nat) :=
  is.findSome? (·.imageOf? n)

/-- A partial map from pairs of code points to single ones, written `a.b:c`. -/
abbrev Pairs := List ((Nat × Nat) × Nat)

def Pairs.ofString (s : String) : Pairs :=
  (words s).map fun w =>
    match pieces (fun c => c == '.' || c == ':') w with
    | [a, b, c] => ((ofHex a, ofHex b), ofHex c)
    | _ => ((0, 0), 0)

def Pairs.find? (ps : Pairs) (a b : Nat) : Option Nat :=
  ps.lookup (a, b)

end Abacus.CodePoints
