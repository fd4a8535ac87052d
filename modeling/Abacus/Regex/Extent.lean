/-!
# Extents of patterns

The extent of a pattern bounds the lengths of the texts that it matches. It is computed from the
extents of the parts, without looking at what they match.
-/

namespace Abacus.Regex

/-- The least and the greatest length of a match; there may be no greatest one. -/
structure Extent where
  least : Nat
  most : Option Nat
deriving DecidableEq, Repr

namespace Extent

def empty : Extent := ⟨0, some 0⟩

def character : Extent := ⟨1, some 1⟩

/-- One match behind the other. -/
def append (a b : Extent) : Extent :=
  ⟨a.least + b.least, a.most.bind fun m => b.most.map (m + ·)⟩

/-- A match of either. -/
def either (a b : Extent) : Extent :=
  ⟨min a.least b.least, a.most.bind fun m => b.most.map (max m ·)⟩

/-- At least and at most so many matches. Only empty matches can be repeated without a bound and
stay bounded. -/
def repeated (a : Extent) (least : Nat) (most : Option Nat) : Extent :=
  ⟨a.least * least,
    if a.most = some 0 ∨ most = some 0 then some 0
    else a.most.bind fun m => most.map (m * ·)⟩

/-- Whether all matches have one length. Lengths from 2 ^ 32 - 1 on are not told apart. -/
def isFixed (a : Extent) : Bool := a.most = some a.least && a.least < 4294967295

/-- Whether the matches are too long to be stepped over backwards. -/
def isFar (a : Extent) : Bool := 2147483648 ≤ a.least

end Extent

end Abacus.Regex
