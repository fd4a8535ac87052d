import Abacus.Text.Basic
import Abacus.Text.Compatibility.Tables

/-!
# Compatibility composition

The normal form in which a text is checked: every character is replaced by its compatibility
decomposition, combining marks are put in the order of their classes, and what composes is composed
again. ASCII texts are left as they are.
-/

namespace Abacus.Text.Compatibility

/-- Hangul syllables are numbered by their leading consonant, vowel and trailing consonant. -/
def decomposeSyllable (i : Nat) : List Nat :=
  let lv := [0x1100 + i / 588, 0x1161 + i % 588 / 28]
  if i % 28 = 0 then lv else lv ++ [0x11A7 + i % 28]

def decompose (n : Nat) : List Nat :=
  if n < 128 then [n]
  else if 0xAC00 ≤ n ∧ n < 0xAC00 + 11172 then decomposeSyllable (n - 0xAC00)
  else (decompositions.find? n).getD [n]

def combiningClass (n : Nat) : Nat :=
  if n < 128 then 0
  else match classes.find? fun r => r.1 ≤ n && n ≤ r.2.1 with
    | some r => r.2.2
    | none => 0

/-- Places a code point before an ordered sequence, behind the marks of a lower class. -/
def place (n : Nat) : List Nat → List Nat
  | [] => [n]
  | m :: ms =>
      if 0 < combiningClass m ∧ combiningClass m < combiningClass n then m :: place n ms
      else n :: m :: ms

/-- Marks in the order of their classes; marks of one class keep their order. -/
def ordered (ns : List Nat) : List Nat := ns.foldr place []

/-- The composition of two neighbours, where there is one. -/
def composePair? (a b : Nat) : Option Nat :=
  if a < 0x1100 ∧ b < 128 then none
  else if 0x1100 ≤ a ∧ a < 0x1113 ∧ 0x1161 ≤ b ∧ b < 0x1176 then
    some (0xAC00 + ((a - 0x1100) * 21 + (b - 0x1161)) * 28)
  else if 0xAC00 ≤ a ∧ a < 0xAC00 + 11172 ∧ (a - 0xAC00) % 28 = 0 ∧ 0x11A7 < b ∧ b < 0x11C3 then
    some (a + (b - 0x11A7))
  else compositions.find? a b

/-- Composes what follows a starter; `marks` are the marks between, last first, that did not
compose with it. -/
def composeFrom (starter : Nat) (marks : List Nat) : List Nat → List Nat
  | [] => starter :: marks.reverse
  | n :: ns =>
      let blocked := match marks with
        | [] => false
        | m :: _ => combiningClass n ≤ combiningClass m
      match if blocked then none else composePair? starter n with
      | some c => composeFrom c marks ns
      | none =>
          if combiningClass n = 0 then starter :: (marks.reverse ++ composeFrom n [] ns)
          else composeFrom starter (n :: marks) ns

def compose : List Nat → List Nat
  | [] => []
  | n :: ns => if combiningClass n = 0 then composeFrom n [] ns else n :: compose ns

end Abacus.Text.Compatibility

namespace Abacus.Text

/-- The compatibility composition of a text. -/
def normalized (s : Text) : Text :=
  if s.all fun c => c.toNat < 128 then s
  else (Compatibility.compose (Compatibility.ordered
    (s.flatMap fun c => Compatibility.decompose c.toNat))).map Char.ofNat

end Abacus.Text
