/-!
# Bases

A numeral is written in a base between two and thirty-six, so that ten digits and twenty-six letters
suffice.
-/

namespace Abacus

structure Base where
  val : Nat
  two_le : 2 ≤ val := by decide
  le_max : val ≤ 36 := by decide
deriving DecidableEq, Repr

namespace Base

def two : Base := ⟨2, by decide, by decide⟩
def eight : Base := ⟨8, by decide, by decide⟩
def ten : Base := ⟨10, by decide, by decide⟩
def sixteen : Base := ⟨16, by decide, by decide⟩

/-- The base of a given value, if the value is in range. -/
def ofInt? (n : Int) : Option Base :=
  if h : 2 ≤ n ∧ n ≤ 36 then some ⟨n.toNat, by omega, by omega⟩ else none

/-- What is said of a value out of range. -/
def refusal (n : Int) : List Char :=
  "base must be in [2, 36], got ".toList ++ (toString n).toList

/-- The base nearest to a value. -/
def clamp (n : Int) : Base :=
  if h : n < 2 then two
  else if h' : 36 < n then ⟨36, by decide, by decide⟩
  else ⟨n.toNat, by omega, by omega⟩

@[simp] theorem ofInt?_val (b : Base) : ofInt? b.val = some b := by
  have := b.two_le
  have := b.le_max
  simp [ofInt?]
  omega

@[simp] theorem clamp_val (b : Base) : clamp b.val = b := by
  have := b.two_le
  have := b.le_max
  unfold clamp
  split
  · omega
  · split
    · omega
    · rfl

end Base

end Abacus
