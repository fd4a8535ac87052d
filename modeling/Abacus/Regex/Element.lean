import Abacus.Decimal.Reader
import Abacus.Regex.Escape
import Abacus.Regex.Flags
import Abacus.Text.Identifier

/-!
# Elements of patterns

A pattern is a sequence of elements: characters and places, repetitions of what stands before them,
references to groups, and the signs that open, divide and close groups. In a verbose pattern blanks
and line comments are passed over.
-/

namespace Abacus.Regex

/-- What a pattern may have too much of. -/
inductive Excess where
  | repetitions
  | lookBehind
deriving DecidableEq, Repr

/-- Why a text is no pattern that can be used. -/
inductive Fault where
  | malformed
  | excess (e : Excess)
deriving DecidableEq, Repr

/-- How a group is referred to. -/
inductive Reference where
  | number (n : Nat)
  | name (s : Text)
deriving DecidableEq, Repr

/-- What an opening parenthesis opens. -/
inductive Opening where
  /-- A group that is not kept, with the flags that are switched on and off in it. -/
  | group (on off : List Flag)
  | kept (name : Option Text)
  | ahead
  | behind
  | condition (r : Reference)
deriving DecidableEq, Repr

inductive Element where
  | skipped
  | flags (on : List Flag)
  | place
  | character
  | reference (r : Reference)
  | repetition (least : Nat) (most : Option Nat)
  | opening (o : Opening)
  | bar
  | closing
deriving DecidableEq, Repr

namespace Element

/-! ## Repetitions -/

/-- Counts of repetitions stay below this limit. -/
def repetitionLimit : Nat := 4294967295

/-- The count that figures denote. -/
def count (ds : Text) : Except Fault Nat :=
  if Text.digitLimit < ds.length then .error .malformed
  else if Decimal.ofFigures ds < repetitionLimit then .ok (Decimal.ofFigures ds)
  else .error (.excess .repetitions)

/-- The repetition between two counts; a count that is left out does not bound it. -/
def ofCounts (lo hi : Text) : Except Fault Element := do
  let least ← if lo.isEmpty then pure 0 else count lo
  let most ← if hi.isEmpty then pure none else (count hi).map some
  if most.any (· < least) then throw .malformed
  return .repetition least most

/-- Takes one or two counts and the brace behind them. -/
def takeCounts? (ts : List Token) : Option (Text × Text × List Token) :=
  match takeRun Char.isDigit ts with
  | ([], .plain '\x7d' :: _) => none
  | (lo, .plain '\x7d' :: ts) => some (lo, lo, ts)
  | (lo, .plain ',' :: ts) => match takeRun Char.isDigit ts with
    | (hi, .plain '\x7d' :: ts) => some (lo, hi, ts)
    | _ => none
  | _ => none

/-- Drops the mark of a lazy or of a possessive repetition. -/
def dropMark : List Token → List Token
  | .plain '?' :: ts => ts
  | .plain '+' :: ts => ts
  | ts => ts

/-- Reads what follows an opening brace, which stands for itself if no counts follow. -/
def readCounts (ts : List Token) : Except Fault (Element × List Token) :=
  match takeCounts? ts with
  | none => .ok (.character, ts)
  | some (_, _, [.dangling]) => .error .malformed
  | some (lo, hi, ts) => (ofCounts lo hi).map fun e => (e, dropMark ts)

/-! ## Groups -/

/-- Group numbers stay below this limit. -/
def groupLimit : Nat := 1073741823

/-- The group that a condition asks for. -/
def condition? (s : Text) : Option Reference :=
  if Text.isIdentifier s then some (.name s)
  else match Decimal.readInt? s with
    | some n => if 0 < n ∧ n < groupLimit then some (.number n.toNat) else none
    | none => none

/-- Takes what follows an opening parenthesis. -/
def takeOpening? : List Token → Option (Element × List Token)
  | .plain '?' :: .plain 'P' :: .plain '<' :: ts =>
      (takeName? '>' ts).bind fun r =>
        if Text.isIdentifier r.1 then some (.opening (.kept r.1), r.2) else none
  | .plain '?' :: .plain 'P' :: .plain '=' :: ts =>
      (takeName? ')' ts).bind fun r =>
        if Text.isIdentifier r.1 then some (.reference (.name r.1), r.2) else none
  | .plain '?' :: .plain '#' :: ts => (takeUntil? ')' ts).map fun r => (.skipped, r.2)
  | .plain '?' :: .plain '=' :: ts => some (.opening .ahead, ts)
  | .plain '?' :: .plain '!' :: ts => some (.opening .ahead, ts)
  | .plain '?' :: .plain '<' :: .plain '=' :: ts => some (.opening .behind, ts)
  | .plain '?' :: .plain '<' :: .plain '!' :: ts => some (.opening .behind, ts)
  | .plain '?' :: .plain '(' :: ts =>
      (takeName? ')' ts).bind fun r =>
        (condition? r.1).map fun c => (.opening (.condition c), r.2)
  | .plain '?' :: .plain '>' :: ts => some (.opening (.group [] []), ts)
  | .plain '?' :: ts =>
      (Switches.take? ts).map fun r =>
        (match r.1 with
          | .whole on => .flags on
          | .group on off => .opening (.group on off), r.2)
  | ts => some (.opening (.kept none), ts)

/-! ## Reading -/

def ofEscape : Escape → Element
  | .place => .place
  | .kind => .character
  | .character _ => .character
  | .group n => .reference (.number n)

def isGap (c : Char) : Bool := [' ', '\t', '\n', '\r', '\x0b', '\x0c'].contains c

/-- Drops the rest of a line and the break behind it. -/
def dropLine (ts : List Token) : List Token :=
  match ts.dropWhile fun t => t != .plain '\n' && t != .dangling with
  | .plain '\n' :: ts => ts
  | ts => ts

def orMalformed {α : Type} (r : Option α) : Except Fault α := r.elim (.error .malformed) .ok

/-- Reads the element that starts with a token. -/
def read (verbose : Bool) : Token → List Token → Except Fault (Element × List Token)
  | .dangling, _ => .error .malformed
  | .escaped c, ts => orMalformed ((Escape.take? c ts).map fun r => (ofEscape r.1, r.2))
  | .plain c, ts =>
      if verbose && isGap c then .ok (.skipped, ts)
      else if verbose && c == '#' then .ok (.skipped, dropLine ts)
      else match c with
        | '|' => .ok (.bar, ts)
        | ')' => .ok (.closing, ts)
        | '^' => .ok (.place, ts)
        | '$' => .ok (.place, ts)
        | '*' => .ok (.repetition 0 none, dropMark ts)
        | '+' => .ok (.repetition 1 none, dropMark ts)
        | '?' => .ok (.repetition 0 (some 1), dropMark ts)
        | '\x7b' => readCounts ts
        | '[' => orMalformed ((takeSet? ts).map fun ts => (.character, ts))
        | '(' => orMalformed (takeOpening? ts)
        | _ => .ok (.character, ts)

end Element

end Abacus.Regex
