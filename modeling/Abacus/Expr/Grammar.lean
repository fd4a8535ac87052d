import Abacus.Expr.Lexeme

/-!
# From lexemes to trees

A reader takes lexemes from the front and leaves the rest. Operators are read by level, from the
loosest to the tightest; within brackets the grammar starts over. The argument that every reader
counts down bounds the nesting; `fuel` is enough for any text.
-/

namespace Abacus.Expr

abbrev Reader (α : Type) := List Lexeme → Option (α × List Lexeme)

/-- The levels of operators, loosest first. -/
inductive Level where
  | disjunction
  | conjunction
  | inversion
  | comparison
  | bitOr
  | bitXor
  | bitAnd
  | shift
  | sum
  | term
  | factor
  | power
deriving DecidableEq, Repr

/-- The next tighter level. -/
def Level.next : Level → Level
  | .disjunction => .conjunction
  | .conjunction => .inversion
  | .inversion => .comparison
  | .comparison => .bitOr
  | .bitOr => .bitXor
  | .bitXor => .bitAnd
  | .bitAnd => .shift
  | .shift => .sum
  | .sum => .term
  | .term => .factor
  | .factor => .power
  | .power => .power

/-- The operator of a mark at one of the levels whose operators associate to the left. -/
def Level.operator? : Level → Mark → Option BinaryOp
  | .bitOr, .bar => some .bitOr
  | .bitXor, .caret => some .bitXor
  | .bitAnd, .ampersand => some .bitAnd
  | .shift, .shiftLeft => some .shiftLeft
  | .shift, .shiftRight => some .shiftRight
  | .sum, .plus => some .add
  | .sum, .minus => some .sub
  | .term, .star => some .mul
  | .term, .slash => some .div
  | .term, .doubleSlash => some .floorDiv
  | .term, .percent => some .mod
  | .term, .at => some .matMul
  | _, _ => none

/-- The sign of a mark in front of a factor. -/
def signOf? : Mark → Option UnaryOp
  | .plus => some .keep
  | .minus => some .negate
  | .tilde => some .invert
  | _ => none

/-- Takes a comparison operator. -/
def takeComparison? : List Lexeme → Option (List Lexeme)
  | .mark .less :: s => some s
  | .mark .lessEqual :: s => some s
  | .mark .greater :: s => some s
  | .mark .greaterEqual :: s => some s
  | .mark .equal :: s => some s
  | .mark .notEqual :: s => some s
  | .keyword .in :: s => some s
  | .keyword .not :: .keyword .in :: s => some s
  | .keyword .is :: .keyword .not :: s => some s
  | .keyword .is :: s => some s
  | _ => none

/-- Takes the beginning of a clause of a comprehension. -/
def takeFor? : List Lexeme → Option (List Lexeme)
  | .keyword .async :: .keyword .for :: s => some s
  | .keyword .for :: s => some s
  | _ => none

def takeMark? (m : Mark) : List Lexeme → Option (List Lexeme)
  | .mark m' :: s => if m' = m then some s else none
  | _ => none

def takeKeyword? (k : Keyword) : List Lexeme → Option (List Lexeme)
  | .keyword k' :: s => if k' = k then some s else none
  | _ => none

/-- Whether a named expression starts. -/
def startsNamed : List Lexeme → Bool
  | .name _ :: .mark .walrus :: _ => true
  | _ => false

/-- Whether a bound of a slice is left out. -/
def endsBound : List Lexeme → Bool
  | .mark .colon :: _ => true
  | .mark .comma :: _ => true
  | .mark .rightBracket :: _ => true
  | _ => false

/-- What arguments have been read: none, positional ones only, named ones, unpacked mappings. -/
inductive ArgumentPhase where
  | start
  | positional
  | named
  | unpacked
deriving DecidableEq, Repr

/-- The phase after a named or unpacked sequence. -/
def ArgumentPhase.afterNamed : ArgumentPhase → ArgumentPhase
  | .unpacked => .unpacked
  | _ => .named

def ArgumentPhase.afterStar : ArgumentPhase → ArgumentPhase
  | .start => .positional
  | p => p

/-- What parameters of a function have been read. -/
structure ParameterState where
  seen : Bool
  slashed : Bool
  defaulted : Bool
  starred : Bool
  bare : Bool
  closed : Bool

def ParameterState.start : ParameterState := ⟨false, false, false, false, false, false⟩

mutual

/-- An expression: a function, or a disjunction that may be chosen by a condition. -/
def expression : Nat → Reader Expr
  | 0, _ => none
  | n + 1, .keyword .lambda :: s => do
      let (ps, s) ← parameters n .start s
      let s ← takeMark? .colon s
      let (body, s) ← expression n s
      some (.other .lambda (ps ++ [body]), s)
  | n + 1, s => do
      let (e, s) ← operand n .disjunction s
      match s with
      | .keyword .if :: s =>
          let (c, s) ← operand n .disjunction s
          let s ← takeKeyword? .else s
          let (o, s) ← expression n s
          some (.other .conditional [e, c, o], s)
      | s => some (e, s)

/-- An expression that may be given a name. -/
def named : Nat → Reader Expr
  | 0, _ => none
  | n + 1, .name id :: .mark .walrus :: s => do
      let (e, s) ← expression n s
      some (.other .named [.name id, e], s)
  | n + 1, s => expression n s

/-- An operand of a level: what that level and the tighter ones can build. -/
def operand : Nat → Level → Reader Expr
  | 0, _, _ => none
  | n + 1, .disjunction, s => do
      let (e, s) ← operand n .conjunction s
      let (es, s) ← operands n .or .conjunction s
      some (if es.isEmpty then e else .other .boolean (e :: es), s)
  | n + 1, .conjunction, s => do
      let (e, s) ← operand n .inversion s
      let (es, s) ← operands n .and .inversion s
      some (if es.isEmpty then e else .other .boolean (e :: es), s)
  | n + 1, .inversion, .keyword .not :: s => do
      let (e, s) ← operand n .inversion s
      some (.unary .not e, s)
  | n + 1, .inversion, s => operand n .comparison s
  | n + 1, .comparison, s => do
      let (e, s) ← operand n .bitOr s
      let (es, s) ← compared n s
      some (if es.isEmpty then e else .other .compare (e :: es), s)
  | n + 1, .factor, .mark m :: s =>
      match signOf? m with
      | some op => do
          let (e, s) ← operand n .factor s
          some (.unary op e, s)
      | none => operand n .power (.mark m :: s)
  | n + 1, .factor, s => operand n .power s
  | n + 1, .power, s => do
      let (e, s) ← awaited n s
      match s with
      | .mark .doubleStar :: s =>
          let (r, s) ← operand n .factor s
          some (.binary .pow e r, s)
      | s => some (e, s)
  | n + 1, level, s => do
      let (e, s) ← operand n level.next s
      chain n level e s

/-- The operators of a level behind a left operand. -/
def chain : Nat → Level → Expr → Reader Expr
  | 0, _, _, _ => none
  | n + 1, level, e, .mark m :: s =>
      match level.operator? m with
      | some op => do
          let (r, s) ← operand n level.next s
          chain n level (.binary op e r) s
      | none => some (e, .mark m :: s)
  | _ + 1, _, e, s => some (e, s)

/-- Further operands behind a keyword. -/
def operands : Nat → Keyword → Level → Reader (List Expr)
  | 0, _, _, _ => none
  | n + 1, k, level, .keyword k' :: s =>
      if k' = k then do
        let (e, s) ← operand n level s
        let (es, s) ← operands n k level s
        some (e :: es, s)
      else some ([], .keyword k' :: s)
  | _ + 1, _, _, s => some ([], s)

/-- Further operands behind comparison operators. -/
def compared : Nat → Reader (List Expr)
  | 0, _ => none
  | n + 1, s =>
      match takeComparison? s with
      | some s => do
          let (e, s) ← operand n .bitOr s
          let (es, s) ← compared n s
          some (e :: es, s)
      | none => some ([], s)

def awaited : Nat → Reader Expr
  | 0, _ => none
  | n + 1, .keyword .await :: s => do
      let (e, s) ← primary n s
      some (.other .await [e], s)
  | n + 1, s => primary n s

/-- An atom with attributes, calls and subscripts behind it. -/
def primary : Nat → Reader Expr
  | 0, _ => none
  | n + 1, s => do
      let (e, s) ← atom n s
      trailers n e s

def trailers : Nat → Expr → Reader Expr
  | 0, _, _ => none
  | n + 1, e, .mark .dot :: .name id :: s => trailers n (.other .member [e, .name id]) s
  | n + 1, e, .mark .leftParen :: s => do
      let (args, s) ← arguments n .start s
      trailers n (.call e args.1 args.2) s
  | n + 1, e, .mark .leftBracket :: s => do
      let (i, s) ← subscript n s
      trailers n (.other .subscript [e, i]) s
  | _ + 1, e, s => some (e, s)

def atom : Nat → Reader Expr
  | 0, _ => none
  | _ + 1, .name id :: s => some (.name id, s)
  | _ + 1, .number c :: s => some (.constant c, s)
  | _ + 1, .keyword .true :: s => some (.constant (.truth true), s)
  | _ + 1, .keyword .false :: s => some (.constant (.truth false), s)
  | _ + 1, .keyword .none :: s => some (.constant .nothing, s)
  | _ + 1, .mark .ellipsis :: s => some (.constant .ellipsis, s)
  | n + 1, .mark .leftParen :: s => parenthesised n s
  | n + 1, .mark .leftBracket :: s => bracketed n s
  | n + 1, .mark .leftBrace :: s => braced n s
  | _ + 1, _ => none

/-- What follows an opening parenthesis: a group, a tuple or a generator. -/
def parenthesised : Nat → Reader Expr
  | 0, _ => none
  | _ + 1, .mark .rightParen :: s => some (.other .tuple [], s)
  | n + 1, .keyword .yield :: s => do
      let (e, s) ← yielded n s
      let s ← takeMark? .rightParen s
      some (e, s)
  | n + 1, s => do
      let (e, s) ← item n s
      match s with
      | .mark .comma :: s =>
          let (es, s) ← items n .rightParen s
          some (.other .tuple (e :: es), s)
      | .mark .rightParen :: s => if e.isStarred then none else some (e, s)
      | s =>
          if e.isStarred then none
          else do
            let (cs, s) ← clauses n s
            let s ← takeMark? .rightParen s
            some (.other .generator (e :: cs), s)

/-- What follows an opening bracket: a list or a comprehension. -/
def bracketed : Nat → Reader Expr
  | 0, _ => none
  | _ + 1, .mark .rightBracket :: s => some (.other .list [], s)
  | n + 1, s => do
      let (e, s) ← item n s
      match s with
      | .mark .comma :: s =>
          let (es, s) ← items n .rightBracket s
          some (.other .list (e :: es), s)
      | .mark .rightBracket :: s => some (.other .list [e], s)
      | s =>
          if e.isStarred then none
          else do
            let (cs, s) ← clauses n s
            let s ← takeMark? .rightBracket s
            some (.other .listComp (e :: cs), s)

/-- What follows an opening brace: a mapping, a set or a comprehension of either. -/
def braced : Nat → Reader Expr
  | 0, _ => none
  | _ + 1, .mark .rightBrace :: s => some (.other .dict [], s)
  | n + 1, .mark .doubleStar :: s => do
      let (e, s) ← operand n .bitOr s
      let (es, s) ← entriesAfter n s
      some (.other .dict (e :: es), s)
  | n + 1, s => do
      let (e, t) ← item n s
      match t with
      | .mark .comma :: t =>
          let (es, t) ← items n .rightBrace t
          some (.other .set (e :: es), t)
      | .mark .rightBrace :: t => some (.other .set [e], t)
      | .mark .colon :: t =>
          if e.isStarred || startsNamed s then none
          else do
            let (v, t) ← expression n t
            match takeFor? t with
            | some _ =>
                let (cs, t) ← clauses n t
                let t ← takeMark? .rightBrace t
                some (.other .dictComp (e :: v :: cs), t)
            | none =>
                let (es, t) ← entriesAfter n t
                some (.other .dict (e :: v :: es), t)
      | t =>
          if e.isStarred then none
          else do
            let (cs, t) ← clauses n t
            let t ← takeMark? .rightBrace t
            some (.other .setComp (e :: cs), t)

/-- The entries of a mapping up to its closing brace. -/
def entries : Nat → Reader (List Expr)
  | 0, _ => none
  | _ + 1, .mark .rightBrace :: s => some ([], s)
  | n + 1, .mark .doubleStar :: s => do
      let (e, s) ← operand n .bitOr s
      let (es, s) ← entriesAfter n s
      some (e :: es, s)
  | n + 1, s => do
      let (k, s) ← expression n s
      let s ← takeMark? .colon s
      let (v, s) ← expression n s
      let (es, s) ← entriesAfter n s
      some (k :: v :: es, s)

/-- What follows an entry of a mapping. -/
def entriesAfter : Nat → Reader (List Expr)
  | 0, _ => none
  | n + 1, .mark .comma :: s => entries n s
  | _ + 1, s => (takeMark? .rightBrace s).map fun s => ([], s)

/-- One element of a display, which may be unpacked or given a name. -/
def item : Nat → Reader Expr
  | 0, _ => none
  | n + 1, .mark .star :: s => do
      let (e, s) ← operand n .bitOr s
      some (.other .starred [e], s)
  | n + 1, s => named n s

/-- The elements of a display up to its closing bracket. -/
def items : Nat → Mark → Reader (List Expr)
  | 0, _, _ => none
  | n + 1, close, s =>
      match takeMark? close s with
      | some s => some ([], s)
      | none => do
          let (e, s) ← item n s
          match s with
          | .mark .comma :: s =>
              let (es, s) ← items n close s
              some (e :: es, s)
          | s =>
              let s ← takeMark? close s
              some ([e], s)

/-- What follows the keyword of a generator function. -/
def yielded : Nat → Reader Expr
  | 0, _ => none
  | n + 1, .keyword .from :: s => do
      let (e, s) ← expression n s
      some (.other .yieldFrom [e], s)
  | n + 1, s => do
      let (es, s) ← yieldedItems n s
      some (.other .yield es, s)

def yieldedItems : Nat → Reader (List Expr)
  | 0, _ => none
  | _ + 1, .mark .rightParen :: s => some ([], .mark .rightParen :: s)
  | n + 1, s => do
      let (e, s) ← yieldedItem n s
      match s with
      | .mark .comma :: s =>
          let (es, s) ← yieldedItems n s
          some (e :: es, s)
      | s => some ([e], s)

def yieldedItem : Nat → Reader Expr
  | 0, _ => none
  | n + 1, .mark .star :: s => do
      let (e, s) ← operand n .bitOr s
      some (.other .starred [e], s)
  | n + 1, s => expression n s

/-- The clauses of a comprehension, at least one. -/
def clauses : Nat → Reader (List Expr)
  | 0, _ => none
  | n + 1, s => do
      let s ← takeFor? s
      let (ts, s) ← targets n s
      let s ← takeKeyword? .in s
      let (e, s) ← operand n .disjunction s
      let (cs, s) ← conditions n s
      match takeFor? s with
      | some _ =>
          let (more, s) ← clauses n s
          some (ts ++ e :: cs ++ more, s)
      | none => some (ts ++ e :: cs, s)

def conditions : Nat → Reader (List Expr)
  | 0, _ => none
  | n + 1, .keyword .if :: s => do
      let (e, s) ← operand n .disjunction s
      let (es, s) ← conditions n s
      some (e :: es, s)
  | _ + 1, s => some ([], s)

/-- The targets of an iteration, separated by commas. -/
def targets : Nat → Reader (List Expr)
  | 0, _ => none
  | n + 1, s => do
      let (t, s) ← target n s
      match s with
      | .mark .comma :: .keyword .in :: s => some ([t], .keyword .in :: s)
      | .mark .comma :: s =>
          let (ts, s) ← targets n s
          some (t :: ts, s)
      | s => some ([t], s)

def target : Nat → Reader Expr
  | 0, _ => none
  | _ + 1, .mark .star :: .mark .star :: _ => none
  | n + 1, .mark .star :: s => do
      let (t, s) ← target n s
      some (.other .starred [t], s)
  | n + 1, s => do
      let (e, s) ← primary n s
      if e.isTarget then some (e, s) else none

/-- What stands between the brackets of a subscript. -/
def subscript : Nat → Reader Expr
  | 0, _ => none
  | n + 1, s => do
      let (e, s) ← subscriptItem n s
      match s with
      | .mark .comma :: s =>
          let (es, s) ← subscriptItems n s
          some (.other .tuple (e :: es), s)
      | s =>
          let s ← takeMark? .rightBracket s
          some (if e.isStarred then .other .tuple [e] else e, s)

def subscriptItems : Nat → Reader (List Expr)
  | 0, _ => none
  | _ + 1, .mark .rightBracket :: s => some ([], s)
  | n + 1, s => do
      let (e, s) ← subscriptItem n s
      match s with
      | .mark .comma :: s =>
          let (es, s) ← subscriptItems n s
          some (e :: es, s)
      | s =>
          let s ← takeMark? .rightBracket s
          some ([e], s)

/-- An index or a slice. -/
def subscriptItem : Nat → Reader Expr
  | 0, _ => none
  | n + 1, .mark .star :: s => do
      let (e, s) ← expression n s
      some (.other .starred [e], s)
  | n + 1, .mark .colon :: s => sliceAfter n [] s
  | n + 1, s =>
      if startsNamed s then named n s
      else do
        let (e, s) ← expression n s
        match s with
        | .mark .colon :: s => sliceAfter n [e] s
        | s => some (e, s)

/-- What follows the first colon of a slice. -/
def sliceAfter : Nat → List Expr → Reader Expr
  | 0, _, _ => none
  | n + 1, es, s => do
      let (upper, s) ← bound n s
      match s with
      | .mark .colon :: s =>
          let (stride, s) ← bound n s
          some (.other .slice (es ++ upper ++ stride), s)
      | s => some (.other .slice (es ++ upper), s)

def bound : Nat → Reader (List Expr)
  | 0, _ => none
  | n + 1, s =>
      if endsBound s then some ([], s)
      else do
        let (e, s) ← expression n s
        some ([e], s)

/-- The arguments of a call up to its closing parenthesis: positional ones and named ones. -/
def arguments : Nat → ArgumentPhase → Reader (List Expr × List (Option Text × Expr))
  | 0, _, _ => none
  | _ + 1, _, .mark .rightParen :: s => some (([], []), s)
  | n + 1, phase, .mark .star :: s =>
      if phase = .unpacked then none
      else do
        let (e, s) ← expression n s
        let (rest, s) ← argumentsAfter n phase.afterStar s
        some ((.other .starred [e] :: rest.1, rest.2), s)
  | n + 1, _, .mark .doubleStar :: s => do
      let (e, s) ← expression n s
      let (rest, s) ← argumentsAfter n .unpacked s
      some ((rest.1, (none, e) :: rest.2), s)
  | n + 1, phase, .name id :: .mark .assign :: s => do
      let (e, s) ← expression n s
      let (rest, s) ← argumentsAfter n phase.afterNamed s
      some ((rest.1, (some id, e) :: rest.2), s)
  | n + 1, phase, s =>
      if phase = .named || phase = .unpacked then none
      else do
        let (e, s) ← named n s
        if phase = .start && (takeFor? s).isSome then do
          let (cs, s) ← clauses n s
          let s ← takeMark? .rightParen s
          some (([.other .generator (e :: cs)], []), s)
        else do
          let (rest, s) ← argumentsAfter n .positional s
          some ((e :: rest.1, rest.2), s)

/-- What follows an argument. -/
def argumentsAfter : Nat → ArgumentPhase → Reader (List Expr × List (Option Text × Expr))
  | 0, _, _ => none
  | n + 1, phase, .mark .comma :: s => arguments n phase s
  | _ + 1, _, s => (takeMark? .rightParen s).map fun s => (([], []), s)

/-- The parameters of a function up to its colon; their defaults are kept. -/
def parameters : Nat → ParameterState → Reader (List Expr)
  | 0, _, _ => none
  | n + 1, st, s =>
      match s with
      | .mark .colon :: _ => if st.bare then none else some ([], s)
      | .mark .slash :: s =>
          if st.seen && !st.slashed && !st.starred && !st.closed then
            parametersAfter n { st with slashed := true } s
          else none
      | .mark .star :: .mark .comma :: s =>
          if st.starred || st.closed then none
          else parameters n { st with starred := true, bare := true } s
      | .mark .star :: .name _ :: s =>
          if st.starred || st.closed then none
          else parametersAfter n { st with starred := true } s
      | .mark .doubleStar :: .name _ :: s =>
          if st.bare || st.closed then none else parametersAfter n { st with closed := true } s
      | .name _ :: .mark .assign :: s =>
          if st.closed then none
          else do
            let (e, s) ← expression n s
            let (es, s) ←
              parametersAfter n { st with seen := true, defaulted := true, bare := false } s
            some (e :: es, s)
      | .name _ :: s =>
          if st.closed || (st.defaulted && !st.starred) then none
          else parametersAfter n { st with seen := true, bare := false } s
      | _ => none

/-- What follows a parameter. -/
def parametersAfter : Nat → ParameterState → Reader (List Expr)
  | 0, _, _ => none
  | n + 1, st, .mark .comma :: s => parameters n st s
  | _ + 1, _, .mark .colon :: s => some ([], .mark .colon :: s)
  | _ + 1, _, _ => none

end

/-- The expressions behind a comma outside brackets. -/
def further : Nat → Reader (List Expr)
  | 0, _ => none
  | _ + 1, [] => some ([], [])
  | _ + 1, .newline :: s => some ([], .newline :: s)
  | n + 1, s => do
      let (e, s) ← expression n s
      match s with
      | .mark .comma :: s =>
          let (es, s) ← further n s
          some (e :: es, s)
      | s => some ([e], s)

/-- Several expressions separated by commas make a tuple. -/
def topLevel (n : Nat) : Reader Expr := fun s => do
  let (e, s) ← expression n s
  match s with
  | .mark .comma :: s =>
      let (es, s) ← further n s
      some (.other .tuple (e :: es), s)
  | s => some (e, s)

/-- Whether only line breaks are left. -/
def isSpent : List Lexeme → Bool
  | [] => true
  | .newline :: s => isSpent s
  | _ => false

/-- Readers nest at most so deep between two lexemes that this is enough for all of them. -/
def fuel (s : List Lexeme) : Nat := 32 * (s.length + 1)

/-- The tree that lexemes make up. -/
def ofLexemes? (s : List Lexeme) : Option Expr :=
  match topLevel (fuel s) s with
  | some (e, rest) => if isSpent rest then some e else none
  | none => none

example : ofLexemes? [.name ['f'], .mark .leftParen, .number (.integer 1), .mark .comma,
      .mark .leftParen, .number (.integer 2), .mark .rightParen, .mark .rightParen] =
    some (.call (.name ['f']) [.constant (.integer 1), .constant (.integer 2)] []) := by
  cbv

end Abacus.Expr
