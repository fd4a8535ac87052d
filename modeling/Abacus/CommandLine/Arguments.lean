import Abacus.Text.Basic
import Abacus.Text.Digit

/-!
# Arguments

The command takes one or more words of text and the options for help, mode, output format and
logging. A long option may be shortened as long as it stays unique, and short options without
a value may be written together. Everything behind a double dash is text. A text that starts with a
minus would be taken for an option; if such a text occurs, the options are put first and the text
behind a double dash.
-/

namespace Abacus.CommandLine

inductive Mode where
  | auto
  | expr
  | base
deriving DecidableEq, Repr

def Mode.ofName? (s : Text) : Option Mode :=
  if s = "auto".toList then some .auto
  else if s = "expr".toList then some .expr
  else if s = "base".toList then some .base
  else none

inductive Switch where
  | help
  | mode
  | json
  | verbose
deriving DecidableEq, Repr

def longOptions : List (Text × Switch) :=
  [("--help".toList, .help), ("--mode".toList, .mode), ("--json".toList, .json),
    ("--verbose".toList, .verbose)]

def shortOptions : List (Char × Switch) := [('h', .help), ('v', .verbose)]

/-! ## Text with a sign -/

/-- Whether an argument is text that starts with a minus: a figure, a point or a parenthesis
follows. -/
def isSignedText : Text → Bool
  | '-' :: c :: _ => c.isDigit || c == '.' || c == '('
  | _ => false

def separator : Text := ['-', '-']

def modeOption : Text := "--mode".toList

/-- Whether an argument is an option that has its value in itself or takes none. -/
def isPlainOption (s : Text) : Bool :=
  Text.startsWith s "--mode=".toList ||
    ["--json".toList, "-v".toList, "--verbose".toList, "-h".toList, "--help".toList].contains s

/-- The options and the text among the arguments. -/
def partition : List Text → List Text × List Text
  | [] => ([], [])
  | [s] =>
      if s = modeOption || isPlainOption s then ([s], []) else ([], [s])
  | s :: v :: r =>
      if s = modeOption then
        let p := partition r
        (s :: v :: p.1, p.2)
      else
        let p := partition (v :: r)
        if isPlainOption s then (s :: p.1, p.2) else (p.1, s :: p.2)

/-- Puts options first and text behind a double dash, where a text starts with a sign. -/
def optionsFirst (argv : List Text) : List Text :=
  if argv.contains separator || !argv.any isSignedText then argv
  else (partition argv).1 ++ [separator] ++ (partition argv).2

/-! ## What an argument is -/

/-- What an argument is by itself. `letters` are short options written together behind one minus,
of which each has to be known. -/
inductive Argument where
  | text (s : Text)
  | separator
  | letters (switches : Option (List Switch))
  | option (switch : Switch) (value : Option Text)
  | unknown
  | ambiguous

/-- The part before the first equality sign, and the part behind it if there is one. -/
def splitValue (s : Text) : Text × Option Text :=
  match s.dropWhile (· != '=') with
  | [] => (s, none)
  | _ :: v => (s.takeWhile (· != '='), some v)

/-- A minus and decimal digits, with or without a point before the last of them. -/
def isNegativeNumber (s : Text) : Bool :=
  match Text.withoutLastBreak s with
  | '-' :: r =>
      let ds := r.takeWhile Text.isDecimal
      match r.drop ds.length with
      | [] => !ds.isEmpty
      | '.' :: t => !t.isEmpty && t.all Text.isDecimal
      | _ => false
  | _ => false

/-- An argument with a minus that is no option: a negative number, words, or an option that is not
known. -/
def Argument.ofOther (s : Text) : Argument :=
  if isNegativeNumber s || s.contains ' ' then .text s else .unknown

/-- An argument that starts with two minuses: an option by its spelling, or by a beginning that no
other option shares. -/
def Argument.ofLong (s : Text) : Argument :=
  let p := splitValue s
  match longOptions.lookup p.1 with
  | some w => .option w p.2
  | none => match longOptions.filter fun o => Text.startsWith o.1 p.1 with
    | [] => ofOther s
    | [o] => .option o.2 p.2
    | _ => .ambiguous

/-- The options that letters stand for. An equality sign may stand between the first letter and the
others. -/
def ofLetters? : Text → Option (List Switch)
  | c :: '=' :: d :: r => (c :: d :: r).mapM fun l => shortOptions.lookup l
  | s => s.mapM fun l => shortOptions.lookup l

/-- What an argument in front of a double dash is. -/
def Argument.ofText (s : Text) : Argument :=
  if s = CommandLine.separator then .separator
  else match s with
    | '-' :: '-' :: _ => ofLong s
    | '-' :: c :: r =>
        if (shortOptions.lookup c).isSome then .letters (ofLetters? (c :: r)) else ofOther s
    | _ => .text s

/-- The arguments in order; all that follows a double dash is text. -/
def Argument.ofTexts : List Text → List Argument
  | [] => []
  | s :: ss =>
      match ofText s with
      | .separator => .separator :: ss.map .text
      | a => a :: ofTexts ss

/-! ## What the arguments ask for -/

structure Request where
  text : Text
  mode : Mode
  json : Bool
  verbose : Bool
deriving DecidableEq, Repr

/-- Why no request comes about. -/
inductive Stop where
  | help
  | usage
  /-- The arguments are in order but for a mode whose value is a double dash. -/
  | noMode
deriving DecidableEq, Repr

/-- What has been read: the words of the text, whether the text may still go on, whether something
is left over, and the options. -/
structure Progress where
  words : Option (List Text)
  isOpen : Bool
  leftOver : Bool
  mode : Option Mode
  json : Bool
  verbose : Bool

def Progress.start : Progress := ⟨none, false, false, some .auto, false, false⟩

/-- Takes an option without a value. -/
def Progress.flag (p : Progress) : Switch → Except Stop Progress
  | .help => .error .help
  | .json => .ok { p with json := true }
  | .verbose => .ok { p with verbose := true }
  | .mode => .error .usage

/-- Takes the value of the mode. A double dash leaves the mode without a value, and a later one may
set it again. -/
def Progress.setMode (p : Progress) (v : Text) : Except Stop Progress :=
  if v = CommandLine.separator then .ok { p with mode := none }
  else match Mode.ofName? v with
    | some m => .ok { p with mode := some m }
    | none => .error .usage

/-- Takes one word. A text is made up of neighbouring words. -/
def Progress.word (p : Progress) (s : Text) : Progress :=
  match p.words with
  | none => { p with words := some [s], isOpen := true }
  | some ws =>
      if p.isOpen then { p with words := some (ws ++ [s]) } else { p with leftOver := true }

/-- Takes a double dash, which is left over where no text can follow it. -/
def Progress.separator (p : Progress) : Progress :=
  if p.words.isSome && !p.isOpen then { p with leftOver := true } else p

def Progress.close (p : Progress) : Progress := { p with isOpen := false }

/-- Takes the arguments one after the other. -/
def consume (p : Progress) : List Argument → Except Stop Progress
  | [] => .ok p
  | .text s :: as => consume (p.word s) as
  | .separator :: as => consume p.separator as
  | .unknown :: as => consume { p.close with leftOver := true } as
  | .ambiguous :: _ => .error .usage
  | .letters none :: _ => .error .usage
  | .letters (some ws) :: as => do consume (← ws.foldlM Progress.flag p.close) as
  | .option .mode (some v) :: as => do consume (← p.close.setMode v) as
  | .option .mode none :: .text v :: as => do consume (← p.close.setMode v) as
  | .option _ (some _) :: _ => .error .usage
  | .option w none :: as => do consume (← p.close.flag w) as

/-- Whether an argument leaves open which option is meant. -/
def Argument.isAmbiguous : Argument → Bool
  | .ambiguous => true
  | _ => false

/-- The request that arguments make. -/
def Request.ofArguments (argv : List Text) : Except Stop Request :=
  let as := Argument.ofTexts (optionsFirst argv)
  if as.any Argument.isAmbiguous then .error .usage
  else match consume .start as with
    | .error e => .error e
    | .ok p =>
        if p.leftOver then .error .usage
        else match p.words, p.mode with
          | some ws, some m => .ok ⟨Text.joined [' '] ws, m, p.json, p.verbose⟩
          | some _, none => .error .noMode
          | none, _ => .error .usage

end Abacus.CommandLine
