import Abacus.CommandLine.Arguments
import Abacus.Dispatch
import Abacus.Json.Printer
import Abacus.Payload.Contract

/-!
# The command

A request is classified, unless its mode says what it is, and run. The report is written as lines or
as a JSON payload that meets its contracts; a fault of the input is written as an error. On request
the steps of the work are logged.
-/

namespace Abacus.CommandLine

/-- What is written and the exit code. -/
structure Output where
  exit : Nat
  out : Text
  err : Text

/-- What a run of the command comes to. -/
inductive Result where
  | output (o : Output)
  | usage (exit : Nat)
  | noMode
  | failed (f : Failure)
  | contractBroken

/-- A step of the work that is logged. -/
inductive Note where
  | ignoredTag (tag : Text)
  | parsed (text : Text) (n : Numeral)
  | retried (text promoted : Text)
  | answered (kind : Kind) (text : Text) (count : Nat)

def Note.line : Note → Text
  | .ignoredTag tag =>
      "fuzzycal.core.math.base_converter: Ignoring unrecognized target base tag ".toList
        ++ tag.quoted
  | .parsed text n =>
      "fuzzycal.core.math.base_converter: Parsed ".toList ++ text.quoted ++ " as ".toList
        ++ n.spelling.name ++ " (base ".toList ++ (toString n.base.val).toList ++ [')']
  | .retried text promoted =>
      "fuzzycal.core.math.expression: Retrying ".toList ++ text.quoted
        ++ " with leading-zero hex promotion: ".toList ++ promoted.quoted
  | .answered kind text count =>
      "fuzzycal.cli: ".toList ++ kind.name ++ [' '] ++ text.quoted ++ " -> ".toList
        ++ (toString count).toList ++ " items".toList

/-- What is logged of reading a numeral. -/
def numeralNotes (s : Text) : List Note :=
  match Numeral.ofText s with
  | .ok n =>
      let r := Numeral.Request.ofText s
      (if r.hasTarget && n.target.isNone then [.ignoredTag r.tag] else []) ++ [.parsed s n]
  | .error _ => []

/-- What is logged of calculating an expression. -/
def expressionNotes (cfg : Expr.Settings) (s : Text) : List Note :=
  match Expr.screen cfg s with
  | .ok () => match Expr.retry? cfg s with
    | some promoted => [.retried s promoted]
    | none => []
  | .error _ => []

def workNotes (cfg : Limits) (k : Kind) (s : Text) : List Note :=
  match k with
  | .numeral => numeralNotes s
  | .expression => expressionNotes cfg.settings s
  | .ignored => []

def lines (ls : List Text) : Text := ls.flatMap fun l => l ++ ['\n']

/-- The report as lines. -/
def plain (items : List Item) : Text :=
  lines (items.map fun i => i.description ++ [':', ' '] ++ i.label)

/-- The conversion that goes with a payload of a kind. -/
def conversion? (k : Kind) (s : Text) : Option Conversion :=
  match k with
  | .numeral => (Conversion.ofText s).toOption
  | _ => none

def payload (k : Kind) (s : Text) (items : List Item) : Json :=
  .object ([("kind".toList, .text k.name), ("input".toList, .text s),
    ("items".toList, Payload.ofItems items)] ++
      match conversion? k s with
      | some c => [("conversion".toList, Payload.ofConversion c)]
      | none => [])

/-- Whether the parts of a payload meet their contracts. -/
def meetsContracts (k : Kind) (s : Text) (items : List Item) : Bool :=
  (Payload.check Payload.resultItems.schema (Payload.ofItems items)).isEmpty &&
    (conversion? k s).all fun c =>
      (Payload.check Payload.conversionResult.schema (Payload.ofConversion c)).isEmpty

def errorLine (m : Text) : Text := "error: ".toList ++ m

/-- Runs a trimmed text by the pipeline of a kind. -/
def answer (cfg : Limits) (k : Kind) (s : Text) (json verbose : Bool) : Result :=
  let log (ns : List Note) := if verbose then ns.map Note.line else []
  match run cfg k s with
  | .error f => match f.report? with
    | some m => .output ⟨1, [], lines (log (workNotes cfg k s) ++ [errorLine m])⟩
    | none => .failed f
  | .ok items =>
      let err := lines (log (workNotes cfg k s ++ [.answered k s items.length]))
      if !json then .output ⟨0, plain items, err⟩
      else if meetsContracts k s items then
        .output ⟨0, lines [(payload k s items).pretty], err⟩
      else .contractBroken

/-- Carries out a request. -/
def perform (r : Request) : Result :=
  let s := Text.trim r.text
  match r.mode with
  | .expr => answer {} .expression s r.json r.verbose
  | .base => answer {} .numeral s r.json r.verbose
  | .auto => match classify {} s with
    | .error f => .failed (.tag f)
    | .ok reason =>
        if reason.kind = .ignored then
          .output ⟨1, [], lines
            [errorLine ("cannot classify input (".toList ++ reason.name ++ [')'])]⟩
        else answer {} reason.kind s r.json r.verbose

/-- Runs the command with its arguments. -/
def command (argv : List Text) : Result :=
  match Request.ofArguments argv with
  | .ok r => perform r
  | .error .help => .usage 0
  | .error .usage => .usage 2
  | .error .noMode => .noMode

end Abacus.CommandLine
