import SchemaChange.Analysis.Run
import SchemaChange.Arguments
import SchemaChange.Logging
import SchemaChange.Printing

/-! # The command line

One command reads an edit script, analyzes it and prints the report. Usage errors come first, then the settings from
the environment, then the script and its analysis; each of these ends the command with an exit code of its own.
-/
namespace SchemaChange

open Console (Display)

/-- What the command relies on: files, the reading of texts, the validation of documents, the settings and the display
of an environment, and what is written of failures and events. -/
structure Host (ι : Type) where
  /-- What opening and decoding a file gives, if there is one. -/
  file? : String → Option (Except ReadFault String)
  readValue : String → Except ReadFault Value
  validate : Entries → Except ι Document
  /-- What a failed validation says. -/
  invalidText : ι → String
  settings : List (String × String) → Checked Settings
  display : List (String × String) → Display
  traceback : Failure → String
  renderLog : LogRenderer → LogFields → String

structure Outcome where
  exit : Nat
  output : String
  /-- The lines of the log. -/
  log : List String
  breakdown : Option Breakdown
  deriving DecidableEq, Repr

namespace Outcome

def usage : Outcome := ⟨2, "", [], none⟩

def broken (breakdown : Breakdown) : Outcome := ⟨1, "", [], some breakdown⟩

/-- The end of the command with an exit code, unless the printing was stopped. -/
def ofPrinting (exit : Nat) (log : List String) (p : Printing) : Outcome :=
  match p.stop with
  | some b => ⟨1, p.text, log, some b⟩
  | none => ⟨exit, p.text, log, none⟩

end Outcome

namespace LogEvent

def scriptLoaded (path : String) (inputs : Inputs) : LogEvent where
  severity := .info
  logger := "schemadiff.loader"
  title := "Edit script loaded"
  fields := [("path", .text (pathText path)), ("operations", .count inputs.operations.length),
    ("mapped_vertices", .count inputs.matching.size)]

def ofAnalysis (event : Event) : LogEvent := ⟨.debug, "schemadiff.analysis.analyzer", event.title, event.fields⟩

def ofError (title message : String) : LogEvent := ⟨.error, "schemadiff.cli.analyze", title, [("error", .text message)]⟩

end LogEvent

namespace CommandLine

variable {ι : Type} (host : Host ι)

/-- What is logged about a script, whatever the log keeps of it. -/
def events (path : String) (loaded : Except (FileError ι) Inputs) : List LogEvent :=
  match loaded with
  | .error (.fault _) => []
  | .error (.load e) => [.ofError "Edit script load failed" (e.message host.invalidText)]
  | .ok inputs =>
    .scriptLoaded path inputs :: inputs.analyze.events.map .ofAnalysis
      ++ match inputs.analyze.result with
        | .ok _ => []
        | .error failure => [.ofError "Edit operation analysis aborted" failure.message]

def reportOutput (display : Display) (args : Arguments) (settings : Settings) (report : Report) : Printing :=
  match args.format.getD settings.outputFormat with
  | .json => jsonOutput display report
  | .table => tableOutput display args.forceColors report args.script

def analyzeFile (display : Display) (args : Arguments) (settings : Settings) (log : Log)
    (opened : Except ReadFault String) : Outcome :=
  let loaded := Inputs.load host.readValue host.validate args.script opened
  let lines := log.lines host.renderLog (events host args.script loaded)
  match loaded with
  | .error (.fault fault) => .broken (.reading fault)
  | .error (.load e) => .ofPrinting 2 lines (errorLine display loadErrorWords (e.message host.invalidText))
  | .ok inputs =>
    match inputs.analyze.result with
    | .error failure =>
      let traceback := if args.verbose then some (host.traceback failure) else none
      .ofPrinting 3 lines (failureOutput display traceback failure.message)
    | .ok report => .ofPrinting 0 lines (reportOutput display args settings report)

/-- The analysis with the settings from the environment. Its log level counts only if no option gives one. -/
def runFile (args : Arguments) (env : List (String × String)) (opened : Except ReadFault String) : Outcome :=
  match host.settings env with
  | .error problems => .broken (.settings problems)
  | .ok settings =>
    let level := args.logLevel.getD settings.logLevel
    match LogName.ofText level with
    | .level rank =>
      analyzeFile host (host.display env) args settings ⟨rank, settings.logRenderer, [("script", .text args.script)]⟩ opened
    | name => .broken (.logLevel name level)

/-- The halves that can stand in a path: each is a byte that is no part of a character. -/
def isByteHalf (code : Nat) : Bool := 0xDC80 ≤ code && code ≤ 0xDCFF

def pathFault? (path : String) : Option Breakdown :=
  let codes := Text.codePoints path.toList
  if codes.any fun code => Text.isHalf code && !isByteHalf code then some .halfCharacter
  else if codes.contains 0 then some .nulInPath
  else none

def run (args : List String) (env : List (String × String)) : Outcome :=
  match Arguments.read args with
  | .error _ => .usage
  | .ok args =>
    match pathFault? args.script, args.content host.file? with
    | some fault, _ => .broken fault
    | none, .error _ => .usage
    | none, .ok opened => runFile host args env opened

end CommandLine

end SchemaChange
