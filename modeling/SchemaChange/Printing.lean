import SchemaChange.Console.Display
import SchemaChange.Difference.Report
import SchemaChange.Script.Load
import SchemaChange.Settings

/-! # Printing

What the command prints on a display, part by part: reports as JSON, as plain lines or as boxed tables, and the lines
of errors. A part that cannot be printed stops the command.
-/
namespace SchemaChange

open Console (BoxTable Display styled)

/-- What stops the command for another reason than its script or the analysis. -/
inductive Breakdown where
  | settings (problems : List Problem)
  /-- A name for the log level that is none. -/
  | logLevel (name : LogName) (text : String)
  /-- A fault of reading that is no error of loading. -/
  | reading (fault : ReadFault)
  | markup (error : Console.MarkupError)
  /-- A text for the output that holds half of a surrogate pair, which cannot be written. -/
  | halfCharacter
  /-- A path that holds a NUL, which no file has. -/
  | nulInPath
  deriving DecidableEq, Repr

/-- What was printed, and what stopped the printing, if anything did. -/
structure Printing where
  text : String
  stop : Option Breakdown
  deriving DecidableEq, Repr

namespace Printing

def nothing : Printing := ⟨"", none⟩

def stopped (b : Breakdown) : Printing := ⟨"", some b⟩

/-- Prints a text at once, or nothing of it if it cannot be written. -/
def ofText (text : String) : Printing := if Text.hasHalf text.toList then stopped .halfCharacter else ⟨text, none⟩

def ofMarkup : Except Console.MarkupError String → Printing
  | .ok text => ofText text
  | .error e => stopped (.markup e)

/-- What comes after something that was printed is printed only if nothing stopped it. -/
def andThen (first second : Printing) : Printing :=
  match first.stop with
  | some _ => first
  | none => ⟨first.text ++ second.text, second.stop⟩

def all (parts : List Printing) : Printing := parts.foldr andThen nothing

end Printing

namespace Report

def styleOf : Change → String
  | .added => "green"
  | .removed => "red"
  | .modified _ => "yellow"

def boxRow (key : String) (difference : Difference) : List String :=
  [key, styled (styleOf difference.change) difference.change.status,
    "\n".intercalate (difference.change.details.map Detail.describe)]

def boxTable (kind : TypeKind) (records : Records) : BoxTable where
  title := kind.heading
  columns := [⟨"Name", some "bold cyan"⟩, ⟨"Change", none⟩, ⟨"Details", some "dim"⟩]
  rows := records.map fun entry => boxRow entry.1 entry.2

end Report

namespace CommandLine

variable (display : Display)

def plainLine (line : String) : Printing := .ofText (display.strip line ++ "\n")

def emptyLine (script : String) : String := "No schema differences in " ++ script

/-- The plain table, or a line that says that there is nothing to show. -/
def plainOutput (report : Report) (script : String) : Printing :=
  if report.isEmpty then plainLine display (emptyLine script) else .all (report.plainLines.map (plainLine display))

/-- A table for each kind that has records, or a line that says that there is nothing to show. -/
def boxedOutput (report : Report) (script : String) : Printing :=
  if report.isEmpty then
    .ofMarkup (display.print ("✅ " ++ styled "bold green" "No schema differences" ++ " in " ++ script))
  else
    .all ((report.sections.filter fun part => !part.2.isEmpty).map fun part =>
      .ofMarkup (display.printTable (Report.boxTable part.1 part.2)))

/-- A table is boxed on a terminal, or where that is asked for. -/
def tableOutput (forceColors : Bool) (report : Report) (script : String) : Printing :=
  if forceColors || display.isTerminal then boxedOutput display report script else plainOutput display report script

def jsonOutput (report : Report) : Printing := plainLine display report.toJson.render

/-- The line of an error: words in red, and a message whose brackets are shown. -/
def errorLine (words message : String) : Printing :=
  .ofMarkup (display.print ("❌ " ++ styled "bold red" words ++ " " ++ display.escape message))

def loadErrorWords : String := "Could not load edit script:"

def failureWords : String := "Analysis aborted:"

/-- The line of a failure, and its traceback if that is asked for. The traceback is printed as markup. -/
def failureOutput (traceback : Option String) (message : String) : Printing :=
  (errorLine display failureWords message).andThen <|
    match traceback with
    | none => .nothing
    | some text =>
      (Printing.ofMarkup (display.print ("\n" ++ styled "dim" "Traceback:"))).andThen (.ofMarkup (display.print text))

end CommandLine

end SchemaChange
