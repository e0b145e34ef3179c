import SchemaChange.Script.Checked
import SchemaChange.Text.LetterCase

/-! # Settings

Settings come from environment variables whose names start with `SCHEMADIFF_`, in any case; of several spellings of
one name the last counts. Every value that does not fit is reported.
-/
namespace SchemaChange

inductive Environment where
  | development | testing | production
  deriving DecidableEq, Repr

inductive OutputFormat where
  | table | json
  deriving DecidableEq, Repr

def Environment.title : Environment → String
  | development => "development"
  | testing => "testing"
  | production => "production"

def OutputFormat.title : OutputFormat → String
  | table => "table"
  | json => "json"

def Environment.ofTitle? (text : String) : Option Environment :=
  [development, testing, production].find? (·.title = text)

def OutputFormat.ofTitle? (text : String) : Option OutputFormat := [table, json].find? (·.title = text)

def booleanWords : List (String × Bool) :=
  [("true", true), ("t", true), ("yes", true), ("y", true), ("on", true), ("1", true),
    ("false", false), ("f", false), ("no", false), ("n", false), ("off", false), ("0", false)]

def lowerCase (text : String) : String := String.ofList (text.toList.map Char.toLower)

/-- A yes or no, ignoring case but not blanks. -/
def boolean? (text : String) : Option Bool :=
  (booleanWords.find? (·.1 = lowerCase text)).map (·.2)

structure Settings where
  environment : Environment
  logLevel : String
  jsonLogs : Bool
  outputFormat : OutputFormat
  deriving DecidableEq, Repr

namespace Settings

def isProduction (s : Settings) : Bool := s.environment = .production

def valueOf? (env : List (String × String)) (field : String) : Option String :=
  (env.reverse.find? fun entry => lowerCase entry.1 = "schemadiff_" ++ field).map (·.2)

/-- A field's value read by `read?`, or its default when it is not set. -/
def checkField {α : Type} (env : List (String × String)) (field : String) (default : α)
    (problem : ProblemKind) (read? : String → Option α) : Checked α :=
  match valueOf? env field with
  | none => .ok default
  | some text =>
    match read? text with
    | some a => .ok a
    | none => Checked.under (.key field) (Checked.fail problem)

def ofEnvironment (env : List (String × String)) : Checked Settings :=
  let fields :=
    Checked.both (checkField env "environment" .development .notChoice Environment.ofTitle?)
      (Checked.both (checkField env "log_level" "WARNING" .notChoice some)
        (Checked.both (checkField env "json_logs" false .notBoolean boolean?)
          (checkField env "output_format" .table .notChoice OutputFormat.ofTitle?)))
  fields.map fun (environment, logLevel, jsonLogs, outputFormat) =>
    ⟨environment, logLevel, jsonLogs, outputFormat⟩

end Settings

/-- The names of levels with their ranks. -/
def logLevels : List (String × Nat) :=
  [("CRITICAL", 50), ("FATAL", 50), ("ERROR", 40), ("WARNING", 30), ("WARN", 30), ("INFO", 20), ("DEBUG", 10),
    ("NOTSET", 0)]

/-- What a name, in capitals, stands for in a log. -/
inductive LogName where
  | level (rank : Nat)
  /-- The format of its lines, which is a text. -/
  | format
  /-- The table of the styles of formats. -/
  | styles
  | unknown
  deriving DecidableEq, Repr

def LogName.ofText (text : String) : LogName :=
  let name := Text.capitals text
  match logLevels.lookup name with
  | some rank => level rank
  | none =>
    if name = "BASIC_FORMAT" then format
    else if name = "_STYLES" then styles
    else unknown

end SchemaChange
