import SchemaChange.CommandLine
import SchemaChange.Console.Unstyled
import SchemaChange.Yaml.Reader

/-! # A standard host

A host whose scripts are YAML, whose documents are validated by their shapes, and whose display shows no styles.
-/
namespace SchemaChange

namespace Step

def describe : Step → String
  | key name => name
  | index i => toString i

end Step

namespace Problem

def describe (problem : Problem) : String :=
  ".".intercalate (problem.location.map Step.describe) ++ ": " ++ problem.kind.title

end Problem

namespace EventField

def describe : EventField → String
  | text value => JsonValue.stringText value
  | count value => toString value

end EventField

namespace Host

/-- A line of a log, with its fields as words or as an object. -/
def logLine : LogRenderer → LogFields → String
  | .console, fields => " ".intercalate (fields.map fun field => field.1 ++ "=" ++ field.2.describe)
  | .json, fields =>
    "\x7b" ++ ", ".intercalate (fields.map fun field => JsonValue.stringText field.1 ++ ": " ++ field.2.describe) ++ "\x7d"

/-- How the place of a failure is shown as markup before its message: a record that is there already was looked up
by the kind of a vertex, in brackets. -/
def placeMarkup : Cause → String
  | .alreadyRecorded .. => "[vertex.kind]"
  | _ => ""

def standard (file? : String → Option (Except ReadFault String)) : Host (List Problem) where
  file? := file?
  readValue := Yaml.load
  validate := Document.ofEntries
  invalidText problems := "\n".intercalate (problems.map Problem.describe)
  settings := Settings.ofEnvironment
  display _ := .unstyled
  traceback failure := placeMarkup failure.cause ++ failure.message
  renderLog := logLine

end Host

end SchemaChange
