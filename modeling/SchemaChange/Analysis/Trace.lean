import SchemaChange.Difference.Report

/-! # Events of an analysis

Each pass logs that it started, what it skipped and why, and how it ended; a whole analysis logs at the end how much
it found. A pass that was never entered logs its skips only.
-/
namespace SchemaChange

/-- An operation that gave no detail: the reason, and named facts about it. -/
structure Skip where
  reason : String
  fields : List (String × String)
  deriving DecidableEq, Repr

/-- The error that ended a pass: its text and the word for its kind. -/
structure Fault where
  text : String
  type : String
  deriving DecidableEq, Repr

inductive Event where
  | passStarted (pass : String)
  | skipped (pass : String) (skip : Skip)
  | passCompleted (pass : String)
  | passAborted (pass : String) (fault : Fault)
  | analysisCompleted (operations : Nat) (counts : ByKind Nat)
  deriving DecidableEq, Repr

inductive EventField where
  | text (value : String)
  | count (value : Nat)
  deriving DecidableEq, Repr

namespace Event

def title : Event → String
  | passStarted _ => "Analysis pass started"
  | skipped _ _ => "Edit operation skipped"
  | passCompleted _ => "Analysis pass completed"
  | passAborted _ _ => "Analysis pass aborted"
  | analysisCompleted _ _ => "Edit operation analysis completed"

def fields : Event → List (String × EventField)
  | passStarted pass => [("analysis_pass", .text pass)]
  | skipped pass skip =>
    [("analysis_pass", .text pass), ("reason", .text skip.reason)]
      ++ skip.fields.map fun field => (field.1, .text field.2)
  | passCompleted pass => [("analysis_pass", .text pass)]
  | passAborted pass fault =>
    [("analysis_pass", .text pass), ("error", .text fault.text), ("error_type", .text fault.type)]
  | analysisCompleted operations counts =>
    [("operations", .count operations), ("objects", .count counts.object),
      ("interfaces", .count counts.interface), ("unions", .count counts.union),
      ("enums", .count counts.enum), ("input_objects", .count counts.inputObject),
      ("scalars", .count counts.scalar)]

end Event

structure PassLog where
  pass : String
  entered : Bool
  skips : List Skip
  fault : Option Fault
  deriving DecidableEq, Repr

namespace PassLog

def ending (log : PassLog) : Event :=
  match log.fault with
  | none => .passCompleted log.pass
  | some fault => .passAborted log.pass fault

def events (log : PassLog) : List Event :=
  (if log.entered then [.passStarted log.pass] else [])
    ++ log.skips.map (.skipped log.pass)
    ++ (if log.entered then [log.ending] else [])

end PassLog

/-- Sets a field of a log event, in its place if it is there already. -/
def setField {α : Type} (event : List (String × α)) (name : String) (value : α) : List (String × α) :=
  if event.any (·.1 = name) then event.map fun field => if field.1 = name then (name, value) else field
  else event ++ [(name, value)]

/-- Adds the service and the component to a log event; the component is the event's logger. -/
def withAppContext {α : Type} (text : String → α) (event : List (String × α)) : List (String × α) :=
  let logger := ((event.find? (·.1 = "logger")).map (·.2)).getD (text "unknown")
  setField (setField event "service" (text "schemadiff")) "component" logger

end SchemaChange
