import SchemaChange.Analysis.Trace
import SchemaChange.Settings

/-! # Logging

What happens is logged as events with fields. A log keeps the events that are not below its threshold, each as a line
with the fields of the event, those of the context, and the names of its logger, its level and the application.
-/
namespace SchemaChange

inductive Severity where
  | debug | info | error
  deriving DecidableEq, Repr

namespace Severity

def title : Severity → String
  | debug => "debug"
  | info => "info"
  | error => "error"

def rank : Severity → Nat
  | debug => 10
  | info => 20
  | error => 40

end Severity

abbrev LogFields := List (String × EventField)

structure LogEvent where
  severity : Severity
  logger : String
  title : String
  fields : LogFields
  deriving DecidableEq, Repr

namespace LogEvent

/-- The fields of the line of an event. What the event says itself comes before the context. -/
def line (context : LogFields) (event : LogEvent) : LogFields :=
  let own := event.fields ++ [("event", .text event.title)]
  let added := context.filter fun field => !own.any (·.1 = field.1)
  withAppContext .text
    (setField (setField (own ++ added) "logger" (.text event.logger)) "level" (.text event.severity.title))

end LogEvent

inductive LogRenderer where
  | console | json
  deriving DecidableEq, Repr

def Settings.logRenderer (settings : Settings) : LogRenderer :=
  if settings.jsonLogs || settings.isProduction then .json else .console

structure Log where
  threshold : Nat
  renderer : LogRenderer
  context : LogFields
  deriving DecidableEq, Repr

namespace Log

def keeps (log : Log) (event : LogEvent) : Bool := log.threshold ≤ event.severity.rank

/-- The lines that are written for some events. -/
def lines (log : Log) (render : LogRenderer → LogFields → String) (events : List LogEvent) : List String :=
  (events.filter log.keeps).map fun event => render log.renderer (event.line log.context)

end Log

end SchemaChange
