import SchemaChange.Edit.Operation
import SchemaChange.TypeLabel
import SchemaChange.Difference.Report

/-! # Failures of an analysis

The analysis relies on edits that fit the graphs and the matching. When they do not, it stops with a failure: a
cause, and the operation at hand where the cause concerns one.
-/
namespace SchemaChange

inductive Cause where
  | alreadyRecorded (kind : TypeKind) (name : String) (existing new : Change)
  | notModified (kind : TypeKind) (name : String) (found : Change)
  | kindChanged
  | owner (error : OwnerError)
  | notTypeLabel (label : String)
  | noPreimage (vertex : Vertex)
  | noDeletedTypeEdge (vertex : Vertex)
  | notImplementer
  | alreadyUsed
  | unreachable
  deriving DecidableEq, Repr

def Cause.message : Cause → String
  | alreadyRecorded kind name existing new =>
    kind.title ++ " " ++ Text.quoted name ++ " already recorded as " ++ kind.title ++ existing.className
      ++ ", cannot record " ++ kind.title ++ new.className
  | notModified kind name found =>
    "Expected " ++ kind.title ++ " " ++ Text.quoted name ++ " to be a modification, found " ++ kind.title
      ++ found.className
  | kindChanged => "A changed vertex must keep its kind"
  | owner error => error.message
  | notTypeLabel label => "Expected a type edge label, got " ++ Text.quoted label
  | noPreimage v =>
    v.kind.title ++ " " ++ Text.quoted v.name ++ " has a new type edge but no pre-image"
  | noDeletedTypeEdge v =>
    "No deleted type edge pairs with the new type of " ++ v.kind.title.toLower ++ " " ++ Text.quoted v.name
  | notImplementer => "expected an implementation edge"
  | alreadyUsed => "EditOperationAnalyzer is single use"
  | unreachable => "should never happen"

structure Failure where
  cause : Cause
  operation : Option EditOperation
  deriving DecidableEq, Repr

def Failure.message (f : Failure) : String :=
  match f.operation with
  | some op => f.cause.message ++ " (while handling " ++ op.describe ++ ")"
  | none => f.cause.message

def Failure.type : String := "InternalConsistencyError"

/-- The content of a type edge's label. -/
def TypeLabel.read (label : String) : Except Failure TypeLabel :=
  match TypeLabel.decode? label with
  | some info => .ok info
  | none => .error ⟨.notTypeLabel label, none⟩

end SchemaChange
