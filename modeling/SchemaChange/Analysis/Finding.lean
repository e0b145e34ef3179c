import SchemaChange.Analysis.Failure
import SchemaChange.Analysis.Ledger
import SchemaChange.Analysis.Trace
import SchemaChange.Edit.Matching

/-! # Findings

A pass looks at one operation at a time and comes to a finding: nothing, a reason to skip the operation, the change
of a named type, or details of one. A finding is then entered into the ledgers.
-/
namespace SchemaChange

/-- Everything that one analysis reads. -/
structure Inputs where
  oldGraph : SchemaGraph
  newGraph : SchemaGraph
  matching : Matching
  operations : List EditOperation

/-- Why an operation gives no detail, with the name of the element that covers it. -/
inductive SkipReason where
  | builtInScalar
  | containerAdded (name : String)
  | containerRemoved (name : String)
  | fieldAdded (name : String)
  | fieldRemoved (name : String)
  | argumentAdded (name : String)
  | implementerAdded (name : String)
  | implementerRemoved (name : String)
  | unionAdded (name : String)
  | unionRemoved (name : String)
  deriving DecidableEq, Repr

namespace SkipReason

def text : SkipReason → String
  | builtInScalar => "built-in scalar"
  | containerAdded _ => "container added"
  | containerRemoved _ => "container deleted"
  | fieldAdded _ => "field added"
  | fieldRemoved _ => "field deleted"
  | argumentAdded _ => "argument added"
  | implementerAdded _ => "implementer added"
  | implementerRemoved _ => "implementer deleted"
  | unionAdded _ => "union added"
  | unionRemoved _ => "union deleted"

/-- The role and the name of the element concerned. -/
def subject : SkipReason → List (String × String)
  | builtInScalar => []
  | containerAdded name => [("container", name)]
  | containerRemoved name => [("container", name)]
  | fieldAdded name => [("field", name)]
  | fieldRemoved name => [("field", name)]
  | argumentAdded name => [("argument", name)]
  | implementerAdded name => [("implementer", name)]
  | implementerRemoved name => [("implementer", name)]
  | unionAdded name => [("union", name)]
  | unionRemoved name => [("union", name)]

def toSkip (reason : SkipReason) (op : EditOperation) : Skip :=
  ⟨reason.text, ("operation", op.describe) :: reason.subject⟩

end SkipReason

inductive Finding where
  | nothing
  | skipped (reason : SkipReason)
  | change (kind : TypeKind) (name : String) (change : Change)
  | details (kind : TypeKind) (name : String) (details : List Detail)
  deriving DecidableEq, Repr

namespace Finding

/-- Changes of a container's members, recorded under a name. -/
def members (container : Container) (name : String) (changes : List MemberChange) : Finding :=
  if changes.isEmpty then nothing
  else details container.kind.toTypeKind name (changes.map (.member container.kind))

def skip? (op : EditOperation) : Finding → Option Skip
  | skipped reason => some (reason.toSkip op)
  | _ => none

end Finding

namespace Ledgers

def failure (kind : TypeKind) (name : String) (op : EditOperation) : LedgerError → Failure
  | .alreadyRecorded existing new => ⟨.alreadyRecorded kind name existing new, some op⟩
  | .notModified found => ⟨.notModified kind name found, some op⟩

def enter (ledgers : Ledgers) (op : EditOperation) : Finding → Except Failure Ledgers
  | .nothing => .ok ledgers
  | .skipped _ => .ok ledgers
  | .change kind name change =>
    match (ledgers.get kind).seed name change with
    | .ok ledger => .ok (ledgers.set kind ledger)
    | .error e => .error (failure kind name op e)
  | .details kind name details =>
    match (ledgers.get kind).amend name details with
    | .ok ledger => .ok (ledgers.set kind ledger)
    | .error e => .error (failure kind name op e)

end Ledgers

end SchemaChange
