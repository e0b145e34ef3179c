import SchemaChange.Difference.Detail

/-! # Difference records

A record says that one named type was added, removed or modified; a modification lists its details in the order in
which they were found. The class of a record is named after the type's kind.
-/
namespace SchemaChange

inductive Change where
  | added
  | removed
  | modified (details : List Detail)
  deriving DecidableEq, Repr

namespace Change

def status : Change → String
  | added => "added"
  | removed => "removed"
  | modified _ => "modified"

def className : Change → String
  | added => "Addition"
  | removed => "Deletion"
  | modified _ => "Modification"

def details : Change → List Detail
  | modified details => details
  | _ => []

def isModified : Change → Bool
  | modified _ => true
  | _ => false

/-- A change from the last part of a class name; only a modification keeps details. -/
def ofClassName? (className : String) (details : List Detail) : Option Change :=
  match className with
  | "Addition" => some added
  | "Deletion" => some removed
  | "Modification" => some (modified details)
  | _ => none

end Change

structure Difference where
  kind : TypeKind
  name : String
  change : Change
  deriving DecidableEq, Repr

namespace Difference

def className (d : Difference) : String := d.kind.title ++ d.change.className

def ofClassName? (className name : String) (details : List Detail) : Option Difference :=
  TypeKind.all.findSome? fun kind => do
    let rest ← Detail.classNameAfter? kind className
    let change ← Change.ofClassName? rest details
    return ⟨kind, name, change⟩

/-- Name and status, and for modifications the details. -/
def toJson (d : Difference) : JsonValue :=
  .object ([("name", .string d.name), ("status", .string d.change.status)]
    ++ match d.change with
      | .modified details => [("details", .list (details.map Detail.toJson))]
      | _ => [])

end Difference

end SchemaChange
