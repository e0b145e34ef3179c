import SchemaChange.Difference.Report
import SchemaChange.Proofs.Guarded.Halt
import SchemaChange.Proofs.Stores.Table

/-! # Views by class

A view looks at the class of an object and at its attributes, and breaks where it has no case for the class. It has a
case for the class of every record and every detail.
-/
namespace SchemaChange

/-- A detail as its class and its attributes, of which some may have no value. -/
structure DetailObject where
  className : String
  attributes : Table String (Option String)

namespace DetailObject

def ofDetail (detail : Detail) : DetailObject := ⟨detail.className, detail.fields⟩

/-- An attribute as it stands in a text. -/
def text? (d : DetailObject) (key : String) : Option String :=
  (d.attributes.get? key).map (·.getD "None")

def default? (d : DetailObject) (key : String) : Option String :=
  (d.attributes.get? key).map (·.getD "<none>")

def line? (d : DetailObject) : Option String :=
  match d.className with
  | "ObjectFieldAddition" | "InterfaceFieldAddition" => do
    let name ← d.text? "name"
    return "field '" ++ name ++ "' added"
  | "ObjectFieldDeletion" | "InterfaceFieldDeletion" => do
    let name ← d.text? "name"
    return "field '" ++ name ++ "' removed"
  | "ObjectFieldRename" | "InterfaceFieldRename" => do
    let old ← d.text? "old_name"
    let new ← d.text? "new_name"
    return "field '" ++ old ++ "' renamed to '" ++ new ++ "'"
  | "ObjectFieldTypeModification" | "InterfaceFieldTypeModification" => do
    let field ← d.text? "field_name"
    let old ← d.text? "old_type"
    let new ← d.text? "new_type"
    return "field '" ++ field ++ "' type changed from " ++ old ++ " to " ++ new
  | "ObjectFieldArgumentDeletion" | "InterfaceFieldArgumentDeletion" => do
    let field ← d.text? "field_name"
    let name ← d.text? "name"
    return "argument '" ++ field ++ "." ++ name ++ "' removed"
  | "ObjectFieldArgumentTypeModification" | "InterfaceFieldArgumentTypeModification" => do
    let field ← d.text? "field_name"
    let name ← d.text? "argument_name"
    let old ← d.text? "old_type"
    let new ← d.text? "new_type"
    return "argument '" ++ field ++ "." ++ name ++ "' type changed from " ++ old ++ " to " ++ new
  | "ObjectFieldArgumentDefaultValueModification" | "InterfaceFieldArgumentDefaultValueModification" => do
    let field ← d.text? "field_name"
    let name ← d.text? "argument_name"
    let old ← d.default? "old_value"
    let new ← d.default? "new_value"
    return "argument '" ++ field ++ "." ++ name ++ "' default changed from " ++ old ++ " to " ++ new
  | "ObjectInterfaceImplementationAddition" | "InterfaceInterfaceImplementationAddition" => do
    let name ← d.text? "name"
    return "now implements '" ++ name ++ "'"
  | "ObjectInterfaceImplementationDeletion" | "InterfaceInterfaceImplementationDeletion" => do
    let name ← d.text? "name"
    return "no longer implements '" ++ name ++ "'"
  | "UnionMemberAddition" => do
    let name ← d.text? "name"
    return "member '" ++ name ++ "' added"
  | "UnionMemberDeletion" => do
    let name ← d.text? "name"
    return "member '" ++ name ++ "' removed"
  | _ => none

variable {ε : Type}

def describe (d : DetailObject) : Guarded ε String := .demand (.unknownClass d.className) d.line?

def toJson (d : DetailObject) : JsonValue :=
  .object (("type", .string d.className) :: d.attributes.map fun entry =>
    (entry.1, Detail.optionalText entry.2))

theorem line?_ofDetail (detail : Detail) : (ofDetail detail).line? = some detail.describe := by
  cases detail with
  | member container change => cases container <;> cases change <;> rfl
  | unionMemberAdded | unionMemberRemoved => rfl

theorem describe_ofDetail (detail : Detail) : (ofDetail detail).describe = (.ok detail.describe : Guarded ε String) := by
  rw [describe, line?_ofDetail, Guarded.demand_some]

theorem toJson_ofDetail (detail : Detail) : (ofDetail detail).toJson = detail.toJson := rfl

end DetailObject

/-- A record as its class, its name and its details, which only some classes have. -/
structure RecordObject where
  className : String
  name : String
  details : Option (List DetailObject)

namespace RecordObject

def ofDifference (d : Difference) : RecordObject where
  className := d.className
  name := d.name
  details := match d.change with
    | .modified details => some (details.map .ofDetail)
    | _ => none

variable {ε : Type}

def status (r : RecordObject) : Guarded ε String :=
  match r.className with
  | "ObjectAddition" | "InterfaceAddition" | "UnionAddition" | "EnumAddition" | "InputObjectAddition"
  | "ScalarAddition" => .ok "added"
  | "ObjectDeletion" | "InterfaceDeletion" | "UnionDeletion" | "EnumDeletion" | "InputObjectDeletion"
  | "ScalarDeletion" => .ok "removed"
  | "ObjectModification" | "InterfaceModification" | "UnionModification" | "EnumModification"
  | "InputObjectModification" | "ScalarModification" => .ok "modified"
  | className => .error (.broken (.unknownClass className))

def toJson (r : RecordObject) : Guarded ε JsonValue := do
  let status ← r.status
  let details := if status = "modified" then
    [("details", JsonValue.list ((r.details.getD []).map DetailObject.toJson))] else []
  .ok (.object ([("name", .string r.name), ("status", .string status)] ++ details))

theorem status_ofDifference (d : Difference) : (ofDifference d).status = (.ok d.change.status : Guarded ε String) := by
  obtain ⟨kind, name, change⟩ := d
  cases kind <;> cases change <;> rfl

theorem toJson_ofDifference (d : Difference) : (ofDifference d).toJson = (.ok d.toJson : Guarded ε JsonValue) := by
  rw [toJson, status_ofDifference, Guarded.ok_bind]
  obtain ⟨kind, name, change⟩ := d
  cases change with
  | added | removed => rfl
  | modified details =>
    have hDetails : (details.map DetailObject.ofDetail).map DetailObject.toJson = details.map Detail.toJson :=
      List.map_map.trans (List.map_congr_left fun detail _ => DetailObject.toJson_ofDetail detail)
    simp only [ofDifference, Change.status, if_true, Option.getD_some, hDetails]
    rfl

end RecordObject

namespace Report

variable {ε : Type}

def recordsView (records : Records) : Guarded ε (List (String × JsonValue)) :=
  records.mapM fun entry => do
    let json ← (RecordObject.ofDifference entry.2).toJson
    .ok (entry.1, json)

def view (report : Report) : Guarded ε JsonValue := do
  let parts ← report.sections.mapM fun part => do
    let records ← recordsView part.2
    .ok (part.1.key, JsonValue.object records)
  .ok (.object parts)

theorem recordsView_eq (records : Records) :
    recordsView records = (.ok (records.map fun entry => (entry.1, entry.2.toJson)) : Guarded ε _) := by
  apply Guarded.mapM_eq_ok
  intro entry
  rw [RecordObject.toJson_ofDifference, Guarded.ok_bind]

theorem view_eq (report : Report) : report.view = (.ok report.toJson : Guarded ε JsonValue) := by
  have hParts : ∀ part : TypeKind × Records, (do
      let records ← recordsView part.2
      .ok (part.1.key, JsonValue.object records) : Guarded ε (String × JsonValue)) =
        .ok (part.1.key, .object (part.2.map fun entry => (entry.1, entry.2.toJson))) := by
    intro part
    rw [recordsView_eq, Guarded.ok_bind]
  rw [view, Guarded.mapM_eq_ok hParts]
  rfl

end Report

end SchemaChange
