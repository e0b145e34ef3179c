import SchemaChange.Graph.Owner
import SchemaChange.Json

/-! # Details of modifications

A detail says what happened to one member of an object, an interface or a union. Its class is named after the
type it belongs to, its fields stand in a fixed order, and `describe` gives the line that reports show.
-/
namespace SchemaChange

inductive MemberChange where
  | fieldAdded (name : String)
  | fieldRemoved (name : String)
  | fieldRenamed (oldName newName : String)
  | fieldRetyped (field oldType newType : String)
  | argumentRemoved (field name : String)
  | argumentRetyped (field argument oldType newType : String)
  | defaultChanged (field argument : String) (oldValue newValue : Option String)
  | implementsAdded (name : String)
  | implementsRemoved (name : String)
  deriving DecidableEq, Repr

inductive Detail where
  | member (container : ContainerKind) (change : MemberChange)
  | unionMemberAdded (name : String)
  | unionMemberRemoved (name : String)
  deriving DecidableEq, Repr

def MemberChange.className : MemberChange → String
  | fieldAdded _ => "FieldAddition"
  | fieldRemoved _ => "FieldDeletion"
  | fieldRenamed _ _ => "FieldRename"
  | fieldRetyped _ _ _ => "FieldTypeModification"
  | argumentRemoved _ _ => "FieldArgumentDeletion"
  | argumentRetyped _ _ _ _ => "FieldArgumentTypeModification"
  | defaultChanged _ _ _ _ => "FieldArgumentDefaultValueModification"
  | implementsAdded _ => "InterfaceImplementationAddition"
  | implementsRemoved _ => "InterfaceImplementationDeletion"

/-- The named fields of a change, an absent default value being null. -/
def MemberChange.fields : MemberChange → List (String × Option String)
  | fieldAdded name => [("name", some name)]
  | fieldRemoved name => [("name", some name)]
  | fieldRenamed oldName newName => [("old_name", some oldName), ("new_name", some newName)]
  | fieldRetyped field oldType newType =>
    [("field_name", some field), ("old_type", some oldType), ("new_type", some newType)]
  | argumentRemoved field name => [("field_name", some field), ("name", some name)]
  | argumentRetyped field argument oldType newType =>
    [("field_name", some field), ("argument_name", some argument), ("old_type", some oldType),
      ("new_type", some newType)]
  | defaultChanged field argument oldValue newValue =>
    [("field_name", some field), ("argument_name", some argument), ("old_value", oldValue),
      ("new_value", newValue)]
  | implementsAdded name => [("name", some name)]
  | implementsRemoved name => [("name", some name)]

def MemberChange.ofFields? (className : String) (value : String → Option (Option String)) :
    Option MemberChange := do
  let text (name : String) : Option String := (value name).join
  match className with
  | "FieldAddition" => return fieldAdded (← text "name")
  | "FieldDeletion" => return fieldRemoved (← text "name")
  | "FieldRename" => return fieldRenamed (← text "old_name") (← text "new_name")
  | "FieldTypeModification" =>
    return fieldRetyped (← text "field_name") (← text "old_type") (← text "new_type")
  | "FieldArgumentDeletion" => return argumentRemoved (← text "field_name") (← text "name")
  | "FieldArgumentTypeModification" =>
    return argumentRetyped (← text "field_name") (← text "argument_name") (← text "old_type")
      (← text "new_type")
  | "FieldArgumentDefaultValueModification" =>
    return defaultChanged (← text "field_name") (← text "argument_name") (← value "old_value")
      (← value "new_value")
  | "InterfaceImplementationAddition" => return implementsAdded (← text "name")
  | "InterfaceImplementationDeletion" => return implementsRemoved (← text "name")
  | _ => none

def MemberChange.describe : MemberChange → String
  | fieldAdded name => "field '" ++ name ++ "' added"
  | fieldRemoved name => "field '" ++ name ++ "' removed"
  | fieldRenamed oldName newName => "field '" ++ oldName ++ "' renamed to '" ++ newName ++ "'"
  | fieldRetyped field oldType newType =>
    "field '" ++ field ++ "' type changed from " ++ oldType ++ " to " ++ newType
  | argumentRemoved field name => "argument '" ++ field ++ "." ++ name ++ "' removed"
  | argumentRetyped field argument oldType newType =>
    "argument '" ++ field ++ "." ++ argument ++ "' type changed from " ++ oldType ++ " to " ++ newType
  | defaultChanged field argument oldValue newValue =>
    "argument '" ++ field ++ "." ++ argument ++ "' default changed from " ++ oldValue.getD "<none>"
      ++ " to " ++ newValue.getD "<none>"
  | implementsAdded name => "now implements '" ++ name ++ "'"
  | implementsRemoved name => "no longer implements '" ++ name ++ "'"

namespace Detail

def kind : Detail → TypeKind
  | member container _ => container.toTypeKind
  | unionMemberAdded _ => .union
  | unionMemberRemoved _ => .union

def className : Detail → String
  | member container change => container.toTypeKind.title ++ change.className
  | unionMemberAdded _ => "UnionMemberAddition"
  | unionMemberRemoved _ => "UnionMemberDeletion"

def fields : Detail → List (String × Option String)
  | member _ change => change.fields
  | unionMemberAdded name => [("name", some name)]
  | unionMemberRemoved name => [("name", some name)]

def describe : Detail → String
  | member _ change => change.describe
  | unionMemberAdded name => "member '" ++ name ++ "' added"
  | unionMemberRemoved name => "member '" ++ name ++ "' removed"

/-- The rest of a class name after the title of a kind. -/
def classNameAfter? (kind : TypeKind) (className : String) : Option String :=
  (kind.title.toList.isPrefixOf? className.toList).map String.ofList

def ofFields? (className : String) (value : String → Option (Option String)) : Option Detail :=
  match classNameAfter? .object className, classNameAfter? .interface className,
    classNameAfter? .union className with
  | some rest, _, _ => (MemberChange.ofFields? rest value).map (member .object)
  | _, some rest, _ => (MemberChange.ofFields? rest value).map (member .interface)
  | _, _, some "MemberAddition" => ((value "name").join).map unionMemberAdded
  | _, _, some "MemberDeletion" => ((value "name").join).map unionMemberRemoved
  | _, _, _ => none

def optionalText : Option String → JsonValue
  | some text => .string text
  | none => .null

/-- The class name first, then the fields in their order. -/
def toJson (detail : Detail) : JsonValue :=
  .object (("type", .string detail.className) :: detail.fields.map fun field =>
    (field.1, optionalText field.2))

/-- A field's value, null being an absent one. -/
def textOrNull? : JsonValue → Option (Option String)
  | .string text => some (some text)
  | .null => some none
  | _ => none

def ofJson? (value : JsonValue) : Option Detail :=
  match value.field? "type" with
  | some (.string className) => ofFields? className fun name => (value.field? name).bind textOrNull?
  | _ => none

end Detail

end SchemaChange
