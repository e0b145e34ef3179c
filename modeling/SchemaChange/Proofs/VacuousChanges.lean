import SchemaChange.Proofs.FieldVertices
import SchemaChange.Proofs.TypeEdges

/-! # Changes that change nothing

A renamed field has another name, and of an argument only what differs is told. Of a field both types are told, even if
they are the same: such a detail is in a report exactly where an operation on the field's type edge gives it.
-/
namespace SchemaChange

/-- A change from a value to the same value. -/
def MemberChange.IsVacuous : MemberChange → Prop
  | fieldRenamed oldName newName => oldName = newName
  | fieldRetyped _ oldType newType => oldType = newType
  | argumentRetyped _ _ oldType newType => oldType = newType
  | defaultChanged _ _ oldValue newValue => oldValue = newValue
  | _ => False

def Detail.IsVacuous : Detail → Prop
  | member _ change => change.IsVacuous
  | _ => False

theorem Detail.recordedBy_of_isVacuous {detail : Detail} (h : detail.IsVacuous) :
    detail.recordedBy = .fieldVertices ∨ detail.recordedBy = .typeEdges := by
  cases detail with
  | member c change =>
    cases change with
    | fieldRenamed => exact .inl rfl
    | fieldRetyped | argumentRetyped | defaultChanged => exact .inr rfl
    | fieldAdded | fieldRemoved | argumentRemoved | implementsAdded | implementsRemoved => exact h.elim
  | unionMemberAdded | unionMemberRemoved => exact h.elim

/-- Only of a field may two labels tell a vacuous change, and then they tell nothing else. -/
theorem exists_typeChanges_eq_of_isVacuous {v field : Vertex} {old new : TypeLabel} {change : MemberChange}
    (h : change ∈ typeChanges v field old new) (hVacuous : change.IsVacuous) :
    ∃ type, change = .fieldRetyped field.name type type ∧
      typeChanges v field old new = [.fieldRetyped field.name type type] := by
  by_cases hKind : v.kind = .field
  · rw [typeChanges_field hKind] at h ⊢
    cases List.mem_singleton.mp h
    cases old
    cases hVacuous
    exact ⟨_, rfl, rfl⟩
  · rw [typeChanges, if_neg hKind] at h
    rcases List.mem_append.mp h with hType | hDefault
    · obtain ⟨hDiffers, hChange⟩ := List.mem_ite_nil_right.mp hType
      cases List.mem_singleton.mp hChange
      exact absurd hVacuous hDiffers
    · obtain ⟨hDiffers, hChange⟩ := List.mem_ite_nil_right.mp hDefault
      cases List.mem_singleton.mp hChange
      exact absurd hVacuous hDiffers

namespace Inputs

variable {inputs : Inputs} {report : Report} {op : EditOperation} {c : Container} {name : String}

theorem TellsOfField.not_isVacuous {cover : Change} {change : MemberChange}
    (h : inputs.TellsOfField op c cover name change) : ¬ change.IsVacuous := by
  cases h with
  | renamed _ hName => exact hName
  | added | removed | argumentRemoved => exact id

theorem GivesType.exists_eq_of_isVacuous {changes : List MemberChange} {change : MemberChange}
    (h : inputs.GivesType report op c name changes) (hChange : change ∈ changes) (hVacuous : change.IsVacuous) :
    ∃ field type, change = .fieldRetyped field type type ∧ changes = [.fieldRetyped field type type] := by
  cases h with
  | inserted | changed => exact ⟨_, exists_typeChanges_eq_of_isVacuous hChange hVacuous⟩

end Inputs

/-- The vacuous details of a report are those that tell the same type of a field twice: an operation on a type edge of
the field gives just this detail, for both labels have the type. -/
theorem Inputs.mem_details_and_isVacuous_iff {inputs : Inputs} {report : Report}
    (h : inputs.analyze.result = .ok report) (kind : TypeKind) (name : String) (detail : Detail) :
    (detail ∈ report.details kind name ∧ detail.IsVacuous) ↔
      ∃ op ∈ inputs.operations, ∃ c field type,
        inputs.GivesType report op c name [.fieldRetyped field type type] ∧ c.kind.toTypeKind = kind ∧
        detail = .member c.kind (.fieldRetyped field type type) := by
  obtain ⟨run, rfl⟩ := analyze_eq_ok_iff.mp h
  constructor
  · rintro ⟨hDetail, hVacuous⟩
    rcases Detail.recordedBy_of_isVacuous hVacuous with hPass | hPass
    · obtain ⟨_, _, _, _, ⟨_, _, hTells, _, rfl⟩, _, _, hChange, rfl⟩ :=
        run.mem_details_fieldVertices_iff.mp ⟨hDetail, hPass⟩
      cases List.mem_singleton.mp hChange
      exact absurd hVacuous hTells.not_isVacuous
    · obtain ⟨op, hOp, c, _, hGives, hKind, _, hChange, rfl⟩ := run.mem_details_typeEdges_iff.mp ⟨hDetail, hPass⟩
      obtain ⟨field, type, rfl, rfl⟩ := hGives.exists_eq_of_isVacuous hChange hVacuous
      exact ⟨op, hOp, c, field, type, hGives, hKind, rfl⟩
  · rintro ⟨op, hOp, c, field, type, hGives, hKind, rfl⟩
    have hMem := run.mem_details_typeEdges_iff.mpr
      ⟨op, hOp, c, _, hGives, hKind, _, List.mem_singleton_self _, rfl⟩
    exact ⟨hMem.1, rfl⟩

namespace Sample.Renaming

def oldFoo : Vertex := ⟨0, "Foo", .type .object, "Foo"⟩
def oldField : Vertex := ⟨1, "Foo.id", .field, "id"⟩
def oldScalar : Vertex := ⟨2, "ID", .type .scalar, "ID"⟩
def newFoo : Vertex := ⟨3, "Foo", .type .object, "Foo"⟩
def newField : Vertex := ⟨4, "Foo.uid", .field, "uid"⟩
def newScalar : Vertex := ⟨5, "ID", .type .scalar, "ID"⟩

def oldType : Edge := ⟨0, oldField, oldScalar, "type=ID;defaultValue="⟩
def newType : Edge := ⟨1, newField, newScalar, "type=ID;defaultValue="⟩

/-- The field of an object is renamed, and its type edge is changed into one with the same label. -/
def inputs : Inputs where
  oldGraph := {
    vertices := [oldFoo, oldField, oldScalar]
    edges := [⟨2, oldFoo, oldField, ""⟩, oldType]
    ids_nodup := by decide
    ends_nodup := by decide
    ends_mem := by decide }
  newGraph := {
    vertices := [newFoo, newField, newScalar]
    edges := [⟨3, newFoo, newField, ""⟩, newType]
    ids_nodup := by decide
    ends_nodup := by decide
    ends_mem := by decide }
  matching := {
    pairs := [(oldFoo, newFoo), (oldField, newField), (oldScalar, newScalar)]
    sources_nodup := by decide
    targets_nodup := by decide }
  operations := [.changeVertex oldField newField, .changeEdge oldType newType]

def report : Report where
  object := [("Foo", ⟨.object, "Foo", .modified [.member .object (.fieldRenamed "id" "uid"),
    .member .object (.fieldRetyped "uid" "ID" "ID")]⟩)]
  interface := []
  union := []
  enum := []
  inputObject := []
  scalar := []

theorem analyze_eq : inputs.analyze.result = .ok report := rfl

end Sample.Renaming

/-- The changed type edge is what the vacuous detail of the sample comes from. -/
theorem Inputs.mem_details_and_isVacuous_iff_sample :
    Sample.Renaming.inputs.analyze.result = .ok Sample.Renaming.report ∧
    ∃ op ∈ Sample.Renaming.inputs.operations, ∃ c field type,
      Sample.Renaming.inputs.GivesType Sample.Renaming.report op c "Foo" [.fieldRetyped field type type] ∧
      c.kind.toTypeKind = .object ∧
      Detail.member .object (.fieldRetyped "uid" "ID" "ID") = .member c.kind (.fieldRetyped field type type) :=
  ⟨Sample.Renaming.analyze_eq, (mem_details_and_isVacuous_iff Sample.Renaming.analyze_eq _ _ _).mp ⟨by decide, rfl⟩⟩

/-- A report may say that the type of a field changed from a type to the same type. -/
theorem Sample.Renaming.exists_isVacuous :
    ∃ report, inputs.analyze.result = .ok report ∧
      .member .object (.fieldRetyped "uid" "ID" "ID") ∈ report.details .object "Foo" ∧
      (Detail.member .object (.fieldRetyped "uid" "ID" "ID")).IsVacuous :=
  ⟨report, analyze_eq, by decide, rfl⟩

end SchemaChange
