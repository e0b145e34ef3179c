import SchemaChange.Proofs.WellKinded

/-! # Reading the document of a report

The document of a report keeps all that the report holds. A record's class is told by the part it stands in and by its
status, a detail's by its type, and what a detail lacks is null there and no text. So the reader below gives a report
back from its document, and two reports with one document are the same, order included.
-/
namespace SchemaChange

/-- A change by its status; only a modification has details. -/
def Change.ofJson? (value : JsonValue) : Option Change :=
  match value.field? "status", value.field? "details" with
  | some (.string "added"), _ => some .added
  | some (.string "removed"), _ => some .removed
  | some (.string "modified"), some (.list items) => (items.mapM Detail.ofJson?).map .modified
  | _, _ => none

def Difference.ofJson? (kind : TypeKind) (value : JsonValue) : Option Difference :=
  match value.field? "name" with
  | some (.string name) => (Change.ofJson? value).map (⟨kind, name, ·⟩)
  | _ => none

def Records.ofJson? (kind : TypeKind) : JsonValue → Option Records
  | .object fields => fields.mapM fun field => (Difference.ofJson? kind field.2).map (field.1, ·)
  | _ => none

namespace Report

def recordsIn? (value : JsonValue) (kind : TypeKind) : Option Records :=
  (value.field? kind.key).bind (Records.ofJson? kind)

def ofJson? (value : JsonValue) : Option Report := do
  return ⟨← recordsIn? value .object, ← recordsIn? value .interface, ← recordsIn? value .union,
    ← recordsIn? value .enum, ← recordsIn? value .inputObject, ← recordsIn? value .scalar⟩

end Report

theorem JsonValue.field?_of_mem {fields : List (String × JsonValue)} {field : String × JsonValue}
    (h : (fields.map (·.1)).Nodup) (hMem : field ∈ fields) : (object fields).field? field.1 = some field.2 := by
  rw [field?, find?_eq_some_of_nodup h hMem]
  rfl

theorem mapM_map_eq_some {α β : Type} {write : α → β} {read : β → Option α} {items : List α}
    (h : ∀ item ∈ items, read (write item) = some item) : (items.map write).mapM read = some items := by
  induction items with
  | nil => rfl
  | cons item items ih =>
    obtain ⟨hItem, hItems⟩ := List.forall_mem_cons.mp h
    rw [List.map_cons, List.mapM_cons, hItem, ih hItems]
    rfl

theorem MemberChange.ofFields?_of_fields {change : MemberChange} {value : String → Option (Option String)}
    (h : ∀ field ∈ change.fields, value field.1 = some field.2) : ofFields? change.className value = some change := by
  cases change <;> simp_all [ofFields?, className, fields]

namespace Detail

theorem classNameAfter?_eq_some_iff {kind : TypeKind} {className rest : String} :
    classNameAfter? kind className = some rest ↔ className = kind.title ++ rest := by
  rw [classNameAfter?, Option.map_eq_some_iff]
  constructor
  · rintro ⟨chars, hChars, rfl⟩
    rw [List.isPrefixOf?_eq_some_iff_append_eq] at hChars
    rw [← String.toList_inj, String.toList_append, String.toList_ofList, hChars]
  · rintro rfl
    exact ⟨rest.toList, by rw [List.isPrefixOf?_eq_some_iff_append_eq, String.toList_append], String.ofList_toList⟩

theorem classNameAfter?_eq_none {kind kind' : TypeKind} (h : kind.title.toList.head? ≠ kind'.title.toList.head?)
    (rest : String) : classNameAfter? kind (kind'.title ++ rest) = none := by
  have hSome : ∀ kind ∈ TypeKind.all, kind.title.toList.head?.isSome = true := by decide +kernel
  obtain ⟨c, hHead⟩ := Option.isSome_iff_exists.mp (hSome kind kind.mem_all)
  obtain ⟨c', hHead'⟩ := Option.isSome_iff_exists.mp (hSome kind' kind'.mem_all)
  cases hRest : classNameAfter? kind (kind'.title ++ rest) with
  | none => rfl
  | some other =>
    have same := congrArg (·.toList.head?) (classNameAfter?_eq_some_iff.mp hRest)
    simp only [String.toList_append, List.head?_append, hHead, hHead', Option.some_or] at same
    rw [hHead, hHead'] at h
    exact absurd same.symm h

theorem classNameAfter?_union (rest : String) :
    classNameAfter? .object (TypeKind.union.title ++ rest) = none ∧
    classNameAfter? .interface (TypeKind.union.title ++ rest) = none ∧
    classNameAfter? .union (TypeKind.union.title ++ rest) = some rest :=
  ⟨classNameAfter?_eq_none (by decide +kernel) rest, classNameAfter?_eq_none (by decide +kernel) rest,
    classNameAfter?_eq_some_iff.mpr rfl⟩

theorem ofFields?_of_fields {detail : Detail} {value : String → Option (Option String)}
    (h : ∀ field ∈ detail.fields, value field.1 = some field.2) : ofFields? detail.className value = some detail := by
  cases detail with
  | member container change =>
    have hChange : MemberChange.ofFields? change.className value = some change := MemberChange.ofFields?_of_fields h
    cases container with
    | object =>
      have hObject : classNameAfter? .object (member .object change).className = some change.className :=
        classNameAfter?_eq_some_iff.mpr rfl
      simp only [ofFields?, hObject, hChange, Option.map_some]
    | interface =>
      have hObject : classNameAfter? .object (member .interface change).className = none :=
        classNameAfter?_eq_none (by decide +kernel) _
      have hInterface : classNameAfter? .interface (member .interface change).className = some change.className :=
        classNameAfter?_eq_some_iff.mpr rfl
      simp only [ofFields?, hObject, hInterface, hChange, Option.map_some]
  | unionMemberAdded name =>
    have hName : value "name" = some (some name) := h _ List.mem_cons_self
    have hClass : TypeKind.union.title ++ "MemberAddition" = "UnionMemberAddition" := by decide +kernel
    simp only [ofFields?, className, ← hClass, classNameAfter?_union, hName, Option.join_some, Option.map_some]
  | unionMemberRemoved name =>
    have hName : value "name" = some (some name) := h _ List.mem_cons_self
    have hClass : TypeKind.union.title ++ "MemberDeletion" = "UnionMemberDeletion" := by decide +kernel
    simp only [ofFields?, className, ← hClass, classNameAfter?_union, hName, Option.join_some, Option.map_some]

/-- A detail's fields have names of their own, and none of them is that of the type. -/
theorem names_nodup (detail : Detail) : ("type" :: detail.fields.map (·.1)).Nodup := by
  cases detail with
  | member _ change => cases change <;> simp [fields, MemberChange.fields]
  | unionMemberAdded | unionMemberRemoved => simp [fields]

theorem textOrNull?_optionalText (value : Option String) : textOrNull? (optionalText value) = some value := by
  cases value <;> rfl

theorem ofJson?_toJson (detail : Detail) : ofJson? detail.toJson = some detail := by
  have hNames : ((("type", .string detail.className) :: detail.fields.map fun field =>
      (field.1, optionalText field.2)).map (·.1)).Nodup := by
    rw [List.map_cons, List.map_map]
    exact detail.names_nodup
  have hType : detail.toJson.field? "type" = some (.string detail.className) :=
    JsonValue.field?_of_mem hNames List.mem_cons_self
  have hFields : ∀ field ∈ detail.fields, (detail.toJson.field? field.1).bind textOrNull? = some field.2 := by
    intro field hField
    have hValue : detail.toJson.field? field.1 = some (optionalText field.2) :=
      JsonValue.field?_of_mem hNames (List.mem_cons_of_mem _ (List.mem_map_of_mem hField))
    rw [hValue, Option.bind_some, textOrNull?_optionalText]
  simp only [ofJson?, hType]
  exact ofFields?_of_fields hFields

end Detail

theorem Change.ofJson?_toJson (d : Difference) : ofJson? d.toJson = some d.change := by
  obtain ⟨kind, name, change⟩ := d
  cases change with
  | added => simp [Difference.toJson, ofJson?, JsonValue.field?, status]
  | removed => simp [Difference.toJson, ofJson?, JsonValue.field?, status]
  | modified details =>
    have hDetails : (details.map Detail.toJson).mapM Detail.ofJson? = some details :=
      mapM_map_eq_some fun detail _ => detail.ofJson?_toJson
    simp [Difference.toJson, ofJson?, JsonValue.field?, status, hDetails]

theorem Difference.ofJson?_toJson (d : Difference) : ofJson? d.kind d.toJson = some d := by
  have hName : d.toJson.field? "name" = some (.string d.name) := by simp [toJson, JsonValue.field?]
  simp only [ofJson?, hName, Change.ofJson?_toJson, Option.map_some]

theorem Records.ofJson?_of_kind {kind : TypeKind} {records : Records} (h : ∀ entry ∈ records, entry.2.kind = kind) :
    ofJson? kind (.object (records.map fun entry => (entry.1, entry.2.toJson))) = some records := by
  refine mapM_map_eq_some fun entry hEntry => ?_
  rw [← h entry hEntry, Difference.ofJson?_toJson]
  rfl

namespace Report

variable {report report' : Report}

theorem field?_toJson (report : Report) (kind : TypeKind) :
    report.toJson.field? kind.key =
      some (.object ((report.get kind).map fun entry => (entry.1, entry.2.toJson))) := by
  have hKeys : ((report.sections.map fun part =>
      (part.1.key, JsonValue.object (part.2.map fun entry => (entry.1, entry.2.toJson)))).map (·.1)).Nodup := by
    rw [sections, List.map_map, List.map_map]
    exact (by decide : (TypeKind.all.map TypeKind.key).Nodup)
  exact JsonValue.field?_of_mem hKeys
    (List.mem_map_of_mem (List.mem_map_of_mem (f := fun kind => (kind, report.get kind)) kind.mem_all))

theorem recordsIn?_toJson (h : report.WellKinded) (kind : TypeKind) :
    recordsIn? report.toJson kind = some (report.get kind) := by
  rw [recordsIn?, field?_toJson, Option.bind_some, Records.ofJson?_of_kind (h.record_kind kind)]

theorem ofJson?_toJson (h : report.WellKinded) : ofJson? report.toJson = some report := by
  simp only [ofJson?, recordsIn?_toJson h]
  rfl

theorem WellKinded.toJson_inj (h : report.WellKinded) (h' : report'.WellKinded) (hSame : report.toJson = report'.toJson) :
    report = report' := by
  have hRead := ofJson?_toJson h
  rw [hSame, ofJson?_toJson h', Option.some.injEq] at hRead
  exact hRead.symm

end Report

/-- A report that an analysis gives is read back from its document, so the document is that of no other report, whatever
the analysis that gives it. -/
theorem Inputs.report_of_document {inputs inputs' : Inputs} {report report' : Report}
    (h : inputs.analyze.result = .ok report) (h' : inputs'.analyze.result = .ok report') :
    Report.ofJson? report.toJson = some report ∧ (report.toJson = report'.toJson → report = report') :=
  ⟨Report.ofJson?_toJson (wellKinded_of_analyze h), (wellKinded_of_analyze h).toJson_inj (wellKinded_of_analyze h')⟩

theorem Inputs.report_of_document_sample :
    Sample.inputs.analyze.result = .ok Sample.report ∧
      Report.ofJson? Sample.report.toJson = some Sample.report :=
  ⟨Sample.analyze_eq, (report_of_document Sample.analyze_eq Sample.analyze_eq).1⟩

end SchemaChange
