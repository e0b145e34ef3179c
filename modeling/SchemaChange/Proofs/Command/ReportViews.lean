import Mathlib.Algebra.GroupWithZero.Nat
import SchemaChange.Console.Unstyled
import SchemaChange.Proofs.Command.Output
import SchemaChange.Proofs.Guarded.Views
import SchemaChange.Proofs.WellKinded

/-! # The views of a report

The list of all records, the plain table, the JSON document and the summary each spell out the kinds and their order,
two of them by the names of attributes. For a report of an analysis they show the same records in the same order.
Printing takes control sequences out of the lines of the table, so what is printed may show less than the lines say.
-/
namespace SchemaChange

open Console (Display)

namespace Report

section

variable {ε : Type}

def listedRecords (report : Report) : List Difference :=
  report.object.map (·.2) ++ report.interface.map (·.2) ++ report.union.map (·.2) ++ report.enum.map (·.2)
    ++ report.inputObject.map (·.2) ++ report.scalar.map (·.2)

def countLines (report : Report) : List String :=
  [("Objects", report.object), ("Interfaces", report.interface), ("Unions", report.union), ("Enums", report.enum),
    ("Input objects", report.inputObject), ("Scalars", report.scalar)].map fun part =>
      part.1 ++ ": " ++ toString part.2.length

/-- The keys of the kinds in the document, with the headings in the table. -/
def keysAndHeadings : List (String × String) :=
  [("object", "Objects"), ("interface", "Interfaces"), ("union", "Unions"), ("enum", "Enums"),
    ("input_object", "Input objects"), ("scalar", "Scalars")]

def attribute? (report : Report) (name : String) : Option Records :=
  match name with
  | "object_differences" => some report.object
  | "interface_differences" => some report.interface
  | "union_differences" => some report.union
  | "enum_differences" => some report.enum
  | "input_object_differences" => some report.inputObject
  | "scalar_differences" => some report.scalar
  | _ => none

def recordsAt (report : Report) (key : String) : Guarded ε Records :=
  .demand (.keyMissing (key ++ "_differences")) (report.attribute? (key ++ "_differences"))

def rowsView (key : String) (r : RecordObject) : Guarded ε (List String) := do
  let status ← r.status
  let details ← (r.details.getD []).mapM DetailObject.describe
  .ok (("  " ++ key ++ ": " ++ status) :: details.map ("    - " ++ ·))

def sectionView (heading : String) (records : Records) : Guarded ε (List String) :=
  if records.isEmpty then .ok []
  else do
    let rows ← records.mapM fun entry => rowsView entry.1 (.ofDifference entry.2)
    .ok ((heading ++ ":") :: rows.flatten)

def tableView (report : Report) : Guarded ε (List String) := do
  let parts ← keysAndHeadings.mapM fun part => do
    let records ← report.recordsAt part.1
    sectionView part.2 records
  .ok parts.flatten

def documentView (report : Report) : Guarded ε JsonValue := do
  let parts ← keysAndHeadings.mapM fun part => do
    let records ← report.recordsAt part.1
    let entries ← recordsView records
    .ok (part.1, JsonValue.object entries)
  .ok (.object parts)

theorem listedRecords_eq (report : Report) : report.listedRecords = report.differences := by
  simp [listedRecords, differences, sections, TypeKind.all, ByKind.get]

theorem intercalate_countLines (report : Report) : "\n".intercalate report.countLines = report.summary := rfl

theorem keysAndHeadings_eq : keysAndHeadings = TypeKind.all.map fun kind => (kind.key, kind.heading) := rfl

theorem recordsAt_of_attribute {report : Report} {key name : String} {records : Records}
    (hName : key ++ "_differences" = name) (h : report.attribute? name = some records) :
    report.recordsAt key = (.ok records : Guarded ε Records) := by
  rw [recordsAt, hName, h, Guarded.demand_some]

theorem recordsAt_key (report : Report) : (kind : TypeKind) →
    report.recordsAt kind.key = (.ok (report.get kind) : Guarded ε Records)
  | .object => recordsAt_of_attribute (by decide +kernel : _ = "object_differences") rfl
  | .interface => recordsAt_of_attribute (by decide +kernel : _ = "interface_differences") rfl
  | .union => recordsAt_of_attribute (by decide +kernel : _ = "union_differences") rfl
  | .enum => recordsAt_of_attribute (by decide +kernel : _ = "enum_differences") rfl
  | .inputObject => recordsAt_of_attribute (by decide +kernel : _ = "input_object_differences") rfl
  | .scalar => recordsAt_of_attribute (by decide +kernel : _ = "scalar_differences") rfl

theorem rowsView_ofDifference (key : String) (d : Difference) :
    rowsView key (.ofDifference d) = (.ok (recordLines key d) : Guarded ε (List String)) := by
  have hDetails : ((RecordObject.ofDifference d).details.getD []).mapM DetailObject.describe =
      (.ok (d.change.details.map (·.describe)) : Guarded ε (List String)) := by
    rw [RecordObject.ofDifference]
    cases d.change with
    | added | removed => rfl
    | modified details =>
      rw [Option.getD_some, List.mapM_map]
      exact Guarded.mapM_eq_ok (fun detail => DetailObject.describe_ofDetail detail) details
  rw [rowsView, RecordObject.status_ofDifference, Guarded.ok_bind, hDetails, Guarded.ok_bind, List.map_map]
  rfl

theorem sectionView_eq (kind : TypeKind) (records : Records) :
    sectionView kind.heading records = (.ok (sectionLines kind records) : Guarded ε (List String)) := by
  have hRows : (records.mapM fun entry => rowsView entry.1 (.ofDifference entry.2)) =
      (.ok (records.map fun entry => recordLines entry.1 entry.2) : Guarded ε (List (List String))) := by
    refine Guarded.mapM_eq_ok (fun entry => ?_) records
    exact rowsView_ofDifference entry.1 entry.2
  rw [sectionView, sectionLines]
  split
  · rfl
  · rw [hRows, Guarded.ok_bind, List.flatMap_def]

/-- What a view makes of each kind, it makes of its key and heading. -/
theorem mapM_keysAndHeadings {α : Type} {view : String × String → Guarded ε α} {part : TypeKind → α}
    (h : ∀ kind : TypeKind, view (kind.key, kind.heading) = .ok (part kind)) :
    keysAndHeadings.mapM view = .ok (TypeKind.all.map part) := by
  rw [keysAndHeadings_eq, List.mapM_map]
  exact Guarded.mapM_eq_ok h TypeKind.all

theorem tableView_eq (report : Report) : report.tableView = (.ok report.plainLines : Guarded ε (List String)) := by
  have hPart : ∀ kind : TypeKind, (do
      let records ← report.recordsAt kind.key
      sectionView kind.heading records) =
        (.ok (sectionLines kind (report.get kind)) : Guarded ε (List String)) := fun kind => by
    rw [recordsAt_key, Guarded.ok_bind, sectionView_eq]
  rw [tableView, mapM_keysAndHeadings hPart, Guarded.ok_bind, plainLines, sections, List.flatMap_map,
    List.flatMap_def]

theorem documentView_eq (report : Report) : report.documentView = (.ok report.toJson : Guarded ε JsonValue) := by
  have hPart : ∀ kind : TypeKind, (do
      let records ← report.recordsAt kind.key
      let entries ← recordsView records
      .ok (kind.key, JsonValue.object entries)) =
        (.ok (kind.key, .object ((report.get kind).map fun entry => (entry.1, entry.2.toJson))) :
          Guarded ε (String × JsonValue)) := fun kind => by
    rw [recordsAt_key, Guarded.ok_bind, recordsView_eq, Guarded.ok_bind]
  rw [documentView, mapM_keysAndHeadings hPart, Guarded.ok_bind, toJson, sections, List.map_map]
  rfl

end

end Report

/-- The line that starts the part of a kind in the plain table. -/
def TypeKind.header (kind : TypeKind) : String := kind.heading ++ ":"

/-- A header starts neither like a record's line nor like the line that says that there is none. -/
theorem TypeKind.header_chars (kind : TypeKind) : '\x1b' ∉ kind.header.toList ∧
    Text.hasHalf (kind.header ++ "\n").toList = false ∧ kind.header.toList.head? ∉ [none, some ' ', some 'N'] := by
  have hAll : ∀ kind ∈ all, '\x1b' ∉ kind.header.toList ∧ Text.hasHalf (kind.header ++ "\n").toList = false ∧
      kind.header.toList.head? ∉ [none, some ' ', some 'N'] := by decide +kernel
  exact hAll kind kind.mem_all

def JsonValue.members : JsonValue → List (String × JsonValue)
  | .object fields => fields
  | _ => []

/-- What the JSON document has for a record: the key of the kind, the key of the record and the object under it. -/
structure Difference.ShownBy (d : Difference) (kindKey key : String) (value : JsonValue) : Prop where
  kindKey_eq : kindKey = d.kind.key
  key_eq : key = d.name
  name : value.field? "name" = some (.string d.name)
  status : value.field? "status" = some (.string d.change.status)
  details : value.field? "details" =
    if d.change.isModified then some (.list (d.change.details.map Detail.toJson)) else none

theorem Difference.shownBy_toJson (d : Difference) : d.ShownBy d.kind.key d.name d.toJson where
  kindKey_eq := rfl
  key_eq := rfl
  name := by simp [toJson, JsonValue.field?]
  status := by simp [toJson, JsonValue.field?]
  details := by cases hChange : d.change <;> simp [toJson, JsonValue.field?, hChange, Change.isModified, Change.details]

namespace Report

/-- The records of the JSON document, without the grouping into kinds. -/
def flattened (report : Report) : List (String × String × JsonValue) :=
  report.toJson.members.flatMap fun part => part.2.members.map fun entry => (part.1, entry.1, entry.2)

/-- The lines of records in their order: where the kind is not that of the record before, its header, and then for each
record a line with name and status and a line for each detail. -/
def listing (last : Option TypeKind) : List Difference → List String
  | [] => []
  | d :: rest =>
    (if last = some d.kind then [] else [d.kind.header]) ++ recordLines d.name d ++ listing (some d.kind) rest

def isHeader (line : String) : Bool := TypeKind.all.any (·.header = line)

def countOf (report : Report) (kind : TypeKind) : Nat := (report.differences.filter (·.kind = kind)).length

/-- The views that spell out the kinds are those of the report, and these show the records of one list in its order. -/
structure ViewsAgree (report : Report) : Prop where
  listedRecords : report.listedRecords = report.differences
  tableView : report.tableView = (.ok report.plainLines : Guarded String (List String))
  documentView : report.documentView = (.ok report.toJson : Guarded String JsonValue)
  countLines : "\n".intercalate report.countLines = report.summary
  /-- No record is listed twice. -/
  listed_once : (report.differences.map fun d => (d.kind, d.name)).Nodup
  grouped : report.differences = TypeKind.all.flatMap fun kind => report.differences.filter (·.kind = kind)
  table : report.plainLines = listing none report.differences
  document : List.Forall₂ (fun d (entry : String × String × JsonValue) => d.ShownBy entry.1 entry.2.1 entry.2.2)
    report.differences report.flattened
  /-- The headers in the table are those of the kinds that are counted at least once. -/
  headers : report.plainLines.filter isHeader = (TypeKind.all.filter (report.countOf · ≠ 0)).map TypeKind.header
  summary : report.summary =
    "\n".intercalate (TypeKind.all.map fun kind => kind.heading ++ ": " ++ toString (report.countOf kind))
  counts : (TypeKind.all.map report.countOf).sum = report.differences.length
  isEmpty_iff : ∀ display : Display, display.StripsLines → ∀ script, report.isEmpty = true ↔
    CommandLine.plainOutput display report script = CommandLine.plainLine display (CommandLine.emptyLine script)
  printed : report.isEmpty = false → ∀ (display : Display) (script : String),
    CommandLine.plainOutput display report script = .all (report.plainLines.map (CommandLine.plainLine display))

end Report

/-- Either the line of an empty report stops the printing, or it starts as it is written. -/
theorem CommandLine.head?_emptyLine {display : Display} (hDisplay : display.StripsLines) (script : String) :
    (plainLine display (emptyLine script)).text.toList.head? = none ∨
      (plainLine display (emptyLine script)).text.toList.head? = some 'N' := by
  have hStart : '\x1b' ∉ "No schema differences in ".toList := by
    rw [String.toList_ofList]
    decide
  obtain ⟨shown, hShown⟩ : ∃ shown, display.strip (emptyLine script) = "No schema differences in " ++ shown :=
    hDisplay.strip_append hStart script
  rw [plainLine, Printing.ofText, hShown]
  split
  · exact .inl rfl
  · have hHead : "No schema differences in ".toList.head? = some 'N' := congrArg List.head? String.toList_ofList
    right
    simp only [String.toList_append, List.head?_append, hHead]
    rfl

namespace Report

theorem differences_eq (report : Report) :
    report.differences = TypeKind.all.flatMap fun kind => (report.get kind).map (·.2) := by
  rw [differences, sections, List.flatMap_map]

theorem listing_append {kind : TypeKind} {records : List Difference} (hKind : ∀ d ∈ records, d.kind = kind)
    (rest : List Difference) : listing (some kind) (records ++ rest) =
      records.flatMap (fun d => recordLines d.name d) ++ listing (some kind) rest := by
  induction records with
  | nil => rfl
  | cons d records ih =>
    obtain ⟨hHead, hRecords⟩ := List.forall_mem_cons.mp hKind
    rw [List.cons_append, listing, if_pos (congrArg some hHead.symm), List.nil_append, hHead, ih hRecords,
      List.flatMap_cons, List.append_assoc]

theorem head?_of_mem_recordLines {key line : String} {d : Difference} (h : line ∈ recordLines key d) :
    line.toList.head? = some ' ' := by
  rcases List.mem_cons.mp h with rfl | hDetail
  · simp
  · obtain ⟨detail, -, rfl⟩ := List.mem_map.mp hDetail
    simp

theorem header_ne_of_mem_recordLines {key line : String} {d : Difference} (h : line ∈ recordLines key d)
    (kind : TypeKind) : kind.header ≠ line := by
  rintro rfl
  have hHead := kind.header_chars.2.2
  simp [head?_of_mem_recordLines h] at hHead

theorem filter_sectionLines (kind : TypeKind) (records : Records) :
    (sectionLines kind records).filter isHeader = if records.isEmpty then [] else [kind.header] := by
  rw [sectionLines]
  split
  · rfl
  · have hHeader : isHeader (kind.heading ++ ":") = true :=
      List.any_eq_true.mpr ⟨kind, kind.mem_all, decide_eq_true rfl⟩
    have hRows : (records.flatMap fun entry => recordLines entry.1 entry.2).filter isHeader = [] := by
      refine List.filter_eq_nil_iff.mpr fun line hLine hLineHeader => ?_
      obtain ⟨entry, -, hMem⟩ := List.mem_flatMap.mp hLine
      obtain ⟨kind, -, hSame⟩ := List.any_eq_true.mp hLineHeader
      exact header_ne_of_mem_recordLines hMem kind (of_decide_eq_true hSame)
    rw [List.filter_cons_of_pos hHeader, hRows]
    rfl

theorem map_filter_eq_flatMap {α β : Type} (p : α → Bool) (f : α → β) (xs : List α) :
    (xs.filter p).map f = xs.flatMap fun x => if p x then [f x] else [] := by
  induction xs with
  | nil => rfl
  | cons x xs ih => by_cases hx : p x <;> simp [hx, ih]

namespace Filed

variable {report : Report} (h : report.Filed)
include h

theorem filter_records (k kind : TypeKind) :
    ((report.get k).map (·.2)).filter (·.kind = kind) = if k = kind then (report.get kind).map (·.2) else [] := by
  split
  next same =>
    subst same
    exact List.filter_eq_self.mpr <| List.forall_mem_map.mpr fun entry hEntry =>
      decide_eq_true (h.kind_eq k entry hEntry)
  next other =>
    refine List.filter_eq_nil_iff.mpr <| List.forall_mem_map.mpr fun entry hEntry => ?_
    rw [h.kind_eq k entry hEntry, decide_eq_true_eq]
    exact other

theorem filter_differences (kind : TypeKind) :
    report.differences.filter (·.kind = kind) = (report.get kind).map (·.2) := by
  rw [differences_eq, List.filter_flatMap]
  simp only [h.filter_records]
  cases kind <;> simp [TypeKind.all]

theorem countOf_eq (kind : TypeKind) : report.countOf kind = (report.get kind).length := by
  rw [countOf, h.filter_differences, List.length_map]

theorem grouped : report.differences = TypeKind.all.flatMap fun kind => report.differences.filter (·.kind = kind) := by
  simp only [h.filter_differences]
  exact differences_eq report

theorem listed_once : (report.differences.map fun d => (d.kind, d.name)).Nodup := by
  have hPart : ∀ kind, ((report.get kind).map (·.2)).map (fun d => (d.kind, d.name)) =
      ((report.get kind).map Prod.fst).map (kind, ·) := by
    intro kind
    rw [List.map_map, List.map_map]
    exact List.map_congr_left fun entry hEntry =>
      Prod.ext (h.kind_eq kind entry hEntry) (h.name_eq kind entry hEntry)
  rw [differences_eq, List.map_flatMap, List.nodup_flatMap]
  constructor
  · intro kind _
    rw [hPart]
    exact (h.keys_nodup kind).map fun _ _ same => (Prod.mk.inj same).2
  · refine (by decide : TypeKind.all.Nodup).imp fun {kind kind'} hOther pair hPair hPair' => ?_
    simp only [hPart] at hPair hPair'
    obtain ⟨key, -, rfl⟩ := List.mem_map.mp hPair
    obtain ⟨key', -, same⟩ := List.mem_map.mp hPair'
    exact hOther (Prod.mk.inj same).1.symm

theorem counts : (TypeKind.all.map report.countOf).sum = report.differences.length := by
  have hCounts : TypeKind.all.map report.countOf = TypeKind.all.map fun kind => (report.get kind).length :=
    List.map_congr_left fun kind _ => h.countOf_eq kind
  rw [hCounts, differences_eq, List.length_flatMap]
  simp only [List.length_map]

theorem summary : report.summary =
    "\n".intercalate (TypeKind.all.map fun kind => kind.heading ++ ": " ++ toString (report.countOf kind)) := by
  rw [Report.summary, sections, List.map_map]
  simp only [h.countOf_eq]
  rfl

theorem rows_eq (kind : TypeKind) : (report.get kind).flatMap (fun entry => recordLines entry.1 entry.2) =
    ((report.get kind).map (·.2)).flatMap fun d => recordLines d.name d := by
  rw [List.flatMap_map]
  exact List.flatMap_congr fun entry hEntry => by rw [h.name_eq kind entry hEntry]

theorem listing_kind (kind : TypeKind) {last : Option TypeKind} (hLast : last ≠ some kind) (rest : List Difference) :
    ∃ next, (next = last ∨ next = some kind) ∧
      listing last ((report.get kind).map (·.2) ++ rest) = sectionLines kind (report.get kind) ++ listing next rest := by
  have hKind : ∀ d ∈ (report.get kind).map (·.2), d.kind = kind := List.forall_mem_map.mpr (h.kind_eq kind)
  rw [sectionLines, h.rows_eq]
  -- Without records the listing goes on as if the kind were not there, and the kind before counts on.
  cases hRecords : report.get kind with
  | nil => exact ⟨last, .inl rfl, rfl⟩
  | cons entry records =>
    rw [hRecords] at hKind
    obtain ⟨hHead, hTail⟩ := List.forall_mem_cons.mp hKind
    refine ⟨some kind, .inr rfl, ?_⟩
    rw [List.map_cons, List.cons_append, listing, hHead, if_neg hLast, listing_append hTail]
    simp [TypeKind.header]

theorem listing_flatMap {kinds : List TypeKind} (hKinds : kinds.Nodup) {last : Option TypeKind}
    (hLast : ∀ kind ∈ kinds, last ≠ some kind) :
    listing last (kinds.flatMap fun kind => (report.get kind).map (·.2)) =
      kinds.flatMap fun kind => sectionLines kind (report.get kind) := by
  induction kinds generalizing last with
  | nil => rfl
  | cons kind kinds ih =>
    obtain ⟨hFresh, hRest⟩ := List.nodup_cons.mp hKinds
    obtain ⟨hHead, hLater⟩ := List.forall_mem_cons.mp hLast
    obtain ⟨next, hNext, hLines⟩ := h.listing_kind kind hHead (kinds.flatMap fun kind => (report.get kind).map (·.2))
    rw [List.flatMap_cons, hLines, List.flatMap_cons, ih hRest]
    intro other hOther
    rcases hNext with rfl | rfl
    · exact hLater other hOther
    · exact fun same => hFresh (Option.some.inj same ▸ hOther)

theorem table : report.plainLines = listing none report.differences := by
  have hFresh : ∀ kind ∈ TypeKind.all, none ≠ some kind := fun _ _ => (Option.some_ne_none _).symm
  rw [plainLines, sections, List.flatMap_map, differences_eq, h.listing_flatMap (by decide) hFresh]

theorem flattened_eq : report.flattened = report.differences.map fun d => (d.kind.key, d.name, d.toJson) := by
  have hMembers : report.toJson.members = TypeKind.all.map fun kind =>
      (kind.key, .object ((report.get kind).map fun entry => (entry.1, entry.2.toJson))) := List.map_map
  rw [flattened, hMembers, List.flatMap_map, differences_eq, List.map_flatMap]
  refine List.flatMap_congr fun kind _ => ?_
  rw [JsonValue.members, List.map_map, List.map_map]
  refine List.map_congr_left fun entry hEntry => ?_
  simp only [Function.comp_apply, h.kind_eq kind entry hEntry, h.name_eq kind entry hEntry]

theorem document : List.Forall₂ (fun d (entry : String × String × JsonValue) => d.ShownBy entry.1 entry.2.1 entry.2.2)
    report.differences report.flattened := by
  rw [h.flattened_eq, List.forall₂_map_right_iff]
  exact List.forall₂_same.mpr fun d _ => d.shownBy_toJson

theorem headers :
    report.plainLines.filter isHeader = (TypeKind.all.filter (report.countOf · ≠ 0)).map TypeKind.header := by
  rw [plainLines, sections, List.flatMap_map, List.filter_flatMap, map_filter_eq_flatMap]
  refine List.flatMap_congr fun kind _ => ?_
  rw [filter_sectionLines, h.countOf_eq]
  cases report.get kind <;> rfl

/-- A table with records starts with a header, and no header starts like the line that says that there is none. -/
theorem plainOutput_ne_emptyLine (hSome : report.isEmpty = false) {display : Display} (hDisplay : display.StripsLines)
    (script : String) : CommandLine.plainOutput display report script ≠
      CommandLine.plainLine display (CommandLine.emptyLine script) := by
  obtain ⟨kind, lines, hLines⟩ : ∃ kind lines, report.plainLines = TypeKind.header kind :: lines := by
    rw [h.table]
    cases hDifferences : report.differences with
    | nil => rw [isEmpty, hDifferences] at hSome; cases hSome
    | cons d rest => exact ⟨d.kind, recordLines d.name d ++ listing (some d.kind) rest, rfl⟩
  have hHeader : CommandLine.plainLine display kind.header = ⟨kind.header ++ "\n", none⟩ := by
    rw [CommandLine.plainLine, hDisplay.strip kind.header_chars.1]
    exact Printing.ofText_of_not_hasHalf kind.header_chars.2.1
  have hPrinted : CommandLine.plainOutput display report script =
      Printing.andThen ⟨kind.header ++ "\n", none⟩ (.all (lines.map (CommandLine.plainLine display))) := by
    rw [CommandLine.plainOutput, hSome, if_neg Bool.false_ne_true, hLines, List.map_cons, Printing.all,
      List.foldr_cons, hHeader]
    rfl
  have hHead : (CommandLine.plainOutput display report script).text.toList.head? = kind.header.toList.head? := by
    have hText : kind.header.toList ≠ [] := fun hNil => by
      have hStart := kind.header_chars.2.2
      simp [hNil] at hStart
    rw [hPrinted, Printing.andThen, String.toList_append, String.toList_append, List.append_assoc,
      List.head?_append_of_ne_nil _ hText]
  intro hSame
  rw [hSame] at hHead
  have hOther := kind.header_chars.2.2
  rcases CommandLine.head?_emptyLine hDisplay script with hNone | hN
  · simp [← hHead, hNone] at hOther
  · simp [← hHead, hN] at hOther

theorem viewsAgree : report.ViewsAgree where
  listedRecords := listedRecords_eq report
  tableView := tableView_eq report
  documentView := documentView_eq report
  countLines := intercalate_countLines report
  listed_once := h.listed_once
  grouped := h.grouped
  table := h.table
  document := h.document
  headers := h.headers
  summary := h.summary
  counts := h.counts
  isEmpty_iff display hDisplay script := by
    constructor
    · intro hEmpty
      rw [CommandLine.plainOutput, if_pos hEmpty]
    · intro hSame
      by_contra hSome
      exact h.plainOutput_ne_emptyLine ((Bool.not_eq_true _).mp hSome) hDisplay script hSame
  printed hSome display script := by rw [CommandLine.plainOutput, hSome, if_neg Bool.false_ne_true]

end Filed

end Report

theorem Inputs.viewsAgree_of_analyze {inputs : Inputs} {report : Report} (h : inputs.analyze.result = .ok report) :
    report.ViewsAgree := by
  obtain ⟨run, rfl⟩ := analyze_eq_ok_iff.mp h
  exact run.final.filed_toReport.viewsAgree

theorem Inputs.viewsAgree_of_analyze_sample :
    Sample.inputs.analyze.result = .ok Sample.report ∧ Sample.report.ViewsAgree :=
  ⟨Sample.analyze_eq, viewsAgree_of_analyze Sample.analyze_eq⟩

namespace Sample.Bold

def plainEnum : Vertex := ⟨0, "a", .type .enum, "A"⟩

/-- On a terminal the name is a bold `A`. -/
def boldEnum : Vertex := ⟨1, "b", .type .enum, "\x1b[1mA"⟩

def inputs : Inputs where
  oldGraph := .empty
  newGraph := {
    vertices := [plainEnum, boldEnum]
    edges := []
    ids_nodup := by decide
    ends_nodup := SchemaGraph.empty.ends_nodup
    ends_mem := nofun }
  matching := .empty
  operations := [.insertVertex plainEnum, .insertVertex boldEnum]

def report : Report := Report.empty.set .enum
  [("A", ⟨.enum, "A", .added⟩), ("\x1b[1mA", ⟨.enum, "\x1b[1mA", .added⟩)]

/-- The list of records and the document have two names, and the table that is printed has the first one twice. -/
theorem printed_names :
    inputs.analyze.result = .ok report ∧
    report.differences.map (·.name) = ["A", "\x1b[1mA"] ∧
    report.flattened.map (·.2.1) = ["A", "\x1b[1mA"] ∧
    CommandLine.plainOutput .unstyled report "edits.yaml" = ⟨"Enums:\n  A: added\n  A: added\n", none⟩ :=
  ⟨rfl, rfl, rfl, by decide +kernel⟩

end Sample.Bold

end SchemaChange
