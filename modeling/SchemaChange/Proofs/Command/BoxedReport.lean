import SchemaChange.Proofs.Admission
import SchemaChange.Proofs.Command.Output
import SchemaChange.Proofs.Console.Unstyled
import SchemaChange.Proofs.Recorded

/-! # Reports in boxes

In boxes a report is read as markup. On any display a report of literal texts is shown as the plain lines show it: each
kind's table has one row for each record, with the record's name, status and details. A bracket group of the form of a
tag is not shown.
-/
namespace SchemaChange

open Console

/-- A literal text that can be written. -/
structure Console.Display.Legible (display : Display) (text : String) : Prop extends display.Literal text.toList where
  no_mark : Text.mark ∉ text.toList

namespace Report

/-- The text of a record's details, a line for each. -/
def detailsText (difference : Difference) : String := "\n".intercalate (difference.change.details.map Detail.describe)

structure LegibleRecord (display : Display) (entry : String × Difference) : Prop where
  name : display.Legible entry.1
  details : display.Legible (detailsText entry.2)

/-- The cells of a table are, row by row, the texts in the plain lines of some records. -/
structure ShowsRecords (kind : TypeKind) (records : Records) (table : TextTable) : Prop where
  title : table.title.chars = kind.heading.toList
  headers : table.columns.map (·.header.chars) = ["Name".toList, "Change".toList, "Details".toList]
  cells : table.columns.map (fun column => column.cells.map (·.chars)) =
    [records.map fun entry => entry.1.toList, records.map fun entry => entry.2.change.status.toList,
      records.map fun entry =>
        ['\n'].intercalate (entry.2.change.details.map fun detail => detail.describe.toList)]
  plain : sectionLines kind records = (kind.heading ++ ":") :: records.flatMap fun entry =>
    ("  " ++ entry.1 ++ ": " ++ entry.2.change.status) ::
      entry.2.change.details.map fun detail => "    - " ++ detail.describe

/-- Tables that show the records of some sections, printed one after the other. -/
inductive Boxes (display : Display) : List (TypeKind × Records) → String → Prop
  | nil : Boxes display [] ""
  | cons {kind : TypeKind} {records : Records} {table : TextTable} {output rest : String}
    {parts : List (TypeKind × Records)} : ShowsRecords kind records table → display.setTable table = .ok output →
    Boxes display parts rest → Boxes display ((kind, records) :: parts) (output ++ rest)

/-- The tables of the kinds with records, or the line that says that there is nothing to show. -/
inductive Boxed (display : Display) (report : Report) (script output : String) : Prop
  | empty {text : StyledText} : report.isEmpty = true →
    text.chars = ("✅ " ++ CommandLine.emptyLine script).toList → display.setText text = .ok output →
    Boxed display report script output
  | boxes : report.isEmpty = false → Boxes display (report.sections.filter fun part => !part.2.isEmpty) output →
    Boxed display report script output

end Report

namespace Console

/-- A text without colons and anything that acts on a display. -/
def Plain (text : String) : Prop := ∀ c ∈ text.toList, c ∉ [':', '[', '\\', Text.mark] ∧ c ∉ Markup.leftOut

instance : DecidablePred Plain := fun text => List.decidableBAll _ text.toList

namespace Plain

variable {text : String} (h : Plain text)
include h

theorem no_colon : ':' ∉ text.toList := fun hMem => (h _ hMem).1 List.mem_cons_self

theorem unmarked : Display.Unmarked text.toList := fun c hc => ⟨fun hMem => (h c hc).1 (.tail _ hMem), (h c hc).2⟩

theorem words (display : Display) : display.Words text.toList :=
  Display.words_of_unmarked (by rw [List.count_eq_zero.mpr h.no_colon]; exact Nat.zero_le 1) h.unmarked

theorem legible (display : Display) : display.Legible text where
  toLiteral := (h.words display).literal
  no_mark := h.unmarked.not_mem (by simp)

end Plain

end Console

/-- The words in the texts of details, between names, types and values. -/
def Detail.words : List String :=
  ["field '", "argument '", "member '", "now implements '", "no longer implements '", ".", "'", "' added", "' removed",
    "' renamed to '", "' type changed from ", "' default changed from ", " to ", "<none>"]

theorem MemberChange.exists_parts (change : MemberChange) : ∃ parts : List String,
    change.describe = String.join parts ∧
      ∀ part ∈ parts, part ∈ Detail.words ∨ part ∈ change.fields.filterMap (·.2) := by
  cases change with
  | fieldAdded name => exact ⟨["field '", name, "' added"], rfl, by simp [Detail.words, fields]⟩
  | fieldRemoved name => exact ⟨["field '", name, "' removed"], rfl, by simp [Detail.words, fields]⟩
  | fieldRenamed oldName newName =>
    exact ⟨["field '", oldName, "' renamed to '", newName, "'"], rfl, by simp [Detail.words, fields]⟩
  | fieldRetyped field oldType newType =>
    exact ⟨["field '", field, "' type changed from ", oldType, " to ", newType], rfl, by simp [Detail.words, fields]⟩
  | argumentRemoved field name =>
    exact ⟨["argument '", field, ".", name, "' removed"], rfl, by simp [Detail.words, fields]⟩
  | argumentRetyped field argument oldType newType =>
    exact ⟨["argument '", field, ".", argument, "' type changed from ", oldType, " to ", newType], rfl,
      by simp [Detail.words, fields]⟩
  | defaultChanged field argument oldValue newValue =>
    refine ⟨["argument '", field, ".", argument, "' default changed from ", oldValue.getD "<none>", " to ",
      newValue.getD "<none>"], rfl, ?_⟩
    cases oldValue <;> cases newValue <;> simp [Detail.words, fields]
  | implementsAdded name => exact ⟨["now implements '", name, "'"], rfl, by simp [Detail.words, fields]⟩
  | implementsRemoved name => exact ⟨["no longer implements '", name, "'"], rfl, by simp [Detail.words, fields]⟩

namespace Detail

/-- The text of a detail is made of words and of the values of its fields. -/
theorem exists_parts (detail : Detail) : ∃ parts : List String, detail.describe = String.join parts ∧
    ∀ part ∈ parts, part ∈ words ∨ part ∈ detail.fields.filterMap (·.2) := by
  cases detail with
  | member container change => exact change.exists_parts
  | unionMemberAdded name => exact ⟨["member '", name, "' added"], rfl, by simp [words, fields]⟩
  | unionMemberRemoved name => exact ⟨["member '", name, "' removed"], rfl, by simp [words, fields]⟩

end Detail

namespace Report

/-- The texts in boxes that are no names, types and values. -/
def fixedTexts : List String :=
  Detail.words ++ TypeKind.all.map TypeKind.heading ++
    ["Name", "Change", "Details", "added", "removed", "modified", "", "✅ ", "No schema differences", " in "]

theorem plain_of_mem {text : String} (h : text ∈ fixedTexts) : Plain text := by
  have hAll : ∀ text ∈ fixedTexts, Plain text := by decide +kernel
  exact hAll text h

theorem plain_heading (kind : TypeKind) : Plain kind.heading :=
  plain_of_mem (List.mem_append_left _ (List.mem_append_right _ (List.mem_map_of_mem kind.mem_all)))

theorem plain_status (change : Change) : Plain change.status :=
  plain_of_mem (by cases change <;> simp [fixedTexts, Change.status])

theorem plain_describe {detail : Detail} (h : ∀ value ∈ detail.fields.filterMap (·.2), Plain value) :
    Plain detail.describe := by
  obtain ⟨parts, hDescribe, hParts⟩ := detail.exists_parts
  intro c hc
  rw [hDescribe, String.toList_join, List.mem_flatMap] at hc
  obtain ⟨part, hPart, hMem⟩ := hc
  obtain hWord | hValue := hParts part hPart
  · exact plain_of_mem (List.mem_append_left _ (List.mem_append_left _ hWord)) c hMem
  · exact h part hValue c hMem

variable {display : Display} {kind : TypeKind} {records : Records} {entry : String × Difference}

theorem toList_detailsText (difference : Difference) : (detailsText difference).toList =
    ['\n'].intercalate (difference.change.details.map fun detail => detail.describe.toList) := by
  have hBreak : "\n".toList = ['\n'] := rfl
  rw [detailsText, String.toList_intercalate, hBreak, List.map_map]
  rfl

theorem legibleRecord_of_plain (hName : Plain entry.1)
    (hDetails : ∀ detail ∈ entry.2.change.details, ∀ value ∈ detail.fields.filterMap (·.2), Plain value) :
    LegibleRecord display entry := by
  refine ⟨hName.legible display, Plain.legible ?_ display⟩
  intro c hc
  rw [toList_detailsText] at hc
  obtain ⟨line, hLine, hMem⟩ | hBreak := mem_or_of_mem_intercalate hc
  · obtain ⟨detail, hDetail, rfl⟩ := List.mem_map.mp hLine
    exact plain_describe (hDetails detail hDetail) c hMem
  · rw [List.mem_singleton.mp hBreak]
    decide

def plainCell (text : String) : StyledText := ⟨text.toList, []⟩

def statusCell (change : Change) : StyledText :=
  ⟨change.status.toList, [⟨0, change.status.toList.length, styleOf change⟩]⟩

/-- The table of a kind with its texts as they are. -/
def textTable (kind : TypeKind) (records : Records) : TextTable where
  title := plainCell kind.heading
  columns := [⟨plainCell "Name", some "bold cyan", records.map fun entry => plainCell entry.1⟩,
    ⟨plainCell "Change", none, records.map fun entry => statusCell entry.2.change⟩,
    ⟨plainCell "Details", some "dim", records.map fun entry => plainCell (detailsText entry.2)⟩]

theorem showsRecords_textTable (hSome : records.isEmpty = false) :
    ShowsRecords kind records (textTable kind records) where
  title := rfl
  headers := rfl
  cells := by simp [textTable, plainCell, statusCell, toList_detailsText, Function.comp_def]
  plain := by
    rw [sectionLines, hSome]
    rfl

theorem mem_texts_textTable {text : StyledText} (h : text ∈ (textTable kind records).texts) :
    (∃ words ∈ kind.heading :: ["Name", "Change", "Details"], text = plainCell words) ∨
      ∃ entry ∈ records, text = plainCell entry.1 ∨ text = statusCell entry.2.change ∨
        text = plainCell (detailsText entry.2) := by
  simp only [TextTable.texts, textTable, List.flatMap_cons, List.flatMap_nil, List.append_nil, List.mem_cons,
    List.mem_append, List.mem_map] at h
  obtain rfl | (rfl | ⟨entry, hEntry, rfl⟩) | (rfl | ⟨entry, hEntry, rfl⟩) | rfl | ⟨entry, hEntry, rfl⟩ := h
  · exact .inl ⟨_, List.mem_cons_self, rfl⟩
  · exact .inl ⟨"Name", by simp, rfl⟩
  · exact .inr ⟨entry, hEntry, .inl rfl⟩
  · exact .inl ⟨"Change", by simp, rfl⟩
  · exact .inr ⟨entry, hEntry, .inr (.inl rfl)⟩
  · exact .inl ⟨"Details", by simp, rfl⟩
  · exact .inr ⟨entry, hEntry, .inr (.inr rfl)⟩

theorem styleOf_mem (change : Change) : styleOf change ∈ markupStyles := by
  cases change with
  | added | removed => decide
  | modified details => exact (by decide : "yellow" ∈ markupStyles)

theorem styled_textTable (kind : TypeKind) (records : Records) : (textTable kind records).Styled where
  columns := by simp [textTable, columnStyles]
  texts text hText := by
    obtain ⟨words, -, rfl⟩ | ⟨entry, -, rfl | rfl | rfl⟩ := mem_texts_textTable hText
    · exact nofun
    · exact nofun
    · exact List.forall_mem_singleton.mpr (styleOf_mem entry.2.change)
    · exact nofun

theorem plain_header {words : String} (h : words ∈ kind.heading :: ["Name", "Change", "Details"]) : Plain words := by
  obtain rfl | hWords := List.mem_cons.mp h
  · exact plain_heading kind
  · exact plain_of_mem (List.mem_append_right _ (List.mem_append_left _ hWords))

theorem not_mem_mark_textTable (h : ∀ entry ∈ records, LegibleRecord display entry) :
    ∀ text ∈ (textTable kind records).texts, Text.mark ∉ text.chars := by
  intro text hText
  obtain ⟨words, hWords, rfl⟩ | ⟨entry, hEntry, rfl | rfl | rfl⟩ := mem_texts_textTable hText
  · exact ((plain_header hWords).legible display).no_mark
  · exact (h entry hEntry).name.no_mark
  · exact ((plain_status _).legible display).no_mark
  · exact (h entry hEntry).details.no_mark

theorem read_legible (hReads : display.ReadsMarkup) {text : String} (h : display.Legible text) :
    display.read text = .ok (plainCell text) := hReads.literal h.toLiteral

theorem read_status (hReads : display.ReadsMarkup) (change : Change) :
    display.read (styled (styleOf change) change.status) = .ok (statusCell change) := by
  have hEmpty : display.Words "".toList := (plain_of_mem (by simp [fixedTexts])).words display
  have hStatus : display.Words change.status.toList := (plain_status change).words display
  have hRead := hReads.styled hEmpty (styleOf_mem change) hStatus hEmpty.literal
  rw [String.empty_append, String.append_empty] at hRead
  rw [hRead]
  simp [statusCell]

/-- The markup of the records' table is read as their texts. -/
theorem read_boxTable (hReads : display.ReadsMarkup) (h : ∀ entry ∈ records, LegibleRecord display entry) :
    (boxTable kind records).read display.read = .ok (textTable kind records) := by
  have hWords : ∀ words ∈ kind.heading :: ["Name", "Change", "Details"], display.read words = .ok (plainCell words) :=
    fun words hMem => read_legible hReads ((plain_header hMem).legible display)
  have hColumn {i : Nat} {cell : String × Difference → StyledText}
      (hCell : ∀ entry ∈ records, display.read ((boxRow entry.1 entry.2).getD i "") = .ok (cell entry)) :
      (boxTable kind records).rows.mapM (fun row : List String => display.read (row.getD i "")) =
        .ok (records.map cell) := by
    rw [mapM_eq_ok_iff, boxTable, List.forall₂_map_left_iff, List.forall₂_map_right_iff, List.forall₂_same]
    exact hCell
  have hNames := hColumn (i := 0) fun entry hEntry => read_legible hReads (h entry hEntry).name
  have hStatuses := hColumn (i := 1) fun entry _ => read_status hReads entry.2.change
  have hDetails := hColumn (i := 2) fun entry hEntry => read_legible hReads (h entry hEntry).details
  have hTitle : display.read (boxTable kind records).title = .ok (plainCell kind.heading) :=
    hWords kind.heading List.mem_cons_self
  have hColumns : (boxTable kind records).columns =
      [⟨"Name", some "bold cyan"⟩, ⟨"Change", none⟩, ⟨"Details", some "dim"⟩] := rfl
  rw [BoxTable.read, hTitle, hColumns]
  simp only [List.zipIdx_cons, List.zipIdx_nil, List.mapM_cons, List.mapM_nil, bind, Except.bind,
    hWords "Name" (by simp), hWords "Change" (by simp), hWords "Details" (by simp), Nat.zero_add, Nat.reduceAdd, hNames,
    hStatuses, hDetails]
  rfl

theorem exists_printTable (hDisplay : display.Documented) (kind : TypeKind)
    (h : ∀ entry ∈ records, LegibleRecord display entry) : ∃ output, display.setTable (textTable kind records) = .ok output ∧
      Printing.ofMarkup (display.printTable (boxTable kind records)) = ⟨output, none⟩ := by
  obtain ⟨output, hSet, hMark⟩ := hDisplay.setTable (styled_textTable kind records)
  refine ⟨output, hSet, ?_⟩
  have hPrinted : display.printTable (boxTable kind records) = .ok output := by
    rw [Display.printTable, read_boxTable hDisplay.toReadsMarkup h]
    exact hSet
  rw [hPrinted]
  exact Printing.ofText_of_not_hasHalf (Text.hasHalf_of_not_mem_mark (hMark (not_mem_mark_textTable h)))

theorem exists_boxes (hDisplay : display.Documented) {parts : List (TypeKind × Records)}
    (h : ∀ part ∈ parts, part.2.isEmpty = false ∧ ∀ entry ∈ part.2, LegibleRecord display entry) :
    ∃ output, Boxes display parts output ∧ Printing.all (parts.map fun part =>
      .ofMarkup (display.printTable (boxTable part.1 part.2))) = ⟨output, none⟩ := by
  induction parts with
  | nil => exact ⟨"", .nil, rfl⟩
  | cons part parts ih =>
    obtain ⟨⟨hSome, hRecords⟩, hParts⟩ := List.forall_mem_cons.mp h
    obtain ⟨output, hSet, hPrinted⟩ := exists_printTable hDisplay part.1 hRecords
    obtain ⟨rest, hBoxes, hRest⟩ := ih hParts
    refine ⟨output ++ rest, .cons (showsRecords_textTable hSome) hSet hBoxes, ?_⟩
    rw [Printing.all] at hRest
    rw [List.map_cons, Printing.all, List.foldr_cons, hPrinted, hRest]
    rfl

end Report

namespace CommandLine

variable {display : Display} {report : Report} {script : String}

theorem toList_emptyLine (script : String) :
    "✅ ".toList ++ "No schema differences".toList ++ (" in " ++ script).toList = ("✅ " ++ emptyLine script).toList := by
  have hWords : "No schema differences".toList ++ " in ".toList = "No schema differences in ".toList := by decide +kernel
  calc
    _ = "✅ ".toList ++ (("No schema differences".toList ++ " in ".toList) ++ script.toList) := by
      simp only [String.toList_append, List.append_assoc]
    _ = "✅ ".toList ++ (emptyLine script).toList :=
      congrArg _ ((congrArg (· ++ script.toList) hWords).trans String.toList_append.symm)
    _ = ("✅ " ++ emptyLine script).toList := String.toList_append.symm

theorem exists_printEmpty (hDisplay : display.Documented) (h : display.Legible script) :
    ∃ text output, text.chars = ("✅ " ++ emptyLine script).toList ∧ display.setText text = .ok output ∧
      Printing.ofMarkup (display.print ("✅ " ++ styled "bold green" "No schema differences" ++ " in " ++ script)) =
        ⟨output, none⟩ := by
  have hMark : Plain "✅ " := Report.plain_of_mem (by simp [Report.fixedTexts])
  have hWords : Plain "No schema differences" := Report.plain_of_mem (by simp [Report.fixedTexts])
  have hIn : Plain " in " := Report.plain_of_mem (by simp [Report.fixedTexts])
  have hAfter : display.Literal (" in " ++ script).toList := by
    rw [String.toList_append]
    exact h.toLiteral.append_left hIn.no_colon hIn.unmarked
  have hStyle : "bold green" ∈ markupStyles := by decide
  have hRead := hDisplay.styled (hMark.words display) hStyle (hWords.words display) hAfter
  rw [← String.append_assoc, toList_emptyLine] at hRead
  generalize "✅ ".toList.length = first, "✅ ".toList.length + "No schema differences".toList.length = last at hRead
  have hStyles : StyledText.StylesIn markupStyles ⟨("✅ " ++ emptyLine script).toList, [⟨first, last, "bold green"⟩]⟩ :=
    List.forall_mem_singleton.mpr hStyle
  obtain ⟨output, hSet, hWhole⟩ := hDisplay.setText hStyles
  have hNone : Text.mark ∉ ("✅ " ++ emptyLine script).toList := by
    rw [← toList_emptyLine, String.toList_append]
    simp only [List.mem_append, (hMark.legible display).no_mark, (hWords.legible display).no_mark,
      (hIn.legible display).no_mark, h.no_mark, or_self, not_false_eq_true]
  refine ⟨_, output, rfl, hSet, ?_⟩
  rw [Display.print, hRead]
  change Printing.ofMarkup (display.setText _) = _
  rw [hSet]
  exact Printing.ofText_of_not_hasHalf (Text.hasHalf_of_not_mem_mark (hWhole hNone))

/-- With colours forced, a report whose records are legible is shown as it is, and never stopped. -/
theorem tableOutput_of_legible (hDisplay : display.Documented)
    (hRecords : ∀ part ∈ report.sections, ∀ entry ∈ part.2, Report.LegibleRecord display entry)
    (hScript : report.isEmpty = true → display.Legible script) :
    ∃ output, tableOutput display true report script = ⟨output, none⟩ ∧ report.Boxed display script output := by
  rw [tableOutput, Bool.true_or, if_pos rfl, boxedOutput]
  cases hEmpty : report.isEmpty with
  | true =>
    obtain ⟨text, output, hChars, hSet, hPrinted⟩ := exists_printEmpty hDisplay (hScript hEmpty)
    exact ⟨output, hPrinted, .empty hEmpty hChars hSet⟩
  | false =>
    have hParts : ∀ part ∈ report.sections.filter (fun part => !part.2.isEmpty), part.2.isEmpty = false ∧
        ∀ entry ∈ part.2, Report.LegibleRecord display entry := by
      intro part hPart
      obtain ⟨hSection, hSome⟩ := List.mem_filter.mp hPart
      exact ⟨by simpa using hSome, hRecords part hSection⟩
    obtain ⟨output, hBoxes, hPrinted⟩ := Report.exists_boxes hDisplay hParts
    exact ⟨output, hPrinted, .boxes hEmpty hBoxes⟩

/-- The sample's names, types and values have only letters and digits. -/
theorem tableOutput_of_legible_sample :
    (∀ part ∈ Sample.report.sections, ∀ entry ∈ part.2, Report.LegibleRecord .unstyled entry) ∧
    ∃ output, tableOutput .unstyled true Sample.report "edits.yaml" = ⟨output, none⟩ ∧
      Sample.report.Boxed .unstyled "edits.yaml" output := by
  have hPlain : ∀ part ∈ Sample.report.sections, ∀ entry ∈ part.2, Plain entry.1 ∧
      ∀ detail ∈ entry.2.change.details, ∀ value ∈ detail.fields.filterMap (·.2), Plain value := by decide +kernel
  have hRecords : ∀ part ∈ Sample.report.sections, ∀ entry ∈ part.2, Report.LegibleRecord .unstyled entry :=
    fun part hPart entry hEntry =>
      Report.legibleRecord_of_plain (hPlain part hPart entry hEntry).1 (hPlain part hPart entry hEntry).2
  exact ⟨hRecords, tableOutput_of_legible Display.documented_unstyled hRecords
    fun hEmpty => absurd hEmpty (by decide +kernel)⟩

end CommandLine

namespace Sample.Lists

def oldQuery : Vertex := ⟨0, "Q", .type .object, "Q"⟩
def oldField : Vertex := ⟨1, "Q.f", .field, "f"⟩
def oldLink : Vertex := ⟨2, "link", .type .object, "link"⟩
def newQuery : Vertex := ⟨3, "Q", .type .object, "Q"⟩
def newField : Vertex := ⟨4, "Q.f", .field, "f"⟩
def newLink : Vertex := ⟨5, "link", .type .object, "link"⟩

def oldType : Edge := ⟨0, oldField, oldLink, "type=[link]!;defaultValue="⟩
def newType : Edge := ⟨1, newField, newLink, "type=[link];defaultValue="⟩

def inputs : Inputs where
  oldGraph := {
    vertices := [oldQuery, oldField, oldLink]
    edges := [⟨2, oldQuery, oldField, ""⟩, oldType]
    ids_nodup := by decide
    ends_nodup := by decide
    ends_mem := by decide }
  newGraph := {
    vertices := [newQuery, newField, newLink]
    edges := [⟨3, newQuery, newField, ""⟩, newType]
    ids_nodup := by decide
    ends_nodup := by decide
    ends_mem := by decide }
  matching := {
    pairs := [(oldQuery, newQuery), (oldField, newField), (oldLink, newLink)]
    sources_nodup := by decide
    targets_nodup := by decide }
  operations := [.changeEdge oldType newType]

def records : Records := [("Q", ⟨.object, "Q", .modified [.member .object (.fieldRetyped "f" "[link]!" "[link]")]⟩)]

def shown : TextTable where
  title := Report.plainCell "Objects"
  columns := [⟨Report.plainCell "Name", some "bold cyan", [Report.plainCell "Q"]⟩,
    ⟨Report.plainCell "Change", none, [Report.statusCell (.modified [])]⟩,
    ⟨Report.plainCell "Details", some "dim",
      [⟨"field 'f' type changed from ! to ".toList, [⟨33, 33, "link"⟩, ⟨28, 33, "link"⟩]⟩]⟩]

/-- The list types of the detail have the form of tags: nothing of them is shown in the box. -/
theorem shown_retyped :
    inputs.analyze.result = .ok (Report.empty.set .object records) ∧
    CommandLine.plainOutput .unstyled (Report.empty.set .object records) "edits.yaml" =
      ⟨"Objects:\n  Q: modified\n    - field 'f' type changed from [link]! to [link]\n", none⟩ ∧
    (Report.boxTable .object records).read Display.unstyled.read = .ok shown ∧
    ¬ Report.ShowsRecords .object records shown := by
  refine ⟨rfl, by decide +kernel, by decide +kernel, fun h => ?_⟩
  exact absurd h.cells (by decide +kernel)

end Sample.Lists

end SchemaChange
