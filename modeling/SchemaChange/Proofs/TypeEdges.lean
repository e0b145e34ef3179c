import SchemaChange.Proofs.Recorded

/-! # Details of type edges

The details that tell of new types of fields and of new types and defaults of arguments are those that the operations
on type edges give when the list is gone through once. An inserted type edge is read against the first removed one of
the same field or argument, wherever that stands in the list.
-/
namespace SchemaChange

/-- The first removed type edge that leaves an old vertex: before it in the list none is removed. -/
def FirstRemoved (operations : List EditOperation) (old : Vertex) (removed : Edge) : Prop :=
  ∃ earlier later, operations = earlier ++ .deleteEdge removed :: later ∧
    removed.source = old ∧ isTypeLabel removed.label = true ∧
    ∀ e, .deleteEdge e ∈ earlier → ¬ (e.source = old ∧ isTypeLabel e.label = true)

theorem Inputs.removedTypeEdge?_eq_some_iff {operations : List EditOperation} {old : Vertex} {removed : Edge} :
    removedTypeEdge? operations old = some removed ↔ FirstRemoved operations old removed := by
  rw [removedTypeEdge?, List.findSome?_eq_some_iff]
  constructor
  · rintro ⟨earlier, op, later, rfl, hFound, hEarlier⟩
    cases op with
    | deleteEdge e =>
      simp only [Option.ite_none_right_eq_some] at hFound
      obtain ⟨⟨hSource, hLabel⟩, hEq⟩ := hFound
      cases hEq
      refine ⟨earlier, later, rfl, hSource, hLabel, fun other hOther hQualifies => ?_⟩
      have hNone := hEarlier _ hOther
      simp only [if_pos hQualifies] at hNone
      cases hNone
    | _ => cases hFound
  · rintro ⟨earlier, later, rfl, hSource, hLabel, hEarlier⟩
    refine ⟨earlier, .deleteEdge removed, later, rfl, if_pos ⟨hSource, hLabel⟩, fun op hOp => ?_⟩
    cases op with
    | deleteEdge e => exact if_neg (hEarlier e hOp)
    | _ => rfl

theorem FirstRemoved.unique {operations : List EditOperation} {old : Vertex} {removed removed' : Edge}
    (h : FirstRemoved operations old removed) (h' : FirstRemoved operations old removed') : removed' = removed := by
  rw [← Inputs.removedTypeEdge?_eq_some_iff] at h h'
  exact Option.some.inj (h'.symm.trans h)

/-- The type edge of the new graph that an operation brings in or changes. -/
def EditOperation.typeEdge? : EditOperation → Option Edge
  | insertEdge edge => if isTypeLabel edge.label then some edge else none
  | changeEdge _ edge => if isTypeLabel edge.label then some edge else none
  | _ => none

namespace Report

def Adds (report : Report) (c : Container) : Prop := report.change? c.kind.toTypeKind c.name = some .added

def AddsField (report : Report) (c : Container) (field : Vertex) : Prop :=
  .member c.kind (.fieldAdded field.name) ∈ report.details c.kind.toTypeKind c.name

end Report

/-- A vertex of the new graph that has a type, with the field it belongs to and the container of this field: it is the
field itself or one of its arguments. -/
inductive Inputs.Typed (inputs : Inputs) : Vertex → Vertex → Container → Prop
  | field {field : Vertex} {c : Container} : field.kind = .field → inputs.newGraph.containerOf field = .ok c →
    Typed inputs field field c
  | argument {argument field : Vertex} {c : Container} : argument.kind = .argument →
    inputs.newGraph.argumentOwner argument = .ok (.field field) → inputs.newGraph.containerOf field = .ok c →
    Typed inputs argument field c

/-- What two labels of a vertex tell, the earlier and the later one: of a field both types, even if they are the same;
of an argument what differs, the type before the default. -/
def typeChanges (v field : Vertex) (old new : TypeLabel) : List MemberChange :=
  if v.kind = .field then [.fieldRetyped field.name old.type new.type]
  else
    (if old.type ≠ new.type then [.argumentRetyped field.name v.name old.type new.type] else []) ++
      if old.default ≠ new.default then [.defaultChanged field.name v.name old.default new.default] else []

/-- The operations that tell of types: a type edge of a field, or of an argument that a field owns, is inserted or
changed. -/
def Inputs.ConcernsType (inputs : Inputs) (op : EditOperation) : Prop :=
  ∃ edge, op.typeEdge? = some edge ∧ (edge.source.kind = .field ∨
    (edge.source.kind = .argument ∧ ∃ field, inputs.newGraph.argumentOwner edge.source = .ok (.field field)))

/-- What is reported already covers an operation. An insertion is covered by an added field too, and an added argument
has no earlier type. -/
inductive Inputs.CoversType (inputs : Inputs) (report : Report) : EditOperation → Prop
  | container {op : EditOperation} {edge : Edge} {field : Vertex} {c : Container} : op.typeEdge? = some edge →
    inputs.Typed edge.source field c → report.Adds c → CoversType inputs report op
  | field {edge : Edge} {field : Vertex} {c : Container} : inputs.Typed edge.source field c →
    report.AddsField c field → CoversType inputs report (.insertEdge edge)
  | argument {edge : Edge} : edge.source.kind = .argument → inputs.matching.source? edge.source = none →
    CoversType inputs report (.insertEdge edge)

/-- The changes that an operation on a type edge gives to the record of a container. -/
inductive Inputs.GivesType (inputs : Inputs) (report : Report) :
    EditOperation → Container → String → List MemberChange → Prop
  | inserted {edge removed : Edge} {old field : Vertex} {c : Container} {before after : TypeLabel} :
    isTypeLabel edge.label = true → inputs.Typed edge.source field c → ¬ report.Adds c → ¬ report.AddsField c field →
    inputs.matching.source? edge.source = some old → FirstRemoved inputs.operations old removed →
    TypeLabel.decode? removed.label = some before → TypeLabel.decode? edge.label = some after →
    GivesType inputs report (.insertEdge edge) c c.name (typeChanges edge.source field before after)
  | changed {source target : Edge} {field : Vertex} {c : Container} {before after : TypeLabel} :
    isTypeLabel target.label = true → inputs.Typed target.source field c → ¬ report.Adds c →
    TypeLabel.decode? source.label = some before → TypeLabel.decode? target.label = some after →
    GivesType inputs report (.changeEdge source target) c c.name (typeChanges target.source field before after)

/-- The records of a report list what the operations give of types and defaults. -/
structure Report.ListsTypes (report : Report) (inputs : Inputs) : Prop where
  /-- Every operation concerned gives its changes, unless it is covered. -/
  tells : ∀ op ∈ inputs.operations, inputs.ConcernsType op →
    inputs.CoversType report op ∨ ∃ c name changes, inputs.GivesType report op c name changes
  /-- What an operation gives is determined, and a covered operation gives nothing. -/
  once : ∀ op c name changes, inputs.GivesType report op c name changes → ¬ inputs.CoversType report op ∧
    ∀ c' name' changes', inputs.GivesType report op c' name' changes' → c' = c ∧ name' = name ∧ changes' = changes
  /-- A record has what the operations give to it, in their order. -/
  inOrder : ∀ kind name, GivenInOrder (Files (inputs.GivesType report) kind name) inputs.operations
    ((report.details kind name).filter (·.recordedBy = .typeEdges))

section

variable {inputs : Inputs} {report : Report} {op : EditOperation}

theorem Inputs.Typed.unique {v field field' : Vertex} {c c' : Container} (h : inputs.Typed v field c)
    (h' : inputs.Typed v field' c') : field' = field ∧ c' = c := by
  cases h with
  | field hKind hContainer =>
    cases h' with
    | field _ hContainer' =>
      cases hContainer.symm.trans hContainer'
      exact ⟨rfl, rfl⟩
    | argument hKind' => cases hKind.symm.trans hKind'
  | argument hKind hOwner hContainer =>
    cases h' with
    | field hKind' => cases hKind.symm.trans hKind'
    | argument _ hOwner' hContainer' =>
      cases hOwner.symm.trans hOwner'
      cases hContainer.symm.trans hContainer'
      exact ⟨rfl, rfl⟩

theorem Inputs.GivesType.unique {c c' : Container} {name name' : String} {changes changes' : List MemberChange}
    (h : inputs.GivesType report op c name changes) (h' : inputs.GivesType report op c' name' changes') :
    c' = c ∧ name' = name ∧ changes' = changes := by
  cases h with
  | inserted _ hTyped _ _ hOld hRemoved hBefore hAfter =>
    cases h' with
    | inserted _ hTyped' _ _ hOld' hRemoved' hBefore' hAfter' =>
      obtain ⟨rfl, rfl⟩ := hTyped.unique hTyped'
      cases hOld.symm.trans hOld'
      cases hRemoved.unique hRemoved'
      cases hBefore.symm.trans hBefore'
      cases hAfter.symm.trans hAfter'
      exact ⟨rfl, rfl, rfl⟩
  | changed _ hTyped _ hBefore hAfter =>
    cases h' with
    | changed _ hTyped' _ hBefore' hAfter' =>
      obtain ⟨rfl, rfl⟩ := hTyped.unique hTyped'
      cases hBefore.symm.trans hBefore'
      cases hAfter.symm.trans hAfter'
      exact ⟨rfl, rfl, rfl⟩

theorem Inputs.GivesType.not_covered {c : Container} {name : String} {changes : List MemberChange}
    (h : inputs.GivesType report op c name changes) : ¬ inputs.CoversType report op := by
  intro hCovers
  cases h with
  | inserted hLabel hTyped hAdds hField hOld =>
    cases hCovers with
    | container hEdge hTyped' hAdds' =>
      rw [EditOperation.typeEdge?, if_pos hLabel] at hEdge
      cases hEdge
      obtain ⟨_, rfl⟩ := hTyped.unique hTyped'
      exact hAdds hAdds'
    | field hTyped' hField' =>
      obtain ⟨rfl, rfl⟩ := hTyped.unique hTyped'
      exact hField hField'
    | argument _ hNone => cases hNone.symm.trans hOld
  | changed hLabel hTyped hAdds =>
    cases hCovers with
    | container hEdge hTyped' hAdds' =>
      rw [EditOperation.typeEdge?, if_pos hLabel] at hEdge
      cases hEdge
      obtain ⟨_, rfl⟩ := hTyped.unique hTyped'
      exact hAdds hAdds'

theorem Inputs.Typed.concerns {edge : Edge} {field : Vertex} {c : Container} (hEdge : op.typeEdge? = some edge)
    (h : inputs.Typed edge.source field c) : inputs.ConcernsType op := by
  refine ⟨edge, hEdge, ?_⟩
  cases h with
  | field hKind => exact .inl hKind
  | argument hKind hOwner => exact .inr ⟨hKind, _, hOwner⟩

theorem Inputs.GivesType.concerns {c : Container} {name : String} {changes : List MemberChange}
    (h : inputs.GivesType report op c name changes) : inputs.ConcernsType op := by
  cases h with
  | inserted hLabel hTyped => exact hTyped.concerns (if_pos hLabel)
  | changed hLabel hTyped => exact hTyped.concerns (if_pos hLabel)

theorem typeChanges_field {v field : Vertex} (h : v.kind = .field) (old new : TypeLabel) :
    typeChanges v field old new = [.fieldRetyped field.name old.type new.type] := if_pos h

theorem typeChanges_argument {v field : Vertex} (h : v.kind = .argument) (old new : TypeLabel) :
    typeChanges v field old new = Inputs.argumentChanges field.name v.name old new := by
  simp [typeChanges, Inputs.argumentChanges, h]

namespace CompleteRun

variable (run : CompleteRun inputs)

theorem containerAdded_final_iff (c : Container) : run.final.containerAdded c = true ↔ run.report.Adds c := by
  rw [Ledgers.containerAdded, Ledger.wasAdded_iff, Report.Adds, report, Ledgers.change?_toReport]

theorem fieldAdded_final_iff (c : Container) (field : Vertex) :
    run.final.fieldAdded c field.name = true ↔ run.report.AddsField c field := by
  rw [Ledgers.fieldAdded, List.contains_iff_mem, Report.AddsField, report, Ledgers.details_toReport]

/-- What the third pass may find about an operation: what it gives, a skip if it is covered, or nothing if it does not
concern types. -/
def FindsType (op : EditOperation) (finding : Finding) : Prop :=
  (∃ c name changes, inputs.GivesType run.report op c name changes ∧ finding = .members c name changes) ∨
  (inputs.CoversType run.report op ∧ ∃ reason, finding = .skipped reason) ∨
  (¬ inputs.ConcernsType op ∧ finding = .nothing)

variable {edge source target : Edge} {finding : Finding}

theorem findsType_of_fieldInserted (hLabel : isTypeLabel edge.label = true) (hKind : edge.source.kind = .field)
    (h : inputs.judgeFieldTypeInserted run.final edge op = .ok finding) :
    run.FindsType (.insertEdge edge) finding := by
  obtain ⟨c, hContainer, hFound⟩ := Inputs.judgeFieldTypeInserted_eq_ok_iff.mp h
  have hTyped : inputs.Typed edge.source edge.source c := .field hKind hContainer
  simp only [← Bool.not_eq_true, run.containerAdded_final_iff, run.fieldAdded_final_iff,
    Inputs.pairedTypeEdge_eq_ok_iff, Inputs.removedTypeEdge?_eq_some_iff] at hFound
  obtain ⟨hAdds, rfl⟩ | ⟨hAdds, ⟨hField, rfl⟩ | ⟨hField, after, hAfter, removed, ⟨old, hOld, hRemoved⟩, before,
    hBefore, rfl⟩⟩ := hFound
  · exact .inr (.inl ⟨.container (if_pos hLabel) hTyped hAdds, _, rfl⟩)
  · exact .inr (.inl ⟨.field hTyped hField, _, rfl⟩)
  · refine .inl ⟨c, c.name, _, .inserted hLabel hTyped hAdds hField hOld hRemoved hBefore hAfter, ?_⟩
    rw [typeChanges_field hKind]

theorem findsType_of_fieldChanged (hLabel : isTypeLabel target.label = true) (hKind : target.source.kind = .field)
    (h : inputs.judgeFieldTypeChanged run.final source target = .ok finding) :
    run.FindsType (.changeEdge source target) finding := by
  obtain ⟨c, hContainer, hFound⟩ := Inputs.judgeFieldTypeChanged_eq_ok_iff.mp h
  have hTyped : inputs.Typed target.source target.source c := .field hKind hContainer
  simp only [← Bool.not_eq_true, run.containerAdded_final_iff] at hFound
  obtain ⟨hAdds, rfl⟩ | ⟨hAdds, before, hBefore, after, hAfter, rfl⟩ := hFound
  · exact .inr (.inl ⟨.container (if_pos hLabel) hTyped hAdds, _, rfl⟩)
  · refine .inl ⟨c, c.name, _, .changed hLabel hTyped hAdds hBefore hAfter, ?_⟩
    rw [typeChanges_field hKind]

theorem not_concernsType_of_directive {directive : Vertex} (hEdge : op.typeEdge? = some edge)
    (hKind : edge.source.kind = .argument)
    (hOwner : inputs.newGraph.argumentOwner edge.source = .ok (.directive directive)) :
    ¬ inputs.ConcernsType op := by
  rintro ⟨edge', hEdge', hField | ⟨_, field, hOwner'⟩⟩
  · cases hEdge.symm.trans hEdge'
    cases hKind.symm.trans hField
  · cases hEdge.symm.trans hEdge'
    cases hOwner.symm.trans hOwner'

theorem findsType_of_argumentInserted (hLabel : isTypeLabel edge.label = true)
    (hKind : edge.source.kind = .argument) (h : inputs.judgeArgumentTypeInserted run.final edge op = .ok finding) :
    run.FindsType (.insertEdge edge) finding := by
  obtain ⟨_, hOwner, rfl⟩ | ⟨field, hOwner, c, hContainer, hFound⟩ :=
    Inputs.judgeArgumentTypeInserted_eq_ok_iff.mp h
  · exact .inr (.inr ⟨not_concernsType_of_directive (if_pos hLabel) hKind hOwner, rfl⟩)
  · have hTyped : inputs.Typed edge.source field c := .argument hKind hOwner hContainer
    simp only [← Bool.not_eq_true, run.containerAdded_final_iff, run.fieldAdded_final_iff,
      Inputs.pairedTypeEdge_eq_ok_iff, Inputs.removedTypeEdge?_eq_some_iff] at hFound
    obtain ⟨hAdds, rfl⟩ | ⟨hAdds, ⟨hField, rfl⟩ | ⟨hField, ⟨hNone, rfl⟩ | ⟨_, removed, ⟨old, hOld, hRemoved⟩,
      before, hBefore, after, hAfter, rfl⟩⟩⟩ := hFound
    · exact .inr (.inl ⟨.container (if_pos hLabel) hTyped hAdds, _, rfl⟩)
    · exact .inr (.inl ⟨.field hTyped hField, _, rfl⟩)
    · exact .inr (.inl ⟨.argument hKind (Option.isNone_iff_eq_none.mp hNone), _, rfl⟩)
    · refine .inl ⟨c, c.name, _, .inserted hLabel hTyped hAdds hField hOld hRemoved hBefore hAfter, ?_⟩
      rw [typeChanges_argument hKind]

theorem findsType_of_argumentChanged (hLabel : isTypeLabel target.label = true)
    (hKind : target.source.kind = .argument)
    (h : inputs.judgeArgumentTypeChanged run.final source target = .ok finding) :
    run.FindsType (.changeEdge source target) finding := by
  obtain ⟨_, hOwner, rfl⟩ | ⟨field, hOwner, c, hContainer, hFound⟩ :=
    Inputs.judgeArgumentTypeChanged_eq_ok_iff.mp h
  · exact .inr (.inr ⟨not_concernsType_of_directive (if_pos hLabel) hKind hOwner, rfl⟩)
  · have hTyped : inputs.Typed target.source field c := .argument hKind hOwner hContainer
    simp only [← Bool.not_eq_true, run.containerAdded_final_iff] at hFound
    obtain ⟨hAdds, rfl⟩ | ⟨hAdds, before, hBefore, after, hAfter, rfl⟩ := hFound
    · exact .inr (.inl ⟨.container (if_pos hLabel) hTyped hAdds, _, rfl⟩)
    · refine .inl ⟨c, c.name, _, .changed hLabel hTyped hAdds hBefore hAfter, ?_⟩
      rw [typeChanges_argument hKind]

theorem not_concernsType_of_kind (hEdge : op.typeEdge? = some edge) (hField : edge.source.kind ≠ .field)
    (hArgument : edge.source.kind ≠ .argument) : ¬ inputs.ConcernsType op := by
  rintro ⟨edge', hEdge', hKind | ⟨hKind, _⟩⟩
  · cases hEdge.symm.trans hEdge'
    exact hField hKind
  · cases hEdge.symm.trans hEdge'
    exact hArgument hKind

theorem not_concernsType_of_none (hEdge : op.typeEdge? = none) : ¬ inputs.ConcernsType op := by
  rintro ⟨edge, hEdge', _⟩
  cases hEdge.symm.trans hEdge'

theorem findsType_of_judgeTypeEdge (h : inputs.judgeTypeEdge run.final op = .ok finding) :
    run.FindsType op finding := by
  cases op with
  | insertEdge edge =>
    simp only [Inputs.judgeTypeEdge] at h
    split at h
    · rename_i hLabel
      split at h
      · rename_i hKind
        exact run.findsType_of_argumentInserted hLabel hKind h
      · rename_i hKind
        exact run.findsType_of_fieldInserted hLabel hKind h
      · rename_i hArgument hField
        cases h
        exact .inr (.inr ⟨not_concernsType_of_kind (if_pos hLabel) hField hArgument, rfl⟩)
    · rename_i hLabel
      cases h
      exact .inr (.inr ⟨not_concernsType_of_none (if_neg hLabel), rfl⟩)
  | changeEdge source target =>
    simp only [Inputs.judgeTypeEdge] at h
    split at h
    · rename_i hLabel
      split at h
      · rename_i hKind
        exact run.findsType_of_fieldChanged hLabel hKind h
      · rename_i hKind
        exact run.findsType_of_argumentChanged hLabel hKind h
      · rename_i hField hArgument
        cases h
        exact .inr (.inr ⟨not_concernsType_of_kind (if_pos hLabel) hField hArgument, rfl⟩)
    · rename_i hLabel
      cases h
      exact .inr (.inr ⟨not_concernsType_of_none (if_neg hLabel), rfl⟩)
  | insertVertex | deleteVertex | changeVertex | deleteEdge =>
    cases h
    exact .inr (.inr ⟨not_concernsType_of_none rfl, rfl⟩)

theorem FindsType.findsGiven {run : CompleteRun inputs} (h : run.FindsType op finding) :
    FindsGiven (inputs.GivesType run.report) op finding := by
  obtain hGives | ⟨hCovers, _, rfl⟩ | ⟨hConcerns, rfl⟩ := h
  · exact .inl hGives
  · exact .inr ⟨fun _ _ _ hGives => hGives.not_covered hCovers, fun _ => rfl⟩
  · exact .inr ⟨fun _ _ _ hGives => hConcerns hGives.concerns, fun _ => rfl⟩

theorem mem_details_typeEdges_iff {kind : TypeKind} {name : String} {detail : Detail} :
    (detail ∈ run.report.details kind name ∧ detail.recordedBy = .typeEdges) ↔
      ∃ op ∈ inputs.operations, ∃ c changes, inputs.GivesType run.report op c name changes ∧
        c.kind.toTypeKind = kind ∧ ∃ change ∈ changes, .member c.kind change = detail := by
  apply run.mem_details_iff .typeEdges (by decide)
  · intro op finding hJudge
    exact (run.findsType_of_judgeTypeEdge hJudge).findsGiven
  · intro op c name changes c' name' changes'
    exact Inputs.GivesType.unique

end CompleteRun

/-- Every report lists the types and defaults that the operations on type edges tell of. -/
theorem listsTypes_of_analyze (h : inputs.analyze.result = .ok report) : report.ListsTypes inputs := by
  obtain ⟨run, rfl⟩ := Inputs.analyze_eq_ok_iff.mp h
  constructor
  · intro op hOp hConcerns
    obtain ⟨finding, hJudge⟩ := run.exists_judge .typeEdges (by decide) hOp
    obtain ⟨c, name, changes, hGives, _⟩ | ⟨hCovers, _⟩ | ⟨hNot, _⟩ := run.findsType_of_judgeTypeEdge hJudge
    · exact .inr ⟨c, name, changes, hGives⟩
    · exact .inl hCovers
    · exact absurd hConcerns hNot
  · intro op c name changes hGives
    exact ⟨hGives.not_covered, fun _ _ _ => hGives.unique⟩
  · intro kind name
    apply run.files_inOrder .typeEdges (by decide)
    · intro op finding hJudge
      exact (run.findsType_of_judgeTypeEdge hJudge).findsGiven
    · intro op c name changes c' name' changes'
      exact Inputs.GivesType.unique

end

theorem listsTypes_of_analyze_sample :
    Sample.inputs.analyze.result = .ok Sample.report ∧ Sample.report.ListsTypes Sample.inputs :=
  ⟨Sample.analyze_eq, listsTypes_of_analyze Sample.analyze_eq⟩

end SchemaChange
