import SchemaChange.Proofs.Recorded

/-! # Details of fields and arguments

The details that tell of renamed, added and removed fields and of removed arguments are those that the operations give
when the list is gone through once. Each such operation gives one detail to one record, unless the type that holds the
field was added or removed as a whole.
-/
namespace SchemaChange

/-- The operations that tell of a member: a field gets another name, comes in or goes, or an argument goes whose field
is still there. -/
def Inputs.ConcernsField (inputs : Inputs) : EditOperation → Prop
  | .changeVertex source target => target.kind = .field ∧ source.name ≠ target.name
  | .insertVertex v => v.kind = .field
  | .deleteVertex v => v.kind = .field ∨ (v.kind = .argument ∧ ∃ owner newField,
      inputs.oldGraph.argumentOwner v = .ok (.field owner) ∧ inputs.matching.target? owner = some newField)
  | _ => False

/-- What an operation tells: the object or interface that holds the field, the change of that type which would cover it,
the name in whose record it is filed, and the detail. A member of the new graph is filed under the name of its
container, a member of the old graph under the name that its container has now. -/
inductive Inputs.TellsOfField (inputs : Inputs) : EditOperation → Container → Change → String → MemberChange → Prop
  | renamed {source target : Vertex} {c : Container} :
    target.kind = .field → source.name ≠ target.name → inputs.newGraph.containerOf target = .ok c →
    TellsOfField inputs (.changeVertex source target) c .added c.name (.fieldRenamed source.name target.name)
  | added {field : Vertex} {c : Container} : field.kind = .field → inputs.newGraph.containerOf field = .ok c →
    TellsOfField inputs (.insertVertex field) c .added c.name (.fieldAdded field.name)
  | removed {field : Vertex} {c : Container} : field.kind = .field → inputs.oldGraph.containerOf field = .ok c →
    TellsOfField inputs (.deleteVertex field) c .removed (inputs.matching.currentName c.vertex)
      (.fieldRemoved field.name)
  | argumentRemoved {argument owner newField : Vertex} {c : Container} : argument.kind = .argument →
    inputs.oldGraph.argumentOwner argument = .ok (.field owner) → inputs.matching.target? owner = some newField →
    inputs.oldGraph.containerOf owner = .ok c →
    TellsOfField inputs (.deleteVertex argument) c .removed (inputs.matching.currentName c.vertex)
      (.argumentRemoved newField.name argument.name)

/-- The changes that operations give by what they tell of members: one each, unless the container's record covers it. -/
def GivesUnlessCovered (Tells : EditOperation → Container → Change → String → MemberChange → Prop) (report : Report)
    (op : EditOperation) (c : Container) (name : String) (changes : List MemberChange) : Prop :=
  ∃ cover change, Tells op c cover name change ∧ report.change? c.kind.toTypeKind c.name ≠ some cover ∧
    changes = [change]

/-- The changes that an operation gives to the record of the type that holds a field. -/
def Inputs.GivesField (inputs : Inputs) (report : Report) :
    EditOperation → Container → String → List MemberChange → Prop :=
  GivesUnlessCovered inputs.TellsOfField report

/-- The records of a report list what the operations tell of fields and of removed arguments. -/
structure Report.ListsFields (report : Report) (inputs : Inputs) : Prop where
  /-- Every operation concerned tells something, and one thing only. -/
  tells : ∀ op ∈ inputs.operations, inputs.ConcernsField op → ∃ c cover name change,
    inputs.TellsOfField op c cover name change ∧ ∀ c' cover' name' change',
      inputs.TellsOfField op c' cover' name' change' → c' = c ∧ cover' = cover ∧ name' = name ∧ change' = change
  /-- A record has what the operations give to it, once each and in their order. -/
  inOrder : ∀ kind name, GivenInOrder (Files (inputs.GivesField report) kind name) inputs.operations
    ((report.details kind name).filter (·.recordedBy = .fieldVertices))
  /-- These details come before all others of the record. -/
  first : ∀ kind name, report.details kind name =
    (report.details kind name).filter (·.recordedBy = .fieldVertices) ++
      (report.details kind name).filter (·.recordedBy ≠ .fieldVertices)

section

variable {inputs : Inputs} {report : Report} {op : EditOperation}

theorem Inputs.TellsOfField.unique {c c' : Container} {cover cover' : Change} {name name' : String}
    {change change' : MemberChange} (h : inputs.TellsOfField op c cover name change)
    (h' : inputs.TellsOfField op c' cover' name' change') :
    c' = c ∧ cover' = cover ∧ name' = name ∧ change' = change := by
  cases h with
  | renamed _ _ hContainer =>
    cases h' with
    | renamed _ _ hContainer' =>
      cases hContainer.symm.trans hContainer'
      exact ⟨rfl, rfl, rfl, rfl⟩
  | added _ hContainer =>
    cases h' with
    | added _ hContainer' =>
      cases hContainer.symm.trans hContainer'
      exact ⟨rfl, rfl, rfl, rfl⟩
  | removed hKind hContainer =>
    cases h' with
    | removed _ hContainer' =>
      cases hContainer.symm.trans hContainer'
      exact ⟨rfl, rfl, rfl, rfl⟩
    | argumentRemoved hKind' => cases hKind.symm.trans hKind'
  | argumentRemoved hKind hOwner hTarget hContainer =>
    cases h' with
    | removed hKind' => cases hKind.symm.trans hKind'
    | argumentRemoved _ hOwner' hTarget' hContainer' =>
      cases hOwner.symm.trans hOwner'
      cases hTarget.symm.trans hTarget'
      cases hContainer.symm.trans hContainer'
      exact ⟨rfl, rfl, rfl, rfl⟩

theorem Inputs.TellsOfField.concerns {c : Container} {cover : Change} {name : String} {change : MemberChange}
    (h : inputs.TellsOfField op c cover name change) : inputs.ConcernsField op := by
  cases h with
  | renamed hKind hName => exact ⟨hKind, hName⟩
  | added hKind => exact hKind
  | removed hKind => exact .inl hKind
  | argumentRemoved hKind hOwner hTarget => exact .inr ⟨hKind, _, _, hOwner, hTarget⟩

/-- A finding about a member: a skip if the container's record covers it, else its detail. -/
def FiledUnlessCovered (ledgers : Ledgers) (c : Container) (cover : Change) (name : String) (change : MemberChange)
    (finding : Finding) : Prop :=
  ((ledgers.get c.kind.toTypeKind).change? c.name = some cover ∧ ∃ reason, finding = .skipped reason) ∨
  ((ledgers.get c.kind.toTypeKind).change? c.name ≠ some cover ∧ finding = .members c name [change])

theorem filedUnlessCovered_added {ledgers : Ledgers} {c : Container} {name : String} {change : MemberChange}
    {reason : SkipReason} : FiledUnlessCovered ledgers c .added name change
      (if ledgers.containerAdded c then .skipped reason else .members c name [change]) := by
  by_cases hAdded : (ledgers.get c.kind.toTypeKind).change? c.name = some .added
  · exact .inl ⟨hAdded, reason, if_pos (Ledger.wasAdded_iff.mpr hAdded)⟩
  · exact .inr ⟨hAdded, if_neg (fun h => hAdded (Ledger.wasAdded_iff.mp h))⟩

theorem filedUnlessCovered_removed {ledgers : Ledgers} {c : Container} {name : String} {change : MemberChange}
    {reason : SkipReason} : FiledUnlessCovered ledgers c .removed name change
      (if ledgers.containerRemoved c then .skipped reason else .members c name [change]) := by
  by_cases hRemoved : (ledgers.get c.kind.toTypeKind).change? c.name = some .removed
  · exact .inl ⟨hRemoved, reason, if_pos (Ledger.wasRemoved_iff.mpr hRemoved)⟩
  · exact .inr ⟨hRemoved, if_neg (fun h => hRemoved (Ledger.wasRemoved_iff.mp h))⟩

/-- What the second pass finds about an operation: what the operation tells, unless covered, or nothing to record. -/
theorem tells_of_judgeFieldVertex {ledgers : Ledgers} {finding : Finding}
    (h : inputs.judgeFieldVertex ledgers op = .ok finding) :
    (∃ c cover name change, inputs.TellsOfField op c cover name change ∧
      FiledUnlessCovered ledgers c cover name change finding) ∨
    (¬ inputs.ConcernsField op ∧ ∀ kind, finding.journal kind = []) := by
  cases op with
  | changeVertex source target =>
    simp only [Inputs.judgeFieldVertex] at h
    split at h
    · rename_i hKind
      by_cases hName : source.name = target.name
      · rw [Inputs.judgeFieldChanged, if_pos hName] at h
        cases h
        exact .inr ⟨fun hConcerns => hConcerns.2 hName, fun _ => rfl⟩
      · obtain ⟨c, hContainer, rfl⟩ := (Inputs.judgeFieldChanged_eq_ok_iff hName).mp h
        exact .inl ⟨_, _, _, _, .renamed hKind hName hContainer, filedUnlessCovered_added⟩
    · rename_i hKind
      cases h
      exact .inr ⟨fun hConcerns => hKind hConcerns.1, fun _ => rfl⟩
  | insertVertex v =>
    simp only [Inputs.judgeFieldVertex] at h
    split at h
    · rename_i hKind
      obtain ⟨c, hContainer, rfl⟩ := Inputs.judgeFieldAdded_eq_ok_iff.mp h
      exact .inl ⟨_, _, _, _, .added hKind hContainer, filedUnlessCovered_added⟩
    · rename_i hKind
      cases h
      exact .inr ⟨hKind, fun _ => rfl⟩
  | deleteVertex v =>
    simp only [Inputs.judgeFieldVertex] at h
    split at h
    · rename_i hKind
      obtain ⟨c, hContainer, rfl⟩ := Inputs.judgeFieldRemoved_eq_ok_iff.mp h
      exact .inl ⟨_, _, _, _, .removed hKind hContainer, filedUnlessCovered_removed⟩
    · rename_i hKind
      obtain ⟨_, hOwner, rfl⟩ | ⟨owner, hOwner, ⟨hTarget, rfl⟩ | ⟨newField, hTarget, c, hContainer, rfl⟩⟩ :=
        Inputs.judgeArgumentRemoved_eq_ok_iff.mp h
      · refine .inr ⟨?_, fun _ => rfl⟩
        rintro (hField | ⟨_, _, _, hOwner', _⟩)
        · cases hKind.symm.trans hField
        · cases hOwner.symm.trans hOwner'
      · refine .inr ⟨?_, fun _ => rfl⟩
        rintro (hField | ⟨_, _, _, hOwner', hTarget'⟩)
        · cases hKind.symm.trans hField
        · cases hOwner.symm.trans hOwner'
          cases hTarget.symm.trans hTarget'
      · exact .inl ⟨_, _, _, _, .argumentRemoved hKind hOwner hTarget hContainer, filedUnlessCovered_removed⟩
    · rename_i hField hArgument
      cases h
      refine .inr ⟨?_, fun _ => rfl⟩
      rintro (hKind | ⟨hKind, _⟩)
      · exact hField hKind
      · exact hArgument hKind
  | insertEdge | deleteEdge | changeEdge =>
    cases h
    exact .inr ⟨id, fun _ => rfl⟩

namespace CompleteRun

theorem exists_tellsOfField (run : CompleteRun inputs) (hOp : op ∈ inputs.operations) (hConcerns : inputs.ConcernsField op) :
    ∃ c cover name change, inputs.TellsOfField op c cover name change := by
  obtain ⟨finding, hJudge⟩ := run.exists_judge .fieldVertices (by decide) hOp
  obtain ⟨c, cover, name, change, hTells, _⟩ | ⟨hNot, _⟩ := tells_of_judgeFieldVertex hJudge
  · exact ⟨c, cover, name, change, hTells⟩
  · exact absurd hConcerns hNot

theorem findsGiven_of_filed (run : CompleteRun inputs)
    {Tells : EditOperation → Container → Change → String → MemberChange → Prop}
    (hUnique : ∀ {c cover name change c' cover' name' change'}, Tells op c cover name change →
      Tells op c' cover' name' change' → c' = c ∧ cover' = cover ∧ name' = name ∧ change' = change)
    {c : Container} {cover : Change} {name : String} {change : MemberChange} {finding : Finding}
    (hTells : Tells op c cover name change) (hFiled : FiledUnlessCovered run.final c cover name change finding) :
    FindsGiven (GivesUnlessCovered Tells run.report) op finding := by
  obtain ⟨hCovered, reason, rfl⟩ | ⟨hOpen, rfl⟩ := hFiled
  · refine .inr ⟨?_, fun kind => rfl⟩
    rintro c' name' changes ⟨cover', change', hTells', hOpen, _⟩
    obtain ⟨rfl, rfl, _⟩ := hUnique hTells hTells'
    rw [report, Ledgers.change?_toReport] at hOpen
    exact hOpen hCovered
  · refine .inl ⟨c, name, [change], ⟨cover, change, hTells, ?_, rfl⟩, rfl⟩
    rwa [report, Ledgers.change?_toReport]

theorem findsGiven_of_judgeFieldVertex (run : CompleteRun inputs) {finding : Finding}
    (h : inputs.judgeFieldVertex run.final op = .ok finding) :
    FindsGiven (inputs.GivesField run.report) op finding := by
  obtain ⟨c, cover, name, change, hTells, hFiled⟩ | ⟨hNot, hJournal⟩ := tells_of_judgeFieldVertex h
  · exact run.findsGiven_of_filed Inputs.TellsOfField.unique hTells hFiled
  · refine .inr ⟨?_, hJournal⟩
    rintro c name changes ⟨cover, change, hTells, _⟩
    exact hNot hTells.concerns

theorem mem_details_fieldVertices_iff (run : CompleteRun inputs) {kind : TypeKind} {name : String} {detail : Detail} :
    (detail ∈ run.report.details kind name ∧ detail.recordedBy = .fieldVertices) ↔
      ∃ op ∈ inputs.operations, ∃ c changes, inputs.GivesField run.report op c name changes ∧
        c.kind.toTypeKind = kind ∧ ∃ change ∈ changes, .member c.kind change = detail := by
  apply run.mem_details_iff .fieldVertices (by decide) fun _ _ => run.findsGiven_of_judgeFieldVertex
  rintro op c name changes c' name' changes' ⟨_, _, hTells, _, rfl⟩ ⟨_, _, hTells', _, rfl⟩
  obtain ⟨rfl, _, rfl, rfl⟩ := hTells.unique hTells'
  exact ⟨rfl, rfl, rfl⟩

end CompleteRun

/-- Every report lists the field vertices and removed arguments that the operations tell of. -/
theorem listsFields_of_analyze (h : inputs.analyze.result = .ok report) : report.ListsFields inputs := by
  obtain ⟨run, rfl⟩ := Inputs.analyze_eq_ok_iff.mp h
  constructor
  · intro op hOp hConcerns
    obtain ⟨c, cover, name, change, hTells⟩ := run.exists_tellsOfField hOp hConcerns
    exact ⟨c, cover, name, change, hTells, fun _ _ _ _ => hTells.unique⟩
  · intro kind name
    apply run.files_inOrder .fieldVertices (by decide) fun _ _ => run.findsGiven_of_judgeFieldVertex
    rintro op c name changes c' name' changes' ⟨_, _, hTells, _, rfl⟩ ⟨_, _, hTells', _, rfl⟩
    obtain ⟨rfl, _, rfl, rfl⟩ := hTells.unique hTells'
    exact ⟨rfl, rfl, rfl⟩
  · intro kind name
    exact run.details_fieldVertices_first kind name

end

theorem listsFields_of_analyze_sample :
    Sample.inputs.analyze.result = .ok Sample.report ∧ Sample.report.ListsFields Sample.inputs :=
  ⟨Sample.analyze_eq, listsFields_of_analyze Sample.analyze_eq⟩

end SchemaChange
