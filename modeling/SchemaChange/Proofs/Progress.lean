import SchemaChange.Proofs.FaithfulEdits

/-! # The analysis of faithful edits gets to its end

The first pass settles which types come and go. From then on every look-up that the passes make succeeds and every name
that they record details for takes them, so that the analysis stops at nothing but a name asked for twice.
-/
namespace SchemaChange

/-- What the later passes rely on: a type of either graph that is not recorded as added or removed as a whole has a name
in the new graph for which details may be recorded. -/
structure Inputs.Settled (inputs : Inputs) (ledgers : Ledgers) : Prop where
  new : ∀ v ∈ inputs.newGraph.vertices, ∀ kind, v.kind = .type kind → kind ≠ .scalar →
    (ledgers.get kind).change? v.name ≠ some .added → (ledgers.get kind).Open v.name
  old : ∀ v ∈ inputs.oldGraph.vertices, ∀ kind, v.kind = .type kind →
    (ledgers.get kind).change? v.name ≠ some .removed → (ledgers.get kind).Open (inputs.matching.currentName v)

/-- The ledgers hold the addition of every new field whose container was not added as a whole. -/
def Inputs.RecordsNewFields (inputs : Inputs) (ledgers : Ledgers) : Prop :=
  ∀ field c, .insertVertex field ∈ inputs.operations → inputs.newGraph.containerOf field = .ok c →
    ledgers.containerAdded c = false → ledgers.fieldAdded c field.name = true

section

variable {inputs : Inputs} {ledgers before after : Ledgers} {kind : TypeKind} {op : EditOperation}

namespace Inputs

theorem Settled.of_records (h : inputs.Settled before)
    (hRecords : ∀ kind, ∃ journal, (before.get kind).Records journal (after.get kind)) : inputs.Settled after where
  new v hv kind hKind hScalar hNot := by
    obtain ⟨journal, hJournal⟩ := hRecords kind
    rw [ne_eq, hJournal.change?_eq_added_iff] at hNot
    rw [hJournal.open_iff]
    exact h.new v hv kind hKind hScalar hNot
  old v hv kind hKind hNot := by
    obtain ⟨journal, hJournal⟩ := hRecords kind
    rw [ne_eq, hJournal.change?_eq_removed_iff] at hNot
    rw [hJournal.open_iff]
    exact h.old v hv kind hKind hNot

theorem Faithful.settled (h : inputs.Faithful)
    (hSeeds : ∀ kind name change, (ledgers.get kind).change? name = some change ↔
      (name, change) ∈ seeds kind inputs.operations) : inputs.Settled ledgers where
  new v hv kind hKind hScalar hNot := by
    cases hSource : inputs.matching.source? v with
    | none =>
      have hInserted := (h.inserted v hv).mpr hSource
      refine absurd ((hSeeds _ _ _).mpr (mem_seeds_added_iff.mpr ⟨v, hInserted, hKind, rfl, ?_⟩)) hNot
      exact fun hBuiltIn => hScalar hBuiltIn.1
    | some source => exact h.open_of_pair (hSeeds kind) (Matching.source?_eq_some_iff.mp hSource) hKind
  old v hv kind hKind hNot := by
    cases hTarget : inputs.matching.target? v with
    | none =>
      have hDeleted := (h.deleted v hv).mpr hTarget
      exact absurd ((hSeeds _ _ _).mpr (mem_seeds_removed_iff.mpr ⟨v, hDeleted, hKind, rfl⟩)) hNot
    | some target =>
      have hPair := Matching.target?_eq_some_iff.mp hTarget
      rw [Matching.currentName_of_target? hTarget]
      exact h.open_of_pair (hSeeds kind) hPair ((h.pairs _ hPair).2.2.symm.trans hKind)

theorem takes_members {c : Container} {name : String} {changes : List MemberChange}
    (h : (ledgers.get c.kind.toTypeKind).Open name) : ledgers.Takes (.members c name changes) := by
  cases changes with
  | nil => trivial
  | cons => exact h

theorem Settled.open_name (h : inputs.Settled ledgers) {c : Container} (hc : c.vertex ∈ inputs.newGraph)
    (hNot : ledgers.containerAdded c = false) : (ledgers.get c.kind.toTypeKind).Open c.name := by
  refine h.new c.vertex hc _ c.kind_eq (by cases c.kind <;> decide) fun hAdded => ?_
  rw [Ledgers.containerAdded, Container.name, Ledger.wasAdded_iff.mpr hAdded] at hNot
  cases hNot

theorem Settled.open_currentName (h : inputs.Settled ledgers) {c : Container} (hc : c.vertex ∈ inputs.oldGraph)
    (hNot : ledgers.containerRemoved c = false) :
    (ledgers.get c.kind.toTypeKind).Open (inputs.matching.currentName c.vertex) := by
  refine h.old c.vertex hc _ c.kind_eq fun hRemoved => ?_
  rw [Ledgers.containerRemoved, Container.name, Ledger.wasRemoved_iff.mpr hRemoved] at hNot
  cases hNot

theorem Settled.takes_unless_added (h : inputs.Settled ledgers) {c : Container} (hc : c.vertex ∈ inputs.newGraph)
    {reason : SkipReason} {changes : List MemberChange} :
    ledgers.Takes (if ledgers.containerAdded c then .skipped reason else .members c c.name changes) := by
  cases hAdded : ledgers.containerAdded c with
  | true => trivial
  | false => exact takes_members (h.open_name hc hAdded)

theorem Settled.takes_unless_removed (h : inputs.Settled ledgers) {c : Container} (hc : c.vertex ∈ inputs.oldGraph)
    {reason : SkipReason} {changes : List MemberChange} :
    ledgers.Takes (if ledgers.containerRemoved c then .skipped reason
      else .members c (inputs.matching.currentName c.vertex) changes) := by
  cases hRemoved : ledgers.containerRemoved c with
  | true => trivial
  | false => exact takes_members (h.open_currentName hc hRemoved)

namespace Faithful

theorem takes_fieldVertex (h : inputs.Faithful) (hSettled : inputs.Settled ledgers) (hOp : op ∈ inputs.operations) :
    ∃ finding, inputs.judgeFieldVertex ledgers op = .ok finding ∧ ledgers.Takes finding := by
  have hAdmits := h.admits op hOp
  cases op with
  | changeVertex source target =>
    simp only [judgeFieldVertex]
    split
    · rename_i hKind
      by_cases hName : source.name = target.name
      · exact ⟨.nothing, if_pos hName, trivial⟩
      · obtain ⟨c, hc⟩ := h.new_schema.exists_containerOf (h.pairs _ hAdmits).2.1 hKind
        exact ⟨_, (judgeFieldChanged_eq_ok_iff hName).mpr ⟨c, hc, rfl⟩,
          hSettled.takes_unless_added (SchemaGraph.source_mem_of_containerOf hc)⟩
    · exact ⟨_, rfl, trivial⟩
  | insertVertex v =>
    simp only [judgeFieldVertex]
    split
    · rename_i hKind
      obtain ⟨c, hc⟩ := h.new_schema.exists_containerOf hAdmits hKind
      exact ⟨_, judgeFieldAdded_eq_ok_iff.mpr ⟨c, hc, rfl⟩,
        hSettled.takes_unless_added (SchemaGraph.source_mem_of_containerOf hc)⟩
    · exact ⟨_, rfl, trivial⟩
  | deleteVertex v =>
    simp only [judgeFieldVertex]
    split
    · rename_i hKind
      obtain ⟨c, hc⟩ := h.old_schema.exists_containerOf hAdmits hKind
      exact ⟨_, judgeFieldRemoved_eq_ok_iff.mpr ⟨c, hc, rfl⟩,
        hSettled.takes_unless_removed (SchemaGraph.source_mem_of_containerOf hc)⟩
    · rename_i hKind
      obtain ⟨owner, hOwner⟩ := h.old_schema.exists_argumentOwner hAdmits hKind
      cases owner with
      | directive v =>
        exact ⟨.nothing, judgeArgumentRemoved_eq_ok_iff.mpr (.inl ⟨v, hOwner, rfl⟩), trivial⟩
      | field field =>
        obtain ⟨hField, hFieldKind⟩ := SchemaGraph.mem_and_kind_of_argumentOwner hOwner
        cases hTarget : inputs.matching.target? field with
        | none =>
          exact ⟨_, judgeArgumentRemoved_eq_ok_iff.mpr (.inr ⟨field, hOwner, .inl ⟨hTarget, rfl⟩⟩), trivial⟩
        | some newField =>
          obtain ⟨c, hc⟩ := h.old_schema.exists_containerOf hField hFieldKind
          exact ⟨_, judgeArgumentRemoved_eq_ok_iff.mpr (.inr ⟨field, hOwner, .inr ⟨newField, hTarget, c, hc, rfl⟩⟩),
            hSettled.takes_unless_removed (SchemaGraph.source_mem_of_containerOf hc)⟩
    · exact ⟨_, rfl, trivial⟩
  | insertEdge | deleteEdge | changeEdge => exact ⟨.nothing, rfl, trivial⟩

theorem takes_fieldTypeInserted (h : inputs.Faithful) (hSettled : inputs.Settled ledgers)
    (hFields : inputs.RecordsNewFields ledgers) {e : Edge} (hOp : .insertEdge e ∈ inputs.operations)
    (hLabel : isTypeLabel e.label = true) (hKind : e.source.kind = .field) :
    ∃ finding, inputs.judgeFieldTypeInserted ledgers e (.insertEdge e) = .ok finding ∧ ledgers.Takes finding := by
  have hSource := (inputs.newGraph.ends_mem e (h.admits _ hOp)).1
  obtain ⟨c, hc⟩ := h.new_schema.exists_containerOf hSource hKind
  simp only [judgeFieldTypeInserted_eq_ok_iff]
  cases hAdded : ledgers.containerAdded c with
  | true => exact ⟨_, ⟨c, hc, .inl ⟨hAdded, rfl⟩⟩, trivial⟩
  | false =>
    cases hField : ledgers.fieldAdded c e.source.name with
    | true => exact ⟨_, ⟨c, hc, .inr ⟨hAdded, .inl ⟨hField, rfl⟩⟩⟩, trivial⟩
    | false =>
      cases hOld : inputs.matching.source? e.source with
      -- A new field is recorded as added, which the test before has ruled out.
      | none =>
        have hInserted := hFields e.source c ((h.inserted _ hSource).mpr hOld) hc hAdded
        cases hField.symm.trans hInserted
      | some old =>
        obtain ⟨removed, hPaired, ⟨before, hBefore⟩, after, hAfter⟩ :=
          h.exists_pairedLabels (.insertEdge e) hOp hLabel hOld
        exact ⟨_, ⟨c, hc, .inr ⟨hAdded, .inr ⟨hField, after, hAfter, removed, hPaired, before, hBefore, rfl⟩⟩⟩,
          takes_members (hSettled.open_name (SchemaGraph.source_mem_of_containerOf hc) hAdded)⟩

theorem takes_fieldTypeChanged (h : inputs.Faithful) (hSettled : inputs.Settled ledgers) {source target : Edge}
    (hOp : .changeEdge source target ∈ inputs.operations) (hLabel : isTypeLabel target.label = true)
    (hKind : target.source.kind = .field) :
    ∃ finding, inputs.judgeFieldTypeChanged ledgers source target = .ok finding ∧ ledgers.Takes finding := by
  obtain ⟨c, hc⟩ := h.new_schema.exists_containerOf (inputs.newGraph.ends_mem target (h.admits _ hOp).2.1).1 hKind
  simp only [judgeFieldTypeChanged_eq_ok_iff]
  cases hAdded : ledgers.containerAdded c with
  | true => exact ⟨_, ⟨c, hc, .inl ⟨hAdded, rfl⟩⟩, trivial⟩
  | false =>
    obtain ⟨⟨before, hBefore⟩, after, hAfter⟩ := h.exists_changedLabels hOp hLabel
    exact ⟨_, ⟨c, hc, .inr ⟨hAdded, before, hBefore, after, hAfter, rfl⟩⟩,
      takes_members (hSettled.open_name (SchemaGraph.source_mem_of_containerOf hc) hAdded)⟩

theorem takes_argumentTypeInserted (h : inputs.Faithful) (hSettled : inputs.Settled ledgers) {e : Edge}
    (hOp : .insertEdge e ∈ inputs.operations) (hLabel : isTypeLabel e.label = true)
    (hKind : e.source.kind = .argument) :
    ∃ finding, inputs.judgeArgumentTypeInserted ledgers e (.insertEdge e) = .ok finding ∧ ledgers.Takes finding := by
  simp only [judgeArgumentTypeInserted_eq_ok_iff]
  obtain ⟨owner, hOwner⟩ :=
    h.new_schema.exists_argumentOwner (inputs.newGraph.ends_mem e (h.admits _ hOp)).1 hKind
  cases owner with
  | directive v => exact ⟨_, .inl ⟨v, hOwner, rfl⟩, trivial⟩
  | field field =>
    obtain ⟨hField, hFieldKind⟩ := SchemaGraph.mem_and_kind_of_argumentOwner hOwner
    obtain ⟨c, hc⟩ := h.new_schema.exists_containerOf hField hFieldKind
    cases hAdded : ledgers.containerAdded c with
    | true => exact ⟨_, .inr ⟨field, hOwner, c, hc, .inl ⟨hAdded, rfl⟩⟩, trivial⟩
    | false =>
      cases hNew : ledgers.fieldAdded c field.name with
      | true => exact ⟨_, .inr ⟨field, hOwner, c, hc, .inr ⟨hAdded, .inl ⟨hNew, rfl⟩⟩⟩, trivial⟩
      | false =>
        cases hOld : inputs.matching.source? e.source with
        | none => exact ⟨_, .inr ⟨field, hOwner, c, hc, .inr ⟨hAdded, .inr ⟨hNew, .inl ⟨rfl, rfl⟩⟩⟩⟩, trivial⟩
        | some old =>
          obtain ⟨removed, hPaired, ⟨before, hBefore⟩, after, hAfter⟩ :=
            h.exists_pairedLabels (.insertEdge e) hOp hLabel hOld
          exact ⟨_, .inr ⟨field, hOwner, c, hc, .inr ⟨hAdded, .inr ⟨hNew, .inr ⟨rfl, removed, hPaired, before, hBefore,
            after, hAfter, rfl⟩⟩⟩⟩,
            takes_members (hSettled.open_name (SchemaGraph.source_mem_of_containerOf hc) hAdded)⟩

theorem takes_argumentTypeChanged (h : inputs.Faithful) (hSettled : inputs.Settled ledgers) {source target : Edge}
    (hOp : .changeEdge source target ∈ inputs.operations) (hLabel : isTypeLabel target.label = true)
    (hKind : target.source.kind = .argument) :
    ∃ finding, inputs.judgeArgumentTypeChanged ledgers source target = .ok finding ∧ ledgers.Takes finding := by
  simp only [judgeArgumentTypeChanged_eq_ok_iff]
  obtain ⟨owner, hOwner⟩ :=
    h.new_schema.exists_argumentOwner (inputs.newGraph.ends_mem target (h.admits _ hOp).2.1).1 hKind
  cases owner with
  | directive v => exact ⟨_, .inl ⟨v, hOwner, rfl⟩, trivial⟩
  | field field =>
    obtain ⟨hField, hFieldKind⟩ := SchemaGraph.mem_and_kind_of_argumentOwner hOwner
    obtain ⟨c, hc⟩ := h.new_schema.exists_containerOf hField hFieldKind
    cases hAdded : ledgers.containerAdded c with
    | true => exact ⟨_, .inr ⟨field, hOwner, c, hc, .inl ⟨hAdded, rfl⟩⟩, trivial⟩
    | false =>
      obtain ⟨⟨before, hBefore⟩, after, hAfter⟩ := h.exists_changedLabels hOp hLabel
      exact ⟨_, .inr ⟨field, hOwner, c, hc, .inr ⟨hAdded, before, hBefore, after, hAfter, rfl⟩⟩,
        takes_members (hSettled.open_name (SchemaGraph.source_mem_of_containerOf hc) hAdded)⟩

theorem takes_typeEdge (h : inputs.Faithful) (hSettled : inputs.Settled ledgers)
    (hFields : inputs.RecordsNewFields ledgers) (hOp : op ∈ inputs.operations) :
    ∃ finding, inputs.judgeTypeEdge ledgers op = .ok finding ∧ ledgers.Takes finding := by
  cases op with
  | insertEdge e =>
    simp only [judgeTypeEdge]
    split
    · rename_i hLabel
      split
      · rename_i hKind
        exact h.takes_argumentTypeInserted hSettled hOp hLabel hKind
      · rename_i hKind
        exact h.takes_fieldTypeInserted hSettled hFields hOp hLabel hKind
      · exact ⟨_, rfl, trivial⟩
    · exact ⟨_, rfl, trivial⟩
  | changeEdge source target =>
    simp only [judgeTypeEdge]
    split
    · rename_i hLabel
      split
      · rename_i hKind
        exact h.takes_fieldTypeChanged hSettled hOp hLabel hKind
      · rename_i hKind
        exact h.takes_argumentTypeChanged hSettled hOp hLabel hKind
      · exact ⟨_, rfl, trivial⟩
    · exact ⟨_, rfl, trivial⟩
  | insertVertex | deleteVertex | changeVertex | deleteEdge => exact ⟨.nothing, rfl, trivial⟩

theorem takes_implementsEdge (h : inputs.Faithful) (hSettled : inputs.Settled ledgers) (hOp : op ∈ inputs.operations) :
    ∃ finding, inputs.judgeImplementsEdge ledgers op = .ok finding ∧ ledgers.Takes finding := by
  have hAdmits := h.admits op hOp
  cases op with
  | insertEdge e =>
    by_cases hLabel : isImplementsLabel e.label = true
    · obtain ⟨c, hc⟩ := Option.isSome_iff_exists.mp
        (Container.isSome_ofVertex?_iff.mpr (h.new_schema.implementer e hAdmits hLabel))
      have hMem : c.vertex ∈ inputs.newGraph := by
        rw [Container.ofVertex?_eq_some_iff.mp hc]
        exact (inputs.newGraph.ends_mem e hAdmits).1
      exact ⟨_, (judgeImplementsInserted_eq_ok_iff hLabel).mpr ⟨c, hc, rfl⟩, hSettled.takes_unless_added hMem⟩
    · exact ⟨.nothing, if_neg hLabel, trivial⟩
  | deleteEdge e =>
    by_cases hLabel : isImplementsLabel e.label = true
    · obtain ⟨c, hc⟩ := Option.isSome_iff_exists.mp
        (Container.isSome_ofVertex?_iff.mpr (h.old_schema.implementer e hAdmits hLabel))
      have hMem : c.vertex ∈ inputs.oldGraph := by
        rw [Container.ofVertex?_eq_some_iff.mp hc]
        exact (inputs.oldGraph.ends_mem e hAdmits).1
      exact ⟨_, (judgeImplementsDeleted_eq_ok_iff hLabel).mpr ⟨c, hc, rfl⟩, hSettled.takes_unless_removed hMem⟩
    · exact ⟨.nothing, if_neg hLabel, trivial⟩
  | insertVertex | deleteVertex | changeVertex | changeEdge => exact ⟨.nothing, rfl, trivial⟩

theorem takes_unionMember (h : inputs.Faithful) (hSettled : inputs.Settled ledgers) (hOp : op ∈ inputs.operations) :
    ∃ finding, inputs.judgeUnionMember ledgers op = .ok finding ∧ ledgers.Takes finding := by
  have hAdmits := h.admits op hOp
  cases op with
  | insertEdge e =>
    simp only [judgeUnionMember]
    split
    · rename_i hKind
      split
      · exact ⟨_, rfl, trivial⟩
      · rename_i hNot
        refine ⟨_, rfl, hSettled.new e.source (inputs.newGraph.ends_mem e hAdmits).1 .union hKind (by decide) ?_⟩
        exact fun hAdded => hNot (Ledger.wasAdded_iff.mpr hAdded)
    · exact ⟨_, rfl, trivial⟩
  | deleteEdge e =>
    simp only [judgeUnionMember]
    split
    · rename_i hKind
      split
      · exact ⟨_, rfl, trivial⟩
      · rename_i hNot
        refine ⟨_, rfl, hSettled.old e.source (inputs.oldGraph.ends_mem e hAdmits).1 .union hKind ?_⟩
        exact fun hRemoved => hNot (Ledger.wasRemoved_iff.mpr hRemoved)
    · exact ⟨_, rfl, trivial⟩
  | insertVertex | deleteVertex | changeVertex | changeEdge => exact ⟨.nothing, rfl, trivial⟩

end Faithful

variable {pass : Pass} {found : List Finding}

theorem Settled.of_walks (h : inputs.Settled before) (hPass : pass ≠ .typeVertices)
    (hWalks : pass.Walks inputs before inputs.operations found after) : inputs.Settled after :=
  h.of_records fun kind => ⟨_, hWalks.records hPass (fun _ _ _ => Pass.fits_of_judge) kind⟩

theorem recordsNewFields_of_walks (hWalks : Pass.fieldVertices.Walks inputs before inputs.operations found after) :
    inputs.RecordsNewFields after := by
  intro field c hOp hc hNot
  have hRecords := fun kind => hWalks.records (by decide) (fun _ _ _ => Pass.fits_of_judge) kind
  have hAlike : Ledgers.Alike .fieldVertices before after := .of_records hRecords (by rintro ⟨⟩)
  have hJudge : inputs.judgeFieldVertex before (.insertVertex field) =
      .ok (.members c c.name [.fieldAdded field.name]) := by
    rw [judgeFieldVertex, if_pos (SchemaGraph.kind_of_containerOf hc), judgeFieldAdded_eq_ok_iff]
    exact ⟨c, hc, by rw [hAlike.containerAdded_eq, hNot]; rfl⟩
  -- Each finding of the walk is the one that the first ledgers give for its operation.
  have hFound : .members c c.name [.fieldAdded field.name] ∈ found := by
    have hMem := List.mem_map_of_mem (f := Pass.fieldVertices.judge inputs before) hOp
    rw [hWalks.map_judge_eq (by decide) (.refl _ before)] at hMem
    obtain ⟨finding, hFinding, hEq⟩ := List.mem_map.mp hMem
    cases hEq.trans hJudge
    exact hFinding
  rw [Ledgers.fieldAdded, List.contains_iff_mem, (hRecords _).details_eq, List.mem_append, Journal.mem_detailsOf_iff]
  exact .inr (List.mem_flatMap.mpr ⟨_, hFound, by simp⟩)

theorem Faithful.nonempty_completeRun (h : inputs.Faithful)
    (hOnce : ∀ kind, (seedNames kind inputs.operations).Nodup) : Nonempty (CompleteRun inputs) := by
  have hFresh : ∀ kind, ((Ledgers.empty.get kind).names ++ seedNames kind inputs.operations).Nodup := by
    simpa using hOnce
  obtain ⟨foundTypes, afterTypes, hTypes⟩ := exists_walks_typeVertices (fun op hOp => h.keepsTypeKind hOp) hFresh
  have hSettled := h.settled fun kind name change => change?_seeded_iff hTypes
  obtain ⟨foundFields, afterFields, hFields⟩ := Pass.exists_walks_of_takes .fieldVertices (by decide)
    fun op hOp => h.takes_fieldVertex hSettled hOp
  have hSettledFields := hSettled.of_walks (by decide) hFields
  obtain ⟨foundEdges, afterEdges, hEdges⟩ := Pass.exists_walks_of_takes .typeEdges (by decide)
    fun op hOp => h.takes_typeEdge hSettledFields (recordsNewFields_of_walks hFields) hOp
  have hSettledEdges := hSettledFields.of_walks (by decide) hEdges
  obtain ⟨foundImplements, afterImplements, hImplements⟩ := Pass.exists_walks_of_takes .implementsEdges
    (by decide) fun op hOp => h.takes_implementsEdge hSettledEdges hOp
  obtain ⟨foundUnions, afterUnions, hUnions⟩ := Pass.exists_walks_of_takes .unionMembers (by decide)
    fun op hOp => h.takes_unionMember (hSettledEdges.of_walks (by decide) hImplements) hOp
  exact ⟨.ofWalks hTypes hFields hEdges hImplements hUnions⟩

theorem Faithful.exists_report (h : inputs.Faithful) (hOnce : ∀ kind, (seedNames kind inputs.operations).Nodup) :
    ∃ report, inputs.analyze.result = .ok report := by
  obtain ⟨run⟩ := h.nonempty_completeRun hOnce
  exact ⟨_, analyze_eq_ok_iff.mpr ⟨run, rfl⟩⟩

theorem Faithful.alreadyRecorded_of_error (h : inputs.Faithful) {failure : Failure}
    (hResult : inputs.analyze.result = .error failure) : ∃ kind name existing new past op future,
      inputs.operations = past ++ op :: future ∧ (name, existing) ∈ seeds kind past ∧
      op.seed? kind = some (name, new) ∧ failure = ⟨.alreadyRecorded kind name existing new, some op⟩ := by
  cases hWalk : (Pass.typeVertices.walk inputs Ledgers.empty inputs.operations).2 with
  | error failure' =>
    cases (analyze_eq_error_of_walk hWalk).symm.trans hResult
    simpa [Ledger.empty] using alreadyRecorded_of_walk (fun op hOp => h.keepsTypeKind hOp) hWalk
  -- Once the first pass is through, the names are distinct and nothing else can fail.
  | ok seeded =>
    have hNames : ∀ kind, (seedNames kind inputs.operations).Nodup := by
      intro kind
      have hEntries := entries_of_walks (Pass.walk_eq_ok_iff.mp hWalk) kind
      rw [Ledgers.get_empty, Ledger.empty, List.nil_append] at hEntries
      rw [seedNames, ← hEntries]
      exact (seeded.get kind).names_nodup
    obtain ⟨report, hReport⟩ := h.exists_report hNames
    cases hReport.symm.trans hResult

/-- The analysis of faithful edits, in whatever order they are listed, gives a report if no two of them ask for records of
one name and kind; otherwise it stops at the second of two that do. -/
theorem analyze_of_faithful (h : inputs.Faithful) :
    ((∃ report, inputs.analyze.result = .ok report) ↔ ∀ kind, (seedNames kind inputs.operations).Nodup) ∧
    ∀ failure, inputs.analyze.result = .error failure → ∃ kind name existing new past op future,
      inputs.operations = past ++ op :: future ∧ (name, existing) ∈ seeds kind past ∧
      op.seed? kind = some (name, new) ∧ failure = ⟨.alreadyRecorded kind name existing new, some op⟩ := by
  refine ⟨⟨?_, h.exists_report⟩, fun _ => h.alreadyRecorded_of_error⟩
  rintro ⟨report, hReport⟩ kind
  obtain ⟨run, _⟩ := analyze_eq_ok_iff.mp hReport
  rw [← run.names_seeded]
  exact Ledger.nodup_names _

end Inputs

end

theorem analyze_of_faithful_sample :
    Sample.inputs.Faithful ∧ ∃ report, Sample.inputs.analyze.result = .ok report := by
  refine ⟨Sample.faithful, (Inputs.analyze_of_faithful Sample.faithful).1.mpr fun kind => ?_⟩
  cases kind <;> decide +kernel

end SchemaChange
