import SchemaChange.Proofs.RenamedGraphs
import SchemaChange.Proofs.Recorded

/-! # Vertex ids are only handles

A pass finds the same about a renamed operation as about the operation itself: findings hold names and kinds, and ids
serve to find a vertex again. So a whole run over renamed inputs has the same findings and ledgers, and gives the same
report if it gives one.
-/
namespace SchemaChange

namespace Inputs.Renamed

variable {old new : String ↪ String} {inputs inputs' : Inputs} (h : inputs.Renamed old new inputs')
include h

theorem currentName_eq (v : Vertex) :
    inputs'.matching.currentName (v.renamed old) = inputs.matching.currentName v := by
  rw [Matching.currentName, Matching.currentName, h.target?_eq]
  cases inputs.matching.target? v <;> rfl

theorem removedTypeEdge?_eq (v : Vertex) : removedTypeEdge? inputs'.operations (v.renamed old) =
    (removedTypeEdge? inputs.operations v).map (·.renamed old) := by
  rw [h.operations]
  generalize inputs.operations = operations
  induction operations with
  | nil => rfl
  | cons op operations ih =>
    rw [removedTypeEdge?, removedTypeEdge?] at *
    rw [List.map_cons, List.findSome?_cons, List.findSome?_cons]
    cases op with
    | deleteEdge e =>
      have hSource : (e.renamed old).source = v.renamed old ↔ e.source = v := Vertex.renamed_inj
      by_cases hRemoved : e.source = v ∧ isTypeLabel e.label = true
      · have hRemoved' : (e.renamed old).source = v.renamed old ∧ isTypeLabel (e.renamed old).label = true :=
          ⟨hSource.mpr hRemoved.1, hRemoved.2⟩
        simp only [EditOperation.renamed, if_pos hRemoved, if_pos hRemoved', Option.map_some]
      · have hRemoved' : ¬ ((e.renamed old).source = v.renamed old ∧ isTypeLabel (e.renamed old).label = true) :=
          fun hEdge => hRemoved ⟨hSource.mp hEdge.1, hEdge.2⟩
        simp only [EditOperation.renamed, if_neg hRemoved, if_neg hRemoved']
        exact ih
    | insertVertex | deleteVertex | changeVertex | insertEdge | changeEdge => exact ih

theorem pairedTypeEdge_eq_ok_iff (v : Vertex) (op op' : EditOperation) {e' : Edge} :
    inputs'.pairedTypeEdge (v.renamed new) op' = .ok e' ↔
      ∃ e, inputs.pairedTypeEdge v op = .ok e ∧ e' = e.renamed old := by
  simp only [Inputs.pairedTypeEdge_eq_ok_iff, h.source?_eq, Option.map_eq_some_iff]
  constructor
  · rintro ⟨_, ⟨w, hw, rfl⟩, hEdge⟩
    rw [h.removedTypeEdge?_eq, Option.map_eq_some_iff] at hEdge
    obtain ⟨e, he, rfl⟩ := hEdge
    exact ⟨e, ⟨w, hw, he⟩, rfl⟩
  · rintro ⟨e, ⟨w, hw, he⟩, rfl⟩
    exact ⟨_, ⟨w, hw, rfl⟩, by rw [h.removedTypeEdge?_eq, he]; rfl⟩

theorem exists_target?_iff {P P' : Vertex → Prop} (hP : ∀ w, P' (w.renamed new) ↔ P w) (v : Vertex) :
    (∃ w', inputs'.matching.target? (v.renamed old) = some w' ∧ P' w') ↔
      ∃ w, inputs.matching.target? v = some w ∧ P w := by
  rw [h.target?_eq]
  cases inputs.matching.target? v with
  | none => simp
  | some w => simp [hP]

theorem exists_pairedTypeEdge_iff {P : String → Prop} (v : Vertex) (op op' : EditOperation) :
    (∃ e', inputs'.pairedTypeEdge (v.renamed new) op' = .ok e' ∧ P e'.label) ↔
      ∃ e, inputs.pairedTypeEdge v op = .ok e ∧ P e.label := by
  simp only [h.pairedTypeEdge_eq_ok_iff v op op']
  constructor
  · rintro ⟨_, ⟨e, he, rfl⟩, hP⟩
    exact ⟨e, he, hP⟩
  · rintro ⟨e, he, hP⟩
    exact ⟨e.renamed old, ⟨e, he, rfl⟩, hP⟩

variable {ledgers : Ledgers} {finding : Finding}

theorem judgeFieldRemoved_iff (v : Vertex) : inputs'.judgeFieldRemoved ledgers (v.renamed old) = .ok finding ↔
    inputs.judgeFieldRemoved ledgers v = .ok finding := by
  rw [judgeFieldRemoved_eq_ok_iff, judgeFieldRemoved_eq_ok_iff]
  apply h.oldGraph.exists_containerOf_iff
  intro c
  rw [Container.vertex_renamed, h.currentName_eq]
  exact .rfl

theorem judgeArgumentRemoved_iff (v : Vertex) : inputs'.judgeArgumentRemoved ledgers (v.renamed old) = .ok finding ↔
    inputs.judgeArgumentRemoved ledgers v = .ok finding := by
  rw [judgeArgumentRemoved_eq_ok_iff, judgeArgumentRemoved_eq_ok_iff]
  apply or_congr (h.oldGraph.exists_directive_iff v)
  apply h.oldGraph.exists_field_iff
  intro owner
  apply or_congr
  · rw [h.target?_eq, Option.map_eq_none_iff]
    exact .rfl
  · apply h.exists_target?_iff
    intro newField
    apply h.oldGraph.exists_containerOf_iff
    intro c
    rw [Container.vertex_renamed, h.currentName_eq]
    exact .rfl

theorem judgeFieldVertex_iff (op : EditOperation) :
    inputs'.judgeFieldVertex ledgers (op.renamed old new) = .ok finding ↔
      inputs.judgeFieldVertex ledgers op = .ok finding := by
  cases op with
  | changeVertex source target =>
    rw [EditOperation.renamed, judgeFieldVertex, judgeFieldVertex, Vertex.kind_renamed]
    split
    · by_cases hName : source.name = target.name
      · rw [judgeFieldChanged, judgeFieldChanged, Vertex.name_renamed, Vertex.name_renamed, if_pos hName, if_pos hName]
      · have hName' : (source.renamed old).name ≠ (target.renamed new).name := hName
        rw [judgeFieldChanged_eq_ok_iff hName, judgeFieldChanged_eq_ok_iff hName']
        exact h.newGraph.exists_containerOf_iff (fun _ => .rfl) target
    · exact .rfl
  | insertVertex v =>
    rw [EditOperation.renamed, judgeFieldVertex, judgeFieldVertex, Vertex.kind_renamed]
    split
    · rw [judgeFieldAdded_eq_ok_iff, judgeFieldAdded_eq_ok_iff]
      exact h.newGraph.exists_containerOf_iff (fun _ => .rfl) v
    · exact .rfl
  | deleteVertex v =>
    rw [EditOperation.renamed, judgeFieldVertex, judgeFieldVertex, Vertex.kind_renamed]
    split
    · exact h.judgeFieldRemoved_iff v
    · exact h.judgeArgumentRemoved_iff v
    · exact .rfl
  | insertEdge | deleteEdge | changeEdge => exact .rfl

theorem judgeFieldTypeInserted_iff (edge : Edge) (op op' : EditOperation) :
    inputs'.judgeFieldTypeInserted ledgers (edge.renamed new) op' = .ok finding ↔
      inputs.judgeFieldTypeInserted ledgers edge op = .ok finding := by
  rw [judgeFieldTypeInserted_eq_ok_iff, judgeFieldTypeInserted_eq_ok_iff]
  apply h.newGraph.exists_containerOf_iff
  intro c
  apply or_congr_right
  apply and_congr_right
  intro _
  apply or_congr_right
  apply and_congr_right
  intro _
  apply exists_congr
  intro info
  apply and_congr_right
  intro _
  exact h.exists_pairedTypeEdge_iff (P := fun label => ∃ previous, TypeLabel.decode? label = some previous ∧
    finding = .members c c.name [.fieldRetyped edge.source.name previous.type info.type]) edge.source op op'

theorem judgeArgumentTypeInserted_iff (edge : Edge) (op op' : EditOperation) :
    inputs'.judgeArgumentTypeInserted ledgers (edge.renamed new) op' = .ok finding ↔
      inputs.judgeArgumentTypeInserted ledgers edge op = .ok finding := by
  rw [judgeArgumentTypeInserted_eq_ok_iff, judgeArgumentTypeInserted_eq_ok_iff]
  apply or_congr (h.newGraph.exists_directive_iff edge.source)
  apply h.newGraph.exists_field_iff
  intro owner
  apply h.newGraph.exists_containerOf_iff
  intro c
  have hMatched : (inputs'.matching.source? (edge.renamed new).source).isNone =
      (inputs.matching.source? edge.source).isNone := by
    rw [Edge.source_renamed, h.source?_eq, Option.isNone_map]
  rw [hMatched]
  apply or_congr_right
  apply and_congr_right
  intro _
  apply or_congr_right
  apply and_congr_right
  intro _
  apply or_congr_right
  apply and_congr_right
  intro _
  exact h.exists_pairedTypeEdge_iff (P := fun label => ∃ previous, TypeLabel.decode? label = some previous ∧
    ∃ info, TypeLabel.decode? edge.label = some info ∧
      finding = .members c c.name (argumentChanges owner.name edge.source.name previous info)) edge.source op op'

theorem judgeFieldTypeChanged_iff (source target : Edge) :
    inputs'.judgeFieldTypeChanged ledgers (source.renamed old) (target.renamed new) = .ok finding ↔
      inputs.judgeFieldTypeChanged ledgers source target = .ok finding := by
  rw [judgeFieldTypeChanged_eq_ok_iff, judgeFieldTypeChanged_eq_ok_iff]
  exact h.newGraph.exists_containerOf_iff (fun _ => .rfl) target.source

theorem judgeArgumentTypeChanged_iff (source target : Edge) :
    inputs'.judgeArgumentTypeChanged ledgers (source.renamed old) (target.renamed new) = .ok finding ↔
      inputs.judgeArgumentTypeChanged ledgers source target = .ok finding := by
  rw [judgeArgumentTypeChanged_eq_ok_iff, judgeArgumentTypeChanged_eq_ok_iff]
  apply or_congr (h.newGraph.exists_directive_iff target.source)
  apply h.newGraph.exists_field_iff
  intro owner
  exact h.newGraph.exists_containerOf_iff (fun _ => .rfl) owner

theorem judgeTypeEdge_iff (op : EditOperation) :
    inputs'.judgeTypeEdge ledgers (op.renamed old new) = .ok finding ↔
      inputs.judgeTypeEdge ledgers op = .ok finding := by
  cases op with
  | insertEdge edge =>
    rw [EditOperation.renamed, judgeTypeEdge, judgeTypeEdge, Edge.label_renamed, Edge.source_renamed,
      Vertex.kind_renamed]
    by_cases hLabel : isTypeLabel edge.label = true
    · rw [if_pos hLabel, if_pos hLabel]
      split
      · exact h.judgeArgumentTypeInserted_iff edge _ _
      · exact h.judgeFieldTypeInserted_iff edge _ _
      · exact .rfl
    · rw [if_neg hLabel, if_neg hLabel]
  | changeEdge source target =>
    rw [EditOperation.renamed, judgeTypeEdge, judgeTypeEdge, Edge.label_renamed, Edge.source_renamed,
      Vertex.kind_renamed]
    by_cases hLabel : isTypeLabel target.label = true
    · rw [if_pos hLabel, if_pos hLabel]
      split
      · exact h.judgeFieldTypeChanged_iff source target
      · exact h.judgeArgumentTypeChanged_iff source target
      · exact .rfl
    · rw [if_neg hLabel, if_neg hLabel]
  | insertVertex | deleteVertex | changeVertex | deleteEdge => exact .rfl

theorem judgeImplementsEdge_iff (op : EditOperation) :
    inputs'.judgeImplementsEdge ledgers (op.renamed old new) = .ok finding ↔
      inputs.judgeImplementsEdge ledgers op = .ok finding := by
  cases op with
  | insertEdge edge =>
    by_cases hLabel : isImplementsLabel edge.label = true
    · have hLabel' : isImplementsLabel (edge.renamed new).label = true := hLabel
      rw [EditOperation.renamed, judgeImplementsInserted_eq_ok_iff hLabel, judgeImplementsInserted_eq_ok_iff hLabel']
      exact Container.exists_ofVertex?_iff (fun _ => .rfl) edge.source
    · have hLabel' : ¬ isImplementsLabel (edge.renamed new).label = true := hLabel
      rw [EditOperation.renamed, judgeImplementsEdge, judgeImplementsEdge, if_neg hLabel, if_neg hLabel']
  | deleteEdge edge =>
    by_cases hLabel : isImplementsLabel edge.label = true
    · have hLabel' : isImplementsLabel (edge.renamed old).label = true := hLabel
      rw [EditOperation.renamed, judgeImplementsDeleted_eq_ok_iff hLabel, judgeImplementsDeleted_eq_ok_iff hLabel']
      apply Container.exists_ofVertex?_iff
      intro c
      rw [Container.vertex_renamed, h.currentName_eq]
      exact .rfl
    · have hLabel' : ¬ isImplementsLabel (edge.renamed old).label = true := hLabel
      rw [EditOperation.renamed, judgeImplementsEdge, judgeImplementsEdge, if_neg hLabel, if_neg hLabel']
  | insertVertex | deleteVertex | changeVertex | changeEdge => exact .rfl

theorem judgeUnionMember_eq (op : EditOperation) :
    inputs'.judgeUnionMember ledgers (op.renamed old new) = inputs.judgeUnionMember ledgers op := by
  cases op with
  | deleteEdge edge =>
    rw [EditOperation.renamed, judgeUnionMember, judgeUnionMember, Edge.source_renamed, h.currentName_eq]
    rfl
  | insertVertex | deleteVertex | changeVertex | insertEdge | changeEdge => rfl

omit h in
theorem judgeTypeVertex_iff (op : EditOperation) :
    judgeTypeVertex (op.renamed old new) = .ok finding ↔ judgeTypeVertex op = .ok finding := by
  cases op with
  | changeVertex source target =>
    by_cases hKind : source.kind = target.kind
    · have hKind' : (source.renamed old).kind = (target.renamed new).kind := hKind
      simp only [EditOperation.renamed, judgeTypeVertex, if_pos hKind, if_pos hKind']
      exact .rfl
    · have hKind' : (source.renamed old).kind ≠ (target.renamed new).kind := hKind
      simp only [EditOperation.renamed, judgeTypeVertex, if_neg hKind, if_neg hKind']
      rw [Vertex.kind_renamed]
      cases target.kind <;> simp
  | insertVertex | deleteVertex | insertEdge | deleteEdge | changeEdge => exact .rfl

/-- Every pass finds the same about a renamed operation as about the operation itself. -/
theorem judge_iff (pass : Pass) (op : EditOperation) :
    pass.judge inputs' ledgers (op.renamed old new) = .ok finding ↔ pass.judge inputs ledgers op = .ok finding := by
  cases pass with
  | typeVertices => exact judgeTypeVertex_iff op
  | fieldVertices => exact h.judgeFieldVertex_iff op
  | typeEdges => exact h.judgeTypeEdge_iff op
  | implementsEdges => exact h.judgeImplementsEdge_iff op
  | unionMembers => rw [Pass.judge, Pass.judge, h.judgeUnionMember_eq]

theorem walks_iff {pass : Pass} {before after : Ledgers} {operations : List EditOperation} {found : List Finding} :
    pass.Walks inputs' before (operations.map (·.renamed old new)) found after ↔
      pass.Walks inputs before operations found after := by
  induction operations generalizing before found with
  | nil =>
    constructor
    · intro hWalks
      cases hWalks
      exact .nil
    · intro hWalks
      cases hWalks
      exact .nil
  | cons op operations ih =>
    constructor
    · intro hWalks
      cases hWalks with
      | cons hJudge hEnter hRest =>
        exact .cons ((h.judge_iff pass op).mp hJudge) (Ledgers.enter_eq_ok_of_enter hEnter _) (ih.mp hRest)
    · intro hWalks
      cases hWalks with
      | cons hJudge hEnter hRest =>
        exact .cons ((h.judge_iff pass op).mpr hJudge) (Ledgers.enter_eq_ok_of_enter hEnter _) (ih.mpr hRest)

theorem analyze_eq_ok_iff {report : Report} :
    inputs'.analyze.result = .ok report ↔ inputs.analyze.result = .ok report := by
  rw [Inputs.analyze_eq_ok_iff, Inputs.analyze_eq_ok_iff]
  constructor
  · rintro ⟨run, rfl⟩
    refine ⟨⟨run.found, run.left, fun pass => h.walks_iff.mp ?_⟩, rfl⟩
    rw [← h.operations]
    exact run.walks pass
  · rintro ⟨run, rfl⟩
    refine ⟨⟨run.found, run.left, fun pass => ?_⟩, rfl⟩
    rw [h.operations]
    exact h.walks_iff.mpr (run.walks pass)

end Inputs.Renamed

namespace Inputs

variable {old new : String ↪ String} {value : Value} {inputs inputs' : Inputs}

/-- A document with renamed ids resolves to the renamed parts of the document, if it has the right shape. -/
theorem ofValue_renameIds_eq_ok_iff : ofValue (value.renameIds old new) = .ok inputs' ↔
    ∃ entries document, value = .map entries ∧ Document.ofEntries entries = .ok document ∧
      (document.renamed old new).resolve = .ok inputs' := by
  cases value with
  | map entries =>
    obtain ⟨renamed, hRenamed, hParts⟩ := Document.ofEntries_rename old new entries
    rw [hRenamed, ofValue_eq_ok_iff]
    constructor
    · rintro ⟨_, document', ⟨⟩, hDocument', hResolve⟩
      rw [hDocument'] at hParts
      obtain ⟨document, hDocument, rfl⟩ := map_eq_ok_iff.mp hParts.symm
      exact ⟨entries, document, rfl, hDocument, hResolve⟩
    · rintro ⟨_, document, ⟨⟩, hDocument, hResolve⟩
      rw [hDocument] at hParts
      exact ⟨renamed, _, rfl, hParts, hResolve⟩
  | _ => simp [Value.renameIds, Value.mapFields, ofValue, parse]

theorem exists_ofValue_renameIds_iff : (∃ inputs', ofValue (value.renameIds old new) = .ok inputs') ↔
    ∃ inputs, ofValue value = .ok inputs := by
  constructor
  · rintro ⟨inputs', hInputs'⟩
    obtain ⟨entries, document, hValue, hDocument, hResolve⟩ := ofValue_renameIds_eq_ok_iff.mp hInputs'
    have hConsistent := Document.consistent_renamed_iff.mp (Document.exists_resolve_iff.mp ⟨inputs', hResolve⟩)
    obtain ⟨inputs, hInputs⟩ := Document.exists_resolve_iff.mpr hConsistent
    exact ⟨inputs, ofValue_eq_ok_iff.mpr ⟨entries, document, hValue, hDocument, hInputs⟩⟩
  · rintro ⟨inputs, hInputs⟩
    obtain ⟨entries, document, hValue, hDocument, hResolve⟩ := ofValue_eq_ok_iff.mp hInputs
    have hConsistent : (document.renamed old new).Consistent :=
      Document.consistent_renamed_iff.mpr (Document.exists_resolve_iff.mp ⟨inputs, hResolve⟩)
    obtain ⟨inputs', hInputs'⟩ := Document.exists_resolve_iff.mpr hConsistent
    exact ⟨inputs', ofValue_renameIds_eq_ok_iff.mpr ⟨entries, document, hValue, hDocument, hInputs'⟩⟩

theorem renamed_of_ofValue (h : ofValue value = .ok inputs) (h' : ofValue (value.renameIds old new) = .ok inputs') :
    inputs.Renamed old new inputs' := by
  obtain ⟨entries, document, rfl, hDocument, hResolve⟩ := ofValue_eq_ok_iff.mp h
  obtain ⟨_, document', ⟨⟩, hDocument', hResolve'⟩ := ofValue_renameIds_eq_ok_iff.mp h'
  cases hDocument.symm.trans hDocument'
  exact Document.renamed_of_resolve hResolve hResolve'

/-- A document with renamed vertex ids is accepted or refused alike, and the analyses give equal reports or both fail. -/
theorem analyze_of_renameIds (old new : String ↪ String) (value : Value) :
    ((∃ inputs, ofValue value = .ok inputs) ↔ ∃ inputs', ofValue (value.renameIds old new) = .ok inputs') ∧
    ∀ inputs inputs', ofValue value = .ok inputs → ofValue (value.renameIds old new) = .ok inputs' →
      (∃ report, inputs.analyze.result = .ok report ∧ inputs'.analyze.result = .ok report) ∨
      ((∃ failure, inputs.analyze.result = .error failure) ∧ ∃ failure', inputs'.analyze.result = .error failure') := by
  refine ⟨exists_ofValue_renameIds_iff.symm, ?_⟩
  intro inputs inputs' hInputs hInputs'
  have hRenamed := renamed_of_ofValue hInputs hInputs'
  cases hResult : inputs.analyze.result with
  | ok report => exact .inl ⟨report, rfl, hRenamed.analyze_eq_ok_iff.mpr hResult⟩
  | error failure =>
    cases hResult' : inputs'.analyze.result with
    | ok report => cases hResult.symm.trans (hRenamed.analyze_eq_ok_iff.mp hResult')
    | error failure' => exact .inr ⟨⟨failure, rfl⟩, failure', rfl⟩

end Inputs

namespace Sample

/-- Two vertices of the old graph change ids. -/
def oldIds : String ↪ String := (Equiv.swap "Q" "Int").toEmbedding

def newIds : String ↪ String := ⟨("new." ++ ·), fun _ _ => (String.append_right_inj _).mp⟩

theorem exists_report : ∃ inputs report, Inputs.ofValue (.map entries) = .ok inputs ∧
    inputs.analyze.result = .ok report := by
  have hAnalyzed : (match Inputs.ofValue (.map entries) with
      | .ok inputs => inputs.analyze.result.isOk
      | .error _ => false) = true := by decide +kernel
  split at hAnalyzed
  · rename_i inputs hInputs
    cases hResult : inputs.analyze.result with
    | ok report => exact ⟨inputs, report, hInputs, hResult⟩
    | error failure => cases hResult ▸ hAnalyzed
  · cases hAnalyzed

end Sample

theorem Inputs.analyze_of_renameIds_sample : ∃ inputs inputs' report, ofValue (.map Sample.entries) = .ok inputs ∧
    ofValue (Value.renameIds Sample.oldIds Sample.newIds (.map Sample.entries)) = .ok inputs' ∧
    inputs.analyze.result = .ok report ∧ inputs'.analyze.result = .ok report := by
  obtain ⟨inputs, report, hInputs, hReport⟩ := Sample.exists_report
  obtain ⟨hAccepted, hResults⟩ := analyze_of_renameIds Sample.oldIds Sample.newIds (.map Sample.entries)
  obtain ⟨inputs', hInputs'⟩ := hAccepted.mp ⟨inputs, hInputs⟩
  obtain ⟨report', hResult, hResult'⟩ | ⟨⟨failure, hResult⟩, _⟩ := hResults inputs inputs' hInputs hInputs'
  · exact ⟨inputs, inputs', report', hInputs, hInputs', hResult, hResult'⟩
  · cases hReport.symm.trans hResult

end SchemaChange
