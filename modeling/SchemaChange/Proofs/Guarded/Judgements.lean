import SchemaChange.Proofs.Guarded.Agreement

/-! # Guarded judgements agree with the judgements

Each guarded judgement of an operation enters what the judgement of the operation finds. With that one step of a pass
agrees, by induction on the operations a pass, and so the whole analysis: it breaks nowhere.
-/
namespace SchemaChange

namespace Script

open LedgerStores

variable {inputs : Inputs} {ledgers : Ledgers} {op : EditOperation}

theorem typeVertex_eq : typeVertex (ofLedgers ledgers) (.ofOperation op) =
    settled ledgers op (Inputs.judgeTypeVertex op) := by
  cases op with
  | insertVertex v =>
    change typeVertexInserted _ _ = _
    rw [typeVertexInserted, SidedOperation.demandTargetVertex_insertVertex, Guarded.ok_bind, Inputs.judgeTypeVertex]
    cases hKind : v.kind with
    | type kind =>
      simp [VertexKind.isNamedType, settled_change (show Change.bare .added = .added from rfl)]
    | field | argument | directive => rfl
  | deleteVertex v =>
    change typeVertexDeleted _ _ = _
    rw [typeVertexDeleted, SidedOperation.demandSourceVertex_deleteVertex, Guarded.ok_bind, Inputs.judgeTypeVertex]
    cases hKind : v.kind with
    | type kind => exact (settled_change rfl).symm
    | field | argument | directive => rfl
  | changeVertex source target =>
    change typeVertexChanged _ _ = _
    rw [typeVertexChanged, SidedOperation.demandTargetVertex_changeVertex, Guarded.ok_bind, Inputs.judgeTypeVertex]
    cases hKind : target.kind with
    | type kind =>
      simp [VertexKind.isNamedType, settled_change (show Change.bare (.modified []) = .modified [] from rfl)]
    | field | argument | directive => rfl
  | insertEdge | deleteEdge | changeEdge => rfl

theorem fieldChanged_eq (source target : Vertex) :
    (ofInputs inputs).fieldChanged (ofLedgers ledgers) (.ofOperation (.changeVertex source target)) =
      settled ledgers (.changeVertex source target) (inputs.judgeFieldChanged ledgers source target) := by
  simp [fieldChanged, Inputs.judgeFieldChanged, Container.name]

theorem fieldAdded_eq (field : Vertex) :
    (ofInputs inputs).fieldAdded (ofLedgers ledgers) (.ofOperation (.insertVertex field)) =
      settled ledgers (.insertVertex field) (inputs.judgeFieldAdded ledgers field) := by
  simp [fieldAdded, Inputs.judgeFieldAdded, Container.name]

theorem fieldDeleted_eq (field : Vertex) :
    (ofInputs inputs).fieldDeleted (ofLedgers ledgers) (.ofOperation (.deleteVertex field)) =
      settled ledgers (.deleteVertex field) (inputs.judgeFieldRemoved ledgers field) := by
  simp [fieldDeleted, Inputs.judgeFieldRemoved]

theorem argumentDeleted_eq (argument : Vertex) :
    (ofInputs inputs).argumentDeleted (ofLedgers ledgers) (.ofOperation (.deleteVertex argument)) =
      settled ledgers (.deleteVertex argument) (inputs.judgeArgumentRemoved ledgers argument) := by
  rw [argumentDeleted, SidedOperation.demandSourceVertex_deleteVertex, Guarded.ok_bind, Inputs.judgeArgumentRemoved,
    settled_bind]
  refine argumentOwner_bind _ _ (fun directive hKind => if_pos hKind) fun owner hKind => ?_
  simp only [hKind, reduceCtorEq, if_false, matching_ofInputs]
  cases inputs.matching.target? owner with
  | none => rfl
  | some newField =>
    simp

theorem fieldVertex_eq : (ofInputs inputs).fieldVertex (ofLedgers ledgers) (.ofOperation op) =
    settled ledgers op (inputs.judgeFieldVertex ledgers op) := by
  cases op with
  | changeVertex source target =>
    rw [Inputs.judgeFieldVertex, settled_ite, settled_nothing, ← fieldChanged_eq]
    rfl
  | insertVertex target =>
    rw [Inputs.judgeFieldVertex, settled_ite, settled_nothing, ← fieldAdded_eq]
    rfl
  | deleteVertex removed =>
    change (if removed.kind = .field then _ else if removed.kind = .argument then _ else _) = _
    rw [Inputs.judgeFieldVertex, fieldDeleted_eq, argumentDeleted_eq]
    cases removed.kind <;> rfl
  | insertEdge | deleteEdge | changeEdge => rfl

theorem deletedTypeEdge?_eq (old : Vertex) (operations : List EditOperation) :
    deletedTypeEdge? old (operations.map .ofOperation) =
      .ok ((Inputs.removedTypeEdge? operations old).map fun e => .ofOperation (.deleteEdge e)) := by
  induction operations with
  | nil => rfl
  | cons op operations ih =>
    rw [List.map_cons, deletedTypeEdge?, Inputs.removedTypeEdge?, List.findSome?_cons]
    cases op with
    | deleteEdge e =>
      rw [SidedOperation.demandSourceEdge_deleteEdge, Guarded.ok_bind, ih]
      refine (if_neg (not_not_intro rfl)).trans ?_
      by_cases hEdge : e.source = old ∧ isTypeLabel e.label = true
      · simp only [if_pos hEdge, Option.map_some]
      · simp only [if_neg hEdge]
        rfl
    | insertVertex | deleteVertex | changeVertex | insertEdge | changeEdge =>
      exact (if_pos (by simp [SidedOperation.ofOperation])).trans ih

theorem findDeletedTypeEdge_eq (vertex : Vertex) :
    (ofInputs inputs).findDeletedTypeEdge (.ofOperation op) vertex =
      (told (inputs.pairedTypeEdge vertex op)).map fun e => .ofOperation (.deleteEdge e) := by
  rw [findDeletedTypeEdge, Inputs.pairedTypeEdge, matching_ofInputs, operations_ofInputs]
  cases inputs.matching.source? vertex with
  | none => exact inconsistent_eq _ (some op)
  | some old =>
    simp only [deletedTypeEdge?_eq, Guarded.ok_bind]
    cases Inputs.removedTypeEdge? inputs.operations old with
    | none => exact inconsistent_eq _ (some op)
    | some e => rfl

@[simp] theorem findDeletedTypeEdge_bind {α : Type} (vertex : Vertex) (k : SidedOperation → Guarded String α) :
    ((ofInputs inputs).findDeletedTypeEdge (.ofOperation op) vertex >>= k) =
      told (inputs.pairedTypeEdge vertex op) >>= fun e => k (.ofOperation (.deleteEdge e)) := by
  rw [findDeletedTypeEdge_eq, Guarded.map_bind]

theorem typeEdgeInserted_field_eq {edge : Edge} (hKind : edge.source.kind = .field) :
    (ofInputs inputs).typeEdgeInserted (ofLedgers ledgers) (.ofOperation (.insertEdge edge)) =
      settled ledgers (.insertEdge edge) (inputs.judgeFieldTypeInserted ledgers edge (.insertEdge edge)) := by
  simp [typeEdgeInserted, hKind, Inputs.judgeFieldTypeInserted, Container.name]

theorem fieldTypeChanged_eq (source target : Edge) :
    (ofInputs inputs).fieldTypeChanged (ofLedgers ledgers) (.ofOperation (.changeEdge source target)) =
      settled ledgers (.changeEdge source target) (inputs.judgeFieldTypeChanged ledgers source target) := by
  simp [fieldTypeChanged, Inputs.judgeFieldTypeChanged, Container.name]

theorem recordRetyped_eq (c : Container) (owner argument : Vertex) (old new : TypeLabel) :
    recordRetyped (ofLedgers ledgers) (.ofOperation op) c.vertex owner argument old new =
      settled ledgers op (.ok (.members c c.name (if old.type = new.type then []
        else [.argumentRetyped owner.name argument.name old.type new.type]))) := by
  rw [recordRetyped]
  split
  · rfl
  · exact (settled_member _).symm

theorem recordDefault_eq (c : Container) (owner argument : Vertex) (old new : TypeLabel) :
    recordDefault (ofLedgers ledgers) (.ofOperation op) c.vertex owner argument old new =
      settled ledgers op (.ok (.members c c.name (if old.default = new.default then []
        else [.defaultChanged owner.name argument.name old.default new.default]))) := by
  rw [recordDefault]
  split
  · rfl
  · exact (settled_member _).symm

theorem recordArgumentChange_eq (c : Container) (owner argument : Vertex) (source target : Edge) :
    recordArgumentChange (ofLedgers ledgers) (.ofOperation op) c.vertex owner argument source target =
      told (TypeLabel.read source.label) >>= fun old => told (TypeLabel.read target.label) >>= fun new =>
        settled ledgers op (.ok (.members c c.name (Inputs.argumentChanges owner.name argument.name old new))) := by
  simp only [recordArgumentChange, readLabel_eq, recordRetyped_eq, Inputs.argumentChanges, settled_members_append]
  refine congrArg (told _ >>= ·) (funext fun old => congrArg (told _ >>= ·) (funext fun new => ?_))
  exact (Guarded.map_bind _ _ _).trans (congrArg (told _ >>= ·) (funext fun after => recordDefault_eq ..))

theorem argumentTypeInserted_eq (edge : Edge) :
    (ofInputs inputs).argumentTypeInserted (ofLedgers ledgers) (.ofOperation (.insertEdge edge)) =
      settled ledgers (.insertEdge edge) (inputs.judgeArgumentTypeInserted ledgers edge (.insertEdge edge)) := by
  rw [argumentTypeInserted, SidedOperation.demandTargetEdge_insertEdge, Guarded.ok_bind,
    Inputs.judgeArgumentTypeInserted, settled_bind]
  refine argumentOwner_bind _ _ (fun directive hKind => if_pos hKind) fun owner hKind => ?_
  simp [hKind, recordArgumentChange_eq, Container.name]

theorem argumentTypeChanged_eq (source target : Edge) :
    (ofInputs inputs).argumentTypeChanged (ofLedgers ledgers) (.ofOperation (.changeEdge source target)) =
      settled ledgers (.changeEdge source target) (inputs.judgeArgumentTypeChanged ledgers source target) := by
  rw [argumentTypeChanged, SidedOperation.demandTargetEdge_changeEdge, SidedOperation.demandSourceEdge_changeEdge,
    Guarded.ok_bind, Guarded.ok_bind, Inputs.judgeArgumentTypeChanged, settled_bind]
  refine argumentOwner_bind _ _ (fun directive hKind => if_pos hKind) fun owner hKind => ?_
  simp [hKind, recordArgumentChange_eq, Container.name]

theorem typeEdge_eq : (ofInputs inputs).typeEdge (ofLedgers ledgers) (.ofOperation op) =
    settled ledgers op (inputs.judgeTypeEdge ledgers op) := by
  cases op with
  | insertEdge edge =>
    rw [Inputs.judgeTypeEdge, settled_ite, settled_nothing]
    change (if _ then (ofInputs inputs).typeEdgeInserted _ _ else _) = _
    congr 1
    cases hKind : edge.source.kind with
    | field => exact typeEdgeInserted_field_eq hKind
    | argument =>
      rw [typeEdgeInserted, SidedOperation.demandTargetEdge_insertEdge, Guarded.ok_bind]
      exact (if_pos hKind).trans (argumentTypeInserted_eq edge)
    | directive | type =>
      rw [typeEdgeInserted, SidedOperation.demandTargetEdge_insertEdge, Guarded.ok_bind]
      simp only [hKind]
      rfl
  | changeEdge source target =>
    rw [Inputs.judgeTypeEdge, settled_ite, settled_nothing]
    change (if _ then (ofInputs inputs).typeEdgeChanged _ _ else _) = _
    congr 1
    rw [typeEdgeChanged, SidedOperation.demandTargetEdge_changeEdge, Guarded.ok_bind, fieldTypeChanged_eq,
      argumentTypeChanged_eq]
    cases hKind : target.source.kind <;> rfl
  | insertVertex | deleteVertex | changeVertex | deleteEdge => rfl

theorem assertImplementer_bind {α : Type} (v : Vertex) (k : Guarded String α) {judged : Container → Guarded String α}
    (h : ∀ c : Container, c.vertex = v → k = judged c) :
    (assertImplementer (.ofOperation op) v >>= fun _ => k) = told (Inputs.implementer v op) >>= judged := by
  rw [assertImplementer, Inputs.implementer]
  cases hContainer : Container.ofVertex? v with
  | none =>
    rw [if_neg]
    · exact congrArg (· >>= fun _ => k) (inconsistent_eq _ (some op))
    · rw [← Container.isSome_ofVertex?_iff, hContainer]
      decide
  | some c =>
    rw [if_pos (Container.isSome_ofVertex?_iff.mp (by rw [hContainer]; rfl))]
    exact h c (Container.ofVertex?_eq_some_iff.mp hContainer)

theorem implementationAdded_eq {edge : Edge} (hLabel : isImplementsLabel edge.label = true) :
    implementationAdded (ofLedgers ledgers) (.ofOperation (.insertEdge edge)) =
      settled ledgers (.insertEdge edge) (inputs.judgeImplementsEdge ledgers (.insertEdge edge)) := by
  rw [implementationAdded, SidedOperation.demandTargetEdge_insertEdge, Guarded.ok_bind, Inputs.judgeImplementsEdge,
    if_pos hLabel, settled_bind]
  refine assertImplementer_bind _ _ fun c hSource => ?_
  simp [← hSource, Container.name]

theorem implementationDeleted_eq {edge : Edge} (hLabel : isImplementsLabel edge.label = true) :
    (ofInputs inputs).implementationDeleted (ofLedgers ledgers) (.ofOperation (.deleteEdge edge)) =
      settled ledgers (.deleteEdge edge) (inputs.judgeImplementsEdge ledgers (.deleteEdge edge)) := by
  rw [implementationDeleted, SidedOperation.demandSourceEdge_deleteEdge, Guarded.ok_bind, Inputs.judgeImplementsEdge,
    if_pos hLabel, settled_bind]
  refine assertImplementer_bind _ _ fun c hSource => ?_
  simp [← hSource]

theorem implementsEdge_eq : (ofInputs inputs).implementsEdge (ofLedgers ledgers) (.ofOperation op) =
    settled ledgers op (inputs.judgeImplementsEdge ledgers op) := by
  cases op with
  | insertEdge edge =>
    rw [implementsEdge]
    change (if _ then implementationAdded _ _ else _) = _
    by_cases hLabel : isImplementsLabel edge.label = true
    · rw [if_pos hLabel, implementationAdded_eq hLabel]
    · rw [if_neg hLabel, Inputs.judgeImplementsEdge, if_neg hLabel, settled_nothing]
  | deleteEdge edge =>
    change (if _ then (ofInputs inputs).implementationDeleted _ _ else _) = _
    by_cases hLabel : isImplementsLabel edge.label = true
    · rw [if_pos hLabel, implementationDeleted_eq hLabel]
    · rw [if_neg hLabel, Inputs.judgeImplementsEdge, if_neg hLabel, settled_nothing]
  | insertVertex | deleteVertex | changeVertex | changeEdge => rfl

theorem unionMember_eq : (ofInputs inputs).unionMember (ofLedgers ledgers) (.ofOperation op) =
    settled ledgers op (inputs.judgeUnionMember ledgers op) := by
  cases op with
  | insertEdge edge =>
    change (if edge.source.kind = .type .union then unionMemberAdded _ _ else _) = _
    rw [Inputs.judgeUnionMember, settled_ite, settled_nothing]
    split
    · rename_i hKind
      rw [unionMemberAdded, SidedOperation.demandTargetEdge_insertEdge, Guarded.ok_bind,
        containerWasAdded_union hKind, Guarded.ok_bind, settled_ite, settled_skipped, settled_detail]
    · rfl
  | deleteEdge edge =>
    change (if edge.source.kind = .type .union then (ofInputs inputs).unionMemberDeleted _ _ else _) = _
    rw [Inputs.judgeUnionMember, settled_ite, settled_nothing]
    split
    · rename_i hKind
      rw [unionMemberDeleted, SidedOperation.demandSourceEdge_deleteEdge, Guarded.ok_bind,
        containerWasRemoved_union hKind, Guarded.ok_bind, settled_ite, settled_skipped, settled_detail]
      rfl
    · rfl
  | insertVertex | deleteVertex | changeVertex | changeEdge => rfl

theorem step_eq (pass : Pass) : (ofInputs inputs).step (ofLedgers ledgers) (.ofOperation op) pass =
    settled ledgers op (pass.judge inputs ledgers op) := by
  cases pass with
  | typeVertices => exact typeVertex_eq
  | fieldVertices => exact fieldVertex_eq
  | typeEdges => exact typeEdge_eq
  | implementsEdges => exact implementsEdge_eq
  | unionMembers => exact unionMember_eq

theorem settled_judge (pass : Pass) : settled ledgers op (pass.judge inputs ledgers op) =
    (told ((pass.step inputs ledgers op).map Prod.snd)).map ofLedgers := by
  rw [settled, Pass.step]
  cases pass.judge inputs ledgers op with
  | error failure => rfl
  | ok finding =>
    change (told (ledgers.enter op finding)).map _ = (told ((ledgers.enter op finding >>= _).map _)).map _
    cases ledgers.enter op finding <;> rfl

/-- Along the operations the stores are those of the ledgers that the pass has at that moment. -/
theorem foldlM_step_eq (pass : Pass) (operations : List EditOperation) (ledgers : Ledgers) :
    (operations.map .ofOperation).foldlM (fun ledgers op => (ofInputs inputs).step ledgers op pass) (ofLedgers ledgers) =
      (told (pass.walk inputs ledgers operations).2).map ofLedgers := by
  induction operations generalizing ledgers with
  | nil => rfl
  | cons op operations ih =>
    rw [List.map_cons, List.foldlM_cons, step_eq, settled_judge, Pass.walk]
    cases pass.step inputs ledgers op with
    | error failure => rfl
    | ok entered => exact ih entered.2

theorem pass_eq (pass : Pass) : (ofInputs inputs).pass (ofLedgers ledgers) pass =
    (told (pass.run inputs ledgers).2).map ofLedgers :=
  foldlM_step_eq pass inputs.operations ledgers

theorem foldlM_pass_eq (passes : List Pass) (ledgers : Ledgers) :
    passes.foldlM (ofInputs inputs).pass (ofLedgers ledgers) =
      (told (Pass.runAll inputs ledgers passes).2).map ofLedgers := by
  induction passes generalizing ledgers with
  | nil => rfl
  | cons pass passes ih =>
    rw [List.foldlM_cons, pass_eq, Pass.runAll]
    rcases hRun : pass.run inputs ledgers with ⟨events, result⟩
    cases result with
    | error failure => rfl
    | ok after => exact ih after

/-- The guarded analysis reports what the analysis reports, or tells the text of its failure. -/
theorem analyze_eq (inputs : Inputs) : (ofInputs inputs).analyze = told inputs.analyze.result := by
  rw [analyze, ← ofLedgers_empty, foldlM_pass_eq, Inputs.analyze]
  rcases hRun : Pass.runAll inputs Ledgers.empty Pass.all with ⟨events, result⟩
  cases result with
  | error failure => rfl
  | ok ledgers =>
    exact freeze_ofLedgers ledgers

end Script

end SchemaChange
