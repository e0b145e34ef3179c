import SchemaChange.Proofs.Trace
import SchemaChange.Proofs.Turns

/-! # Every operation is accounted for

In a run that gives a report, an operation on a field, on an argument of a field, on the type of a field, on an
implementation or on a member of a union gives one detail or one skip, in one pass, and nothing in the others.
-/
namespace SchemaChange

/-- What an operation leaves of the edge that it inserts or changes. -/
def EditOperation.writtenEdge? : EditOperation → Option Edge
  | insertEdge edge => some edge
  | changeEdge _ target => some target
  | _ => none

/-- The operations that have to be accounted for, each with the pass whose turn it is. -/
inductive Inputs.Accountable (inputs : Inputs) : EditOperation → Pass → Prop
  | fieldInserted {field : Vertex} : field.kind = .field → Accountable inputs (.insertVertex field) .fieldVertices
  | fieldDeleted {field : Vertex} : field.kind = .field → Accountable inputs (.deleteVertex field) .fieldVertices
  | fieldRenamed {source target : Vertex} : target.kind = .field → source.name ≠ target.name →
    Accountable inputs (.changeVertex source target) .fieldVertices
  | argumentDeleted {argument owner : Vertex} : argument.kind = .argument →
    inputs.oldGraph.argumentOwner argument = .ok (.field owner) →
    Accountable inputs (.deleteVertex argument) .fieldVertices
  | fieldTyped {op : EditOperation} {edge : Edge} : op.writtenEdge? = some edge → edge.source.kind = .field →
    isTypeLabel edge.label = true → Accountable inputs op .typeEdges
  | implementation {op : EditOperation} {edge : Edge} : op.placedEdge? = some edge →
    isImplementsLabel edge.label = true → Accountable inputs op .implementsEdges
  | unionMember {op : EditOperation} {edge : Edge} : op.placedEdge? = some edge → edge.source.kind = .type .union →
    Accountable inputs op .unionMembers

/-- A finding accounts for an operation by one detail that is not skipped, or by a skip with the operation's text and
without a detail. -/
def Finding.AccountsFor (op : EditOperation) (finding : Finding) : Prop :=
  (finding.skip? op = none ∧ ∃ kind name detail, finding = .details kind name [detail]) ∨
  ∃ skip, finding.skip? op = some skip ∧ ("operation", op.describe) ∈ skip.fields ∧ ∀ kind, finding.journal kind = []

/-- One pass alone has found something about the operation in a place. -/
def FoundOnly (found : Pass → List Finding) (place : Nat) (pass : Pass) (finding : Finding) : Prop :=
  (found pass)[place]? = some finding ∧ ∀ other, other ≠ pass → (found other)[place]? = some .nothing

/-- The findings of a run account for the operations and for the details of its report. -/
structure Inputs.Accounts (inputs : Inputs) (found : Pass → List Finding) (report : Report) : Prop where
  complete : ∀ pass, (found pass).length = inputs.operations.length
  details : ∀ kind name, report.details kind name =
    Journal.detailsOf ((Pass.all.flatMap found).flatMap (·.journal kind)) name
  once : ∀ place op pass, inputs.operations[place]? = some op → inputs.Accountable op pass →
    ∃ finding, finding.AccountsFor op ∧ FoundOnly found place pass finding
  /-- The insertion of a built-in scalar is skipped. -/
  builtInScalars : ∀ place v, inputs.operations[place]? = some (.insertVertex v) → v.kind = .type .scalar →
    isBuiltInScalar v.name = true → FoundOnly found place .typeVertices (.skipped .builtInScalar)

section

variable {inputs : Inputs} {ledgers : Ledgers} {op : EditOperation} {finding : Finding} {pass other : Pass}

namespace Finding

theorem accountsFor_skipped (op : EditOperation) (reason : SkipReason) : (skipped reason).AccountsFor op :=
  .inr ⟨reason.toSkip op, rfl, List.mem_cons_self, fun _ => rfl⟩

theorem accountsFor_details (op : EditOperation) (kind : TypeKind) (name : String) (detail : Detail) :
    (details kind name [detail]).AccountsFor op :=
  .inl ⟨rfl, kind, name, detail, rfl⟩

theorem accountsFor_of_filed {c : Container} {cover : Change} {name : String} {change : MemberChange}
    (h : FiledUnlessCovered ledgers c cover name change finding) (op : EditOperation) : finding.AccountsFor op := by
  obtain ⟨_, reason, rfl⟩ | ⟨_, rfl⟩ := h
  · exact accountsFor_skipped op reason
  · exact accountsFor_details op _ name _

end Finding

namespace Inputs

theorem accountsFor_of_judgeFieldVertex (h : inputs.Accountable op .fieldVertices)
    (hJudge : inputs.judgeFieldVertex ledgers op = .ok finding) : finding.AccountsFor op := by
  obtain ⟨c, cover, name, change, _, hFiled⟩ | ⟨hNot, _⟩ := tells_of_judgeFieldVertex hJudge
  · exact Finding.accountsFor_of_filed hFiled op
  · -- What tells of no field is the removal of an argument whose field is gone, or of a directive's argument.
    cases h with
    | fieldInserted hKind => exact absurd hKind hNot
    | fieldDeleted hKind => exact absurd (.inl hKind) hNot
    | fieldRenamed hKind hName => exact absurd ⟨hKind, hName⟩ hNot
    | argumentDeleted hKind hOwner =>
      simp only [judgeFieldVertex, hKind] at hJudge
      obtain ⟨_, hDirective, _⟩ | ⟨_, hField, ⟨_, rfl⟩ | ⟨newField, hTarget, _⟩⟩ :=
        judgeArgumentRemoved_eq_ok_iff.mp hJudge
      · cases hOwner.symm.trans hDirective
      · exact Finding.accountsFor_skipped _ _
      · exact absurd (.inr ⟨hKind, _, _, hField, hTarget⟩) hNot

theorem accountsFor_of_judgeTypeEdge (h : inputs.Accountable op .typeEdges)
    (hJudge : inputs.judgeTypeEdge ledgers op = .ok finding) : finding.AccountsFor op := by
  cases h with
  | fieldTyped hEdge hKind hLabel =>
    cases op with
    | insertEdge edge =>
      cases hEdge
      simp only [judgeTypeEdge, hLabel, hKind, if_true] at hJudge
      obtain ⟨c, _, ⟨_, rfl⟩ | ⟨_, ⟨_, rfl⟩ | ⟨_, _, _, _, _, _, _, rfl⟩⟩⟩ := judgeFieldTypeInserted_eq_ok_iff.mp hJudge
      · exact Finding.accountsFor_skipped _ _
      · exact Finding.accountsFor_skipped _ _
      · exact Finding.accountsFor_details _ _ _ _
    | changeEdge source target =>
      cases hEdge
      simp only [judgeTypeEdge, hLabel, hKind, if_true] at hJudge
      obtain ⟨c, _, ⟨_, rfl⟩ | ⟨_, _, _, _, _, rfl⟩⟩ := judgeFieldTypeChanged_eq_ok_iff.mp hJudge
      · exact Finding.accountsFor_skipped _ _
      · exact Finding.accountsFor_details _ _ _ _
    | insertVertex | deleteVertex | changeVertex | deleteEdge => cases hEdge

theorem accountsFor_of_judgeImplementsEdge (h : inputs.Accountable op .implementsEdges)
    (hJudge : inputs.judgeImplementsEdge ledgers op = .ok finding) : finding.AccountsFor op := by
  cases h with
  | implementation hEdge hLabel =>
    obtain ⟨_, _, _, _, _, hFiled⟩ | ⟨hNot, _⟩ := tells_of_judgeImplementsEdge hJudge
    · exact Finding.accountsFor_of_filed hFiled op
    · obtain ⟨_, _, _, _, _, hTells⟩ := exists_tellsOfImplements hEdge hLabel hJudge
      exact absurd hTells (hNot _ _ _ _)

theorem accountsFor_of_judgeUnionMember (h : inputs.Accountable op .unionMembers)
    (hJudge : inputs.judgeUnionMember ledgers op = .ok finding) : finding.AccountsFor op := by
  cases h with
  | unionMember hEdge hKind =>
    obtain ⟨_, _, name, detail, _, hFiled⟩ | ⟨hNot, _⟩ := tells_of_judgeUnionMember hJudge
    · obtain ⟨_, reason, rfl⟩ | ⟨_, rfl⟩ := hFiled
      · exact Finding.accountsFor_skipped op reason
      · exact Finding.accountsFor_details op .union name detail
    · obtain ⟨_, _, _, hTells⟩ := inputs.exists_tellsOfUnion hEdge hKind
      exact absurd hTells (hNot _ _ _ _)

theorem Accountable.accountsFor (h : inputs.Accountable op pass)
    (hJudge : pass.judge inputs ledgers op = .ok finding) : finding.AccountsFor op := by
  cases pass with
  | typeVertices => cases h
  | fieldVertices => exact accountsFor_of_judgeFieldVertex h hJudge
  | typeEdges => exact accountsFor_of_judgeTypeEdge h hJudge
  | implementsEdges => exact accountsFor_of_judgeImplementsEdge h hJudge
  | unionMembers => exact accountsFor_of_judgeUnionMember h hJudge

theorem Accountable.turn?_eq (h : inputs.Accountable op pass)
    (hImplements : inputs.judgeImplementsEdge ledgers op = .ok finding) : op.turn? = some pass := by
  cases h with
  | fieldInserted hKind | fieldDeleted hKind | fieldRenamed hKind _ | argumentDeleted hKind _ =>
    simp only [EditOperation.turn?, hKind]
  | fieldTyped hWritten hKind hLabel =>
    have hNot := isImplementsLabel_eq_false hLabel
    cases op with
    | insertEdge edge | changeEdge _ edge =>
      cases hWritten
      simp [EditOperation.turn?, hKind, hLabel, hNot]
    | insertVertex | deleteVertex | changeVertex | deleteEdge => cases hWritten
  | implementation hPlaced hLabel =>
    cases op with
    | insertEdge | deleteEdge =>
      cases hPlaced
      exact if_pos hLabel
    | insertVertex | deleteVertex | changeVertex | changeEdge => cases hPlaced
  | @unionMember _ edge hPlaced hKind =>
    have hNot : isImplementsLabel edge.label ≠ true := fun hLabel =>
      source_kind_ne_union hPlaced hLabel hImplements hKind
    cases op with
    | insertEdge | deleteEdge =>
      cases hPlaced
      simp [EditOperation.turn?, hKind, hNot]
    | insertVertex | deleteVertex | changeVertex | changeEdge => cases hPlaced

/-- An accountable operation is nothing to the other passes, if the fourth pass does not fail at it. -/
theorem Accountable.judge_other (h : inputs.Accountable op pass) (hOther : other ≠ pass) {before : Ledgers}
    (hImplements : inputs.judgeImplementsEdge before op = .ok finding) :
    other.judge inputs ledgers op = .ok .nothing := by
  apply judge_eq_nothing _ hImplements
  rw [h.turn?_eq hImplements]
  exact fun hSame => hOther (Option.some.inj hSame).symm

/-- The insertion of a built-in scalar is nothing to the passes after the first. -/
theorem judge_builtInScalar {v : Vertex} (hKind : v.kind = .type .scalar) (hOther : other ≠ .typeVertices) :
    other.judge inputs ledgers (.insertVertex v) = .ok .nothing := by
  have hImplements : inputs.judgeImplementsEdge ledgers (.insertVertex v) = .ok .nothing := rfl
  apply judge_eq_nothing _ hImplements
  simpa only [EditOperation.turn?, hKind, ne_eq, Option.some.injEq] using hOther.symm

end Inputs

theorem Pass.Walks.length_eq {before after : Ledgers} {operations : List EditOperation} {found : List Finding}
    (h : pass.Walks inputs before operations found after) : found.length = operations.length := by
  induction h with
  | nil => rfl
  | cons _ _ _ ih => rw [List.length_cons, List.length_cons, ih]

theorem Pass.Walks.exists_judge {before after : Ledgers} {operations : List EditOperation} {found : List Finding}
    (h : pass.Walks inputs before operations found after) {place : Nat} (hPlace : operations[place]? = some op) :
    ∃ ledgers finding, found[place]? = some finding ∧ pass.judge inputs ledgers op = .ok finding := by
  obtain ⟨ledgers, finding, _, _, hStep, hFound⟩ := h.exists_step hPlace
  exact ⟨ledgers, finding, hFound, (step_eq_ok_iff.mp hStep).1⟩

namespace CompleteRun

variable (run : CompleteRun inputs) {place : Nat}

/-- If the other passes judge an operation to be nothing, then they have found nothing in its place. -/
theorem foundOnly (hPlace : inputs.operations[place]? = some op) (hFound : (run.found pass)[place]? = some finding)
    (hOther : ∀ other ledgers, other ≠ pass → other.judge inputs ledgers op = .ok .nothing) :
    FoundOnly run.found place pass finding := by
  refine ⟨hFound, fun other hNe => ?_⟩
  obtain ⟨ledgers, otherFinding, hOtherFound, hJudge⟩ := (run.walks other).exists_judge hPlace
  rw [hOther other ledgers hNe] at hJudge
  cases hJudge
  exact hOtherFound

theorem exists_foundOnly (hPlace : inputs.operations[place]? = some op) (h : inputs.Accountable op pass) :
    ∃ finding, finding.AccountsFor op ∧ FoundOnly run.found place pass finding := by
  obtain ⟨_, finding, hFound, hJudge⟩ := (run.walks pass).exists_judge hPlace
  obtain ⟨_, _, _, hImplements⟩ := (run.walks .implementsEdges).exists_judge hPlace
  exact ⟨finding, h.accountsFor hJudge, run.foundOnly hPlace hFound fun _ _ hNe => h.judge_other hNe hImplements⟩

theorem foundOnly_builtInScalar {v : Vertex} (hPlace : inputs.operations[place]? = some (.insertVertex v))
    (hKind : v.kind = .type .scalar) (hName : isBuiltInScalar v.name = true) :
    FoundOnly run.found place .typeVertices (.skipped .builtInScalar) := by
  obtain ⟨_, finding, hFound, hJudge⟩ := (run.walks .typeVertices).exists_judge hPlace
  simp only [Pass.judge, Inputs.judgeTypeVertex, hKind, hName, true_and, if_true] at hJudge
  cases hJudge
  exact run.foundOnly hPlace hFound fun _ _ hNe => Inputs.judge_builtInScalar hKind hNe

theorem accounts : inputs.Accounts run.found run.report where
  complete pass := (run.walks pass).length_eq
  details kind name := by rw [run.details_report, Inputs.journal, run.allFindings_eq]
  once _ _ _ hPlace h := run.exists_foundOnly hPlace h
  builtInScalars _ _ hPlace hKind hName := run.foundOnly_builtInScalar hPlace hKind hName

end CompleteRun

/-- The passes and their events go under fixed names. The events of a new analyzer's run are those of its passes in their
order, and if the run gives a report then its findings account for every operation. -/
theorem accounts_of_analyze (inputs : Inputs) :
    Pass.all.map Pass.title = ["type_vertices", "field_vertices", "type_edges", "implements_edges", "union_members"] ∧
    (∀ pass skip fault operations counts, [Event.passStarted pass, .skipped pass skip, .passCompleted pass,
      .passAborted pass fault, .analysisCompleted operations counts].map Event.title =
        ["Analysis pass started", "Edit operation skipped", "Analysis pass completed", "Analysis pass aborted",
          "Edit operation analysis completed"]) ∧
    ∃ found : Pass → List Finding,
      inputs.Traced found
        ((Analyzer.create inputs.oldGraph inputs.newGraph).analyze inputs.operations inputs.matching).1 ∧
      ∀ report, ((Analyzer.create inputs.oldGraph inputs.newGraph).analyze inputs.operations inputs.matching).1.result =
        .ok report → inputs.Accounts found report := by
  refine ⟨rfl, fun _ _ _ _ _ => rfl, ?_⟩
  have hNew : ((Analyzer.create inputs.oldGraph inputs.newGraph).analyze inputs.operations inputs.matching).1 =
      inputs.analyze := rfl
  rw [hNew]
  cases hResult : inputs.analyze.result with
  | ok report =>
    obtain ⟨run, rfl⟩ := Inputs.analyze_eq_ok_iff.mp hResult
    refine ⟨run.found, run.traced, ?_⟩
    intro report hReport
    cases hReport
    exact run.accounts
  | error failure =>
    obtain ⟨found, hTraced⟩ := Inputs.exists_traced_of_error hResult
    refine ⟨found, hTraced, ?_⟩
    intro report hReport
    cases hReport

end

theorem accounts_of_analyze_sample :
    (∃ found : Pass → List Finding, Sample.inputs.Traced found Sample.inputs.analyze ∧
      Sample.inputs.analyze.result = .ok Sample.report ∧ Sample.inputs.Accounts found Sample.report ∧
      .skipped "type_edges" (SkipReason.toSkip (.fieldAdded "z") (.insertEdge Sample.insertedFieldType)) ∈
        Sample.inputs.analyze.events) ∧
    ∃ found : Pass → List Finding, Sample.Scalars.inputs.Traced found Sample.Scalars.inputs.analyze ∧
      Sample.Scalars.inputs.analyze.result = .ok Sample.Scalars.report ∧
      Sample.Scalars.inputs.Accounts found Sample.Scalars.report ∧
      FoundOnly found 0 .typeVertices (.skipped .builtInScalar) ∧
      .skipped "type_vertices" (SkipReason.toSkip .builtInScalar (.insertVertex Sample.Scalars.float)) ∈
        Sample.Scalars.inputs.analyze.events := by
  obtain ⟨_, _, found, hTraced, hAccounts⟩ := accounts_of_analyze Sample.inputs
  obtain ⟨_, _, found', hTraced', hAccounts'⟩ := accounts_of_analyze Sample.Scalars.inputs
  have hScalars := hAccounts' Sample.Scalars.report Sample.Scalars.analyze_eq
  exact ⟨⟨found, hTraced, Sample.analyze_eq, hAccounts Sample.report Sample.analyze_eq, by decide +kernel⟩,
    found', hTraced', Sample.Scalars.analyze_eq, hScalars,
    hScalars.builtInScalars 0 Sample.Scalars.float rfl rfl (by decide), by decide +kernel⟩

end SchemaChange
