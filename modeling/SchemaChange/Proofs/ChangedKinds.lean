import SchemaChange.Proofs.FieldVertices
import SchemaChange.Proofs.ReplacedTypeEdge

/-! # Vertices that change their kind

A vertex that is changed into a named type must have been of that kind before, for otherwise the first pass fails. No pass
looks at the kind that a field, an argument or a directive had before: a field with a new name counts as renamed, whatever
it was.
-/
namespace SchemaChange

namespace Inputs

variable {inputs : Inputs} {report : Report} {source source' target : Vertex} {earlier later : List EditOperation}

/-- Of a vertex that is changed into no named type only the old name is looked at. -/
theorem judge_changeVertex_of_name (hName : source'.name = source.name) (hNamed : target.kind.isNamedType = false)
    (pass : Pass) (ledgers : Ledgers) :
    pass.judge inputs ledgers (.changeVertex source' target) = pass.judge inputs ledgers (.changeVertex source target) := by
  cases pass with
  | typeVertices =>
    cases hKind : target.kind with
    | type => simp [hKind, VertexKind.isNamedType] at hNamed
    | field | argument | directive => simp only [Pass.judge, judgeTypeVertex, hKind]
  | fieldVertices => simp only [Pass.judge, judgeFieldVertex, judgeFieldChanged, hName]
  | typeEdges | implementsEdges | unionMembers => rfl

theorem removedTypeEdge?_changeVertex (v : Vertex) :
    removedTypeEdge? (earlier ++ .changeVertex source target :: later) v = removedTypeEdge? (earlier ++ later) v :=
  removedTypeEdge?_append_cons fun _ hNone => by cases hNone

/-- The report is the same for any old vertex of the name. -/
theorem result_eq_ok_of_name (hOperations : inputs.operations = earlier ++ .changeVertex source target :: later)
    (hName : source'.name = source.name) (hNamed : target.kind.isNamedType = false)
    (h : inputs.analyze.result = .ok report) :
    (inputs.withOperations (earlier ++ .changeVertex source' target :: later)).analyze.result = .ok report := by
  obtain ⟨run, rfl⟩ := analyze_eq_ok_iff.mp h
  -- The change removes no edge, so for the others the two lists are the same.
  have hRemoved : ∀ v, removedTypeEdge? (earlier ++ .changeVertex source' target :: later) v =
      removedTypeEdge? inputs.operations v := by
    intro v
    rw [hOperations, removedTypeEdge?_changeVertex, removedTypeEdge?_changeVertex]
  refine run.result_eq fun pass => ?_
  have hJudge := Pass.judge_withOperations hRemoved pass
  have hWalks := run.walks pass
  rw [hOperations, ← List.singleton_append] at hWalks
  change ∃ found, pass.Walks _ _ (earlier ++ ([.changeVertex source' target] ++ later)) found _
  refine hWalks.replace (fun op _ ledgers finding hFinding => (hJudge ledgers op).trans hFinding) ?_
  intro before middle _ found _ hChanged
  cases hChanged with
  | cons hFinding hEnter hRest =>
    cases hRest
    rw [← judge_changeVertex_of_name hName hNamed, ← hJudge] at hFinding
    exact ⟨_, .cons hFinding (Ledgers.enter_eq_ok_of_enter hEnter _) .nil⟩

theorem result_eq_ok_iff_of_name (hOperations : inputs.operations = earlier ++ .changeVertex source target :: later)
    (hName : source'.name = source.name) (hNamed : target.kind.isNamedType = false) :
    inputs.analyze.result = .ok report ↔
      (inputs.withOperations (earlier ++ .changeVertex source' target :: later)).analyze.result = .ok report := by
  refine ⟨result_eq_ok_of_name hOperations hName hNamed, fun h => ?_⟩
  have hBack := result_eq_ok_of_name rfl hName.symm hNamed h
  rw [← hOperations] at hBack
  exact hBack

/-- A list with a vertex that gets to be a named type, and was none of the kind, is refused: for such a vertex, or for a
name that is asked for twice. -/
theorem fails_of_namedType (hOp : .changeVertex source target ∈ inputs.operations) (hKind : source.kind ≠ target.kind)
    (hNamed : target.kind.isNamedType = true) :
    ∃ failure, inputs.analyze.result = .error failure ∧ ∃ op ∈ inputs.operations,
      (¬ op.KeepsTypeKind ∧ failure = ⟨.kindChanged, some op⟩) ∨
      ∃ kind name existing new, failure = ⟨.alreadyRecorded kind name existing new, some op⟩ := by
  cases hWalk : (Pass.typeVertices.walk inputs Ledgers.empty inputs.operations).2 with
  | ok seeded => exact absurd (keepsTypeKind_of_walks (Pass.walk_eq_ok_iff.mp hWalk) _ hOp hNamed) hKind
  | error failure =>
    refine ⟨failure, analyze_eq_error_of_walk hWalk, ?_⟩
    obtain ⟨past, op, future, hSplit, hFailure⟩ := kindChanged_or_alreadyRecorded_of_walk hWalk
    refine ⟨op, by simp [hSplit], hFailure.imp_right ?_⟩
    rintro ⟨kind, name, existing, new, _, _, hRecorded⟩
    exact ⟨kind, name, existing, new, hRecorded⟩

/-- A field with a new name is reported as renamed, unless its container was added. -/
theorem exists_renamed (h : inputs.analyze.result = .ok report) (hOp : .changeVertex source target ∈ inputs.operations)
    (hField : target.kind = .field) (hName : source.name ≠ target.name) :
    ∃ c, inputs.newGraph.containerOf target = .ok c ∧ (report.Adds c ∨
      .member c.kind (.fieldRenamed source.name target.name) ∈ report.details c.kind.toTypeKind c.name) := by
  obtain ⟨run, rfl⟩ := analyze_eq_ok_iff.mp h
  obtain ⟨c, _, _, _, hTells⟩ := run.exists_tellsOfField hOp ⟨hField, hName⟩
  have hContainer : inputs.newGraph.containerOf target = .ok c := by
    cases hTells
    assumption
  refine ⟨c, hContainer, or_iff_not_imp_left.mpr fun hAdds => ?_⟩
  have hGives : inputs.GivesField run.report (.changeVertex source target) c c.name
      [.fieldRenamed source.name target.name] := ⟨_, _, .renamed hField hName hContainer, hAdds, rfl⟩
  exact (run.mem_details_fieldVertices_iff.mpr ⟨_, hOp, c, _, hGives, rfl, _, List.mem_singleton_self _, rfl⟩).1

/-- A changed vertex that had another kind is refused if it gets to be a named type. Otherwise it is taken for one that had
the new kind already, and a field with a new name is reported as renamed. -/
theorem analyze_of_kindChanged (hOperations : inputs.operations = earlier ++ .changeVertex source target :: later)
    (hKind : source.kind ≠ target.kind) :
    (target.kind.isNamedType = true → ∃ failure, inputs.analyze.result = .error failure ∧ ∃ op ∈ inputs.operations,
      (¬ op.KeepsTypeKind ∧ failure = ⟨.kindChanged, some op⟩) ∨
      ∃ kind name existing new, failure = ⟨.alreadyRecorded kind name existing new, some op⟩) ∧
    (target.kind.isNamedType = false → ∀ report, inputs.analyze.result = .ok report ↔
      (inputs.withOperations (earlier ++ .changeVertex { source with kind := target.kind } target :: later)).analyze.result
        = .ok report) ∧
    (target.kind = .field → source.name ≠ target.name → ∀ report, inputs.analyze.result = .ok report →
      ∃ c, inputs.newGraph.containerOf target = .ok c ∧ (report.Adds c ∨
        .member c.kind (.fieldRenamed source.name target.name) ∈ report.details c.kind.toTypeKind c.name)) := by
  have hOp : .changeVertex source target ∈ inputs.operations := by simp [hOperations]
  refine ⟨fails_of_namedType hOp hKind, fun hNamed report => ?_, fun hField hName report h =>
    exists_renamed h hOp hField hName⟩
  exact result_eq_ok_iff_of_name hOperations rfl hNamed

end Inputs

namespace Sample.Promotion

def oldFoo : Vertex := ⟨0, "Foo", .type .object, "Foo"⟩
def oldField : Vertex := ⟨1, "Foo.x", .field, "x"⟩
def oldArgument : Vertex := ⟨2, "Foo.x.a", .argument, "a"⟩
def newFoo : Vertex := ⟨3, "Foo", .type .object, "Foo"⟩
def newField : Vertex := ⟨4, "Foo.x", .field, "x"⟩
def promotedField : Vertex := ⟨5, "Foo.b", .field, "b"⟩

/-- An argument of one field is changed into another field of the same object. -/
def inputs : Inputs where
  oldGraph := {
    vertices := [oldFoo, oldField, oldArgument]
    edges := [⟨0, oldFoo, oldField, ""⟩, ⟨1, oldField, oldArgument, ""⟩]
    ids_nodup := by decide
    ends_nodup := by decide
    ends_mem := by decide }
  newGraph := {
    vertices := [newFoo, newField, promotedField]
    edges := [⟨2, newFoo, newField, ""⟩, ⟨3, newFoo, promotedField, ""⟩]
    ids_nodup := by decide
    ends_nodup := by decide
    ends_mem := by decide }
  matching := {
    pairs := [(oldFoo, newFoo), (oldField, newField), (oldArgument, promotedField)]
    sources_nodup := by decide
    targets_nodup := by decide }
  operations := [.changeVertex oldArgument promotedField]

def report : Report where
  object := [("Foo", ⟨.object, "Foo", .modified [.member .object (.fieldRenamed "a" "b")]⟩)]
  interface := []
  union := []
  enum := []
  inputObject := []
  scalar := []

theorem analyze_eq : inputs.analyze.result = .ok report := rfl

end Sample.Promotion

/-- The argument is taken for a field of its name; as an object it is refused. -/
theorem Inputs.analyze_of_kindChanged_sample :
    Sample.Promotion.oldArgument.kind ≠ Sample.Promotion.promotedField.kind ∧
    (Sample.Promotion.inputs.withOperations [.changeVertex { Sample.Promotion.oldArgument with kind := .field }
      Sample.Promotion.promotedField]).analyze.result = .ok Sample.Promotion.report ∧
    ∃ failure, (Sample.Promotion.inputs.withOperations [.changeVertex Sample.Promotion.oldArgument
      Sample.Promotion.newFoo]).analyze.result = .error failure := by
  have hField : Sample.Promotion.oldArgument.kind ≠ Sample.Promotion.promotedField.kind := by decide
  have hObject : Sample.Promotion.oldArgument.kind ≠ Sample.Promotion.newFoo.kind := by decide
  obtain ⟨_, hSame, _⟩ := @analyze_of_kindChanged Sample.Promotion.inputs _ _ [] [] rfl hField
  obtain ⟨hFails, _⟩ := @analyze_of_kindChanged (Sample.Promotion.inputs.withOperations
    [.changeVertex _ Sample.Promotion.newFoo]) _ _ [] [] rfl hObject
  obtain ⟨failure, hFailure, _⟩ := hFails rfl
  exact ⟨hField, (hSame rfl _).mp Sample.Promotion.analyze_eq, failure, hFailure⟩

/-- A report may say that a field was renamed which was an argument before. -/
theorem Sample.Promotion.exists_fieldRenamed :
    .changeVertex oldArgument promotedField ∈ inputs.operations ∧ oldArgument.kind ≠ promotedField.kind ∧
    ∃ report, inputs.analyze.result = .ok report ∧
      .member .object (.fieldRenamed oldArgument.name promotedField.name) ∈ report.details .object "Foo" :=
  ⟨by decide, by decide, report, analyze_eq, by decide⟩

end SchemaChange
