import SchemaChange.Proofs.Affiliations

/-! # Whose turn an operation is

Each operation concerns one pass at most: a vertex is looked at by its kind, an edge by its label and the kind of the
vertex that it leaves. To every other pass the operation is nothing, if the run does not fail at it.
-/
namespace SchemaChange

/-- The pass whose turn an operation is, if any. An implementation comes before a member of a union, for at an edge that
is both the fourth pass fails. -/
def EditOperation.turn? : EditOperation → Option Pass
  | insertVertex v | deleteVertex v | changeVertex _ v =>
    match v.kind with
    | .type _ => some .typeVertices
    | .field | .argument => some .fieldVertices
    | .directive => none
  | insertEdge edge =>
    if isImplementsLabel edge.label then some .implementsEdges
    else if edge.source.kind = .type .union then some .unionMembers
    else if isTypeLabel edge.label ∧ (edge.source.kind = .field ∨ edge.source.kind = .argument) then some .typeEdges
    else none
  | deleteEdge edge =>
    if isImplementsLabel edge.label then some .implementsEdges
    else if edge.source.kind = .type .union then some .unionMembers
    else none
  | changeEdge _ edge =>
    if isTypeLabel edge.label ∧ (edge.source.kind = .field ∨ edge.source.kind = .argument) then some .typeEdges
    else none

namespace Inputs

variable {inputs : Inputs} {ledgers before : Ledgers} {op : EditOperation} {finding : Finding} {edge : Edge}

theorem judgeTypeVertex_eq_nothing (h : op.turn? ≠ some .typeVertices) : judgeTypeVertex op = .ok .nothing := by
  cases op with
  | insertVertex v | deleteVertex v | changeVertex _ v =>
    cases hKind : v.kind with
    | type => simp [EditOperation.turn?, hKind] at h
    | field | argument | directive => simp only [judgeTypeVertex, hKind]
  | insertEdge | deleteEdge | changeEdge => rfl

theorem judgeFieldVertex_eq_nothing (h : op.turn? ≠ some .fieldVertices) :
    inputs.judgeFieldVertex ledgers op = .ok .nothing := by
  cases op with
  | insertVertex v | deleteVertex v | changeVertex _ v =>
    cases hKind : v.kind with
    | type | directive => simp [judgeFieldVertex, hKind]
    | field | argument => simp [EditOperation.turn?, hKind] at h
  | insertEdge | deleteEdge | changeEdge => rfl

theorem judgeTypeEdge_eq_nothing (h : op.turn? ≠ some .typeEdges) : inputs.judgeTypeEdge ledgers op = .ok .nothing := by
  cases op with
  | insertVertex | deleteVertex | changeVertex | deleteEdge => rfl
  | insertEdge edge | changeEdge _ edge =>
    by_cases hLabel : isTypeLabel edge.label = true
    · have hImplements := isImplementsLabel_eq_false hLabel
      cases hKind : edge.source.kind with
      | type | directive => simp only [judgeTypeEdge, hKind, ite_self]
      | field | argument => simp [EditOperation.turn?, hLabel, hKind, hImplements] at h
    · exact if_neg hLabel

theorem judgeImplementsEdge_eq_nothing (h : op.turn? ≠ some .implementsEdges) :
    inputs.judgeImplementsEdge ledgers op = .ok .nothing := by
  cases op with
  | insertVertex | deleteVertex | changeVertex | changeEdge => rfl
  | insertEdge edge | deleteEdge edge =>
    by_cases hLabel : isImplementsLabel edge.label = true
    · simp [EditOperation.turn?, hLabel] at h
    · exact if_neg hLabel

/-- The edge of an implementation that is judged leaves no union. -/
theorem source_kind_ne_union (hEdge : op.placedEdge? = some edge) (hLabel : isImplementsLabel edge.label = true)
    (h : inputs.judgeImplementsEdge ledgers op = .ok finding) : edge.source.kind ≠ .type .union := by
  obtain ⟨c, _, _, _, hSource, _⟩ := exists_tellsOfImplements hEdge hLabel h
  rw [← hSource, c.kind_eq]
  cases c.kind <;> simp [ContainerKind.toTypeKind]

theorem judgeUnionMember_eq_nothing (h : op.turn? ≠ some .unionMembers)
    (hImplements : inputs.judgeImplementsEdge before op = .ok finding) :
    inputs.judgeUnionMember ledgers op = .ok .nothing := by
  cases op with
  | insertVertex | deleteVertex | changeVertex | changeEdge => rfl
  | insertEdge edge | deleteEdge edge =>
    by_cases hKind : edge.source.kind = .type .union
    · by_cases hLabel : isImplementsLabel edge.label = true
      · exact absurd hKind (source_kind_ne_union rfl hLabel hImplements)
      · simp [EditOperation.turn?, hKind, hLabel] at h
    · exact if_neg hKind

/-- To a pass whose turn it is not, an operation is nothing, if the fourth pass does not fail at it. -/
theorem judge_eq_nothing {pass : Pass} (h : op.turn? ≠ some pass)
    (hImplements : inputs.judgeImplementsEdge before op = .ok finding) :
    pass.judge inputs ledgers op = .ok .nothing := by
  cases pass with
  | typeVertices => exact judgeTypeVertex_eq_nothing h
  | fieldVertices => exact judgeFieldVertex_eq_nothing h
  | typeEdges => exact judgeTypeEdge_eq_nothing h
  | implementsEdges => exact judgeImplementsEdge_eq_nothing h
  | unionMembers => exact judgeUnionMember_eq_nothing h hImplements

end Inputs

end SchemaChange
