import SchemaChange.Proofs.Schema
import SchemaChange.Proofs.TypeEdges

/-! # Edits that lead from one schema to another

Edits are faithful if their operations, in any order, are those by which two schemas differ, given which vertices are
matched. Then a matched type is recorded neither as added nor as removed, and a new type edge of a matched field or
argument comes with the removal of the old one.
-/
namespace SchemaChange

/-- The ends of an old edge became the ends of a new one. -/
def Matching.Corresponds (m : Matching) (old new : Edge) : Prop :=
  m.target? old.source = some new.source ∧ m.target? old.target = some new.target

instance (m : Matching) (old new : Edge) : Decidable (m.Corresponds old new) :=
  inferInstanceAs (Decidable (_ ∧ _))

/-- An operation has its sources in the old graph and its targets in the new one, and it changes no element into any but
its partner. -/
def Inputs.Admits (inputs : Inputs) : EditOperation → Prop
  | .insertVertex target => target ∈ inputs.newGraph
  | .deleteVertex source => source ∈ inputs.oldGraph
  | .changeVertex source target => (source, target) ∈ inputs.matching.pairs
  | .insertEdge target => target ∈ inputs.newGraph.edges
  | .deleteEdge source => source ∈ inputs.oldGraph.edges
  | .changeEdge source target => source ∈ inputs.oldGraph.edges ∧ target ∈ inputs.newGraph.edges ∧
      inputs.matching.Corresponds source target

instance (inputs : Inputs) : DecidablePred inputs.Admits
  | .insertVertex target => inferInstanceAs (Decidable (target ∈ inputs.newGraph))
  | .deleteVertex source => inferInstanceAs (Decidable (source ∈ inputs.oldGraph))
  | .changeVertex source target => inferInstanceAs (Decidable ((source, target) ∈ inputs.matching.pairs))
  | .insertEdge target => inferInstanceAs (Decidable (target ∈ inputs.newGraph.edges))
  | .deleteEdge source => inferInstanceAs (Decidable (source ∈ inputs.oldGraph.edges))
  | .changeEdge source target => inferInstanceAs (Decidable (source ∈ inputs.oldGraph.edges ∧
      target ∈ inputs.newGraph.edges ∧ inputs.matching.Corresponds source target))

/-- The operations are those by which two schemas differ: the unmatched vertices and the edges without a partner are
inserted or deleted, and at least the named types whose names differ are changed. -/
structure Inputs.Faithful (inputs : Inputs) : Prop where
  old_schema : inputs.oldGraph.IsSchema
  new_schema : inputs.newGraph.IsSchema
  pairs : ∀ pair ∈ inputs.matching.pairs,
    pair.1 ∈ inputs.oldGraph ∧ pair.2 ∈ inputs.newGraph ∧ pair.1.kind = pair.2.kind
  admits : ∀ op ∈ inputs.operations, inputs.Admits op
  inserted : ∀ v ∈ inputs.newGraph.vertices,
    .insertVertex v ∈ inputs.operations ↔ inputs.matching.source? v = none
  deleted : ∀ v ∈ inputs.oldGraph.vertices,
    .deleteVertex v ∈ inputs.operations ↔ inputs.matching.target? v = none
  renamed : ∀ pair ∈ inputs.matching.pairs, pair.1.kind.isNamedType = true → pair.1.name ≠ pair.2.name →
    .changeVertex pair.1 pair.2 ∈ inputs.operations
  edge_inserted : ∀ e ∈ inputs.newGraph.edges,
    .insertEdge e ∈ inputs.operations ↔ ∀ old ∈ inputs.oldGraph.edges, ¬ inputs.matching.Corresponds old e
  edge_deleted : ∀ e ∈ inputs.oldGraph.edges,
    .deleteEdge e ∈ inputs.operations ↔ ∀ new ∈ inputs.newGraph.edges, ¬ inputs.matching.Corresponds e new

section

variable {inputs : Inputs} {ledgers : Ledgers} {kind : TypeKind} {op : EditOperation}

namespace Inputs

namespace Faithful

theorem keepsTypeKind (h : inputs.Faithful) (hOp : op ∈ inputs.operations) : op.KeepsTypeKind := by
  have hAdmits := h.admits op hOp
  cases op with
  | changeVertex source target => exact fun _ => (h.pairs _ hAdmits).2.2
  | _ => trivial

theorem open_of_pair (h : inputs.Faithful)
    (hSeeds : ∀ name change, (ledgers.get kind).change? name = some change ↔
      (name, change) ∈ seeds kind inputs.operations)
    {source target : Vertex} (hPair : (source, target) ∈ inputs.matching.pairs) (hKind : target.kind = .type kind) :
    (ledgers.get kind).Open target.name := by
  obtain ⟨hSource, hTarget, hSame⟩ := h.pairs _ hPair
  have hNamed : target.kind.isNamedType = true := by rw [hKind]; rfl
  constructor
  · -- Only unmatched vertices are inserted, and the type that is inserted under this name would be the target itself.
    intro hAdded
    obtain ⟨v, hInserted, hv, hName, _⟩ := mem_seeds_added_iff.mp ((hSeeds _ _).mp hAdded)
    have hMem : v ∈ inputs.newGraph := h.admits _ hInserted
    have hEq := h.new_schema.names_distinct target hTarget v hMem hNamed (hv.trans hKind.symm) hName
    have hUnmatched := (h.inserted v hMem).mp hInserted
    rw [hEq, Matching.source?_eq_some_iff.mpr hPair] at hUnmatched
    cases hUnmatched
  · intro hRemoved
    obtain ⟨v, hDeleted, hv, hName⟩ := mem_seeds_removed_iff.mp ((hSeeds _ _).mp hRemoved)
    have hMem : v ∈ inputs.oldGraph := h.admits _ hDeleted
    by_cases hRenamed : source.name = target.name
    -- The vertex deleted under the name would be the source, which is matched.
    · have hEq := h.old_schema.names_distinct source hSource v hMem (hSame ▸ hNamed)
        (hv.trans (hKind.symm.trans hSame.symm)) (hName.trans hRenamed.symm)
      have hUnmatched := (h.deleted v hMem).mp hDeleted
      rw [hEq, Matching.target?_eq_some_iff.mpr hPair] at hUnmatched
      cases hUnmatched
    -- A type with another name has a record of its change, and the name has room for one record only.
    · have hChanged := h.renamed _ hPair (hSame ▸ hNamed) hRenamed
      have hSeed : (target.name, .modified []) ∈ seeds kind inputs.operations :=
        mem_seeds_modified_iff.mpr ⟨rfl, source, target, hChanged, hKind, rfl⟩
      cases hRemoved.symm.trans ((hSeeds _ _).mpr hSeed)

/-- If a matched field or argument has a new type edge, its old one is removed, since no two type edges leave it. -/
theorem exists_removedTypeEdge (h : inputs.Faithful) {e : Edge} {old : Vertex}
    (hOp : .insertEdge e ∈ inputs.operations) (hLabel : isTypeLabel e.label = true)
    (hSource : inputs.matching.source? e.source = some old) :
    ∃ removed, removedTypeEdge? inputs.operations old = some removed := by
  have hEdge : e ∈ inputs.newGraph.edges := h.admits _ hOp
  have hPair := Matching.source?_eq_some_iff.mp hSource
  obtain ⟨hOld, _, hKind⟩ := h.pairs _ hPair
  have hSourceKind := ((h.new_schema.type_label_iff e hEdge).mp hLabel).1
  rw [← hKind] at hSourceKind
  obtain ⟨oldEdge, hOldEdge, rfl, hOldLabel⟩ := h.old_schema.exists_typeEdge hOld hSourceKind
  -- A new edge with the same ends would be a second type edge of the same vertex, hence the inserted one.
  have hDeleted : .deleteEdge oldEdge ∈ inputs.operations := by
    refine (h.edge_deleted oldEdge hOldEdge).mpr fun new hNew hCorresponds => ?_
    have hNewSource : new.source = e.source :=
      Option.some.inj (hCorresponds.1.symm.trans (Matching.target?_eq_some_iff.mpr hPair))
    have hTargetKind := (h.pairs _ (Matching.target?_eq_some_iff.mp hCorresponds.2)).2.2
    have hNewLabel : isTypeLabel new.label = true := by
      refine (h.new_schema.type_label_iff new hNew).mpr ⟨?_, ?_⟩
      · rw [hNewSource]
        exact ((h.new_schema.type_label_iff e hEdge).mp hLabel).1
      · rw [← hTargetKind]
        exact ((h.old_schema.type_label_iff oldEdge hOldEdge).mp hOldLabel).2
    rw [h.new_schema.typeEdge_unique hEdge hLabel hNew hNewLabel hNewSource] at hCorresponds
    exact (h.edge_inserted e hEdge).mp hOp oldEdge hOldEdge hCorresponds
  refine Option.isSome_iff_exists.mp (List.findSome?_isSome_iff.mpr ⟨_, hDeleted, ?_⟩)
  simp [hOldLabel]

theorem exists_pairedLabels (h : inputs.Faithful) {e : Edge} {old : Vertex} (op : EditOperation)
    (hOp : .insertEdge e ∈ inputs.operations) (hLabel : isTypeLabel e.label = true)
    (hSource : inputs.matching.source? e.source = some old) :
    ∃ removed, inputs.pairedTypeEdge e.source op = .ok removed ∧
      (∃ before, TypeLabel.decode? removed.label = some before) ∧ ∃ after, TypeLabel.decode? e.label = some after := by
  obtain ⟨removed, hRemoved⟩ := h.exists_removedTypeEdge hOp hLabel hSource
  obtain ⟨_, _, _, _, hRemovedLabel, _⟩ := removedTypeEdge?_eq_some_iff.mp hRemoved
  exact ⟨removed, pairedTypeEdge_eq_ok_iff.mpr ⟨old, hSource, hRemoved⟩, exists_decode? hRemovedLabel,
    exists_decode? hLabel⟩

theorem exists_changedLabels (h : inputs.Faithful) {source target : Edge}
    (hOp : .changeEdge source target ∈ inputs.operations) (hLabel : isTypeLabel target.label = true) :
    (∃ before, TypeLabel.decode? source.label = some before) ∧ ∃ after, TypeLabel.decode? target.label = some after := by
  obtain ⟨hSource, hTarget, hCorresponds⟩ := h.admits _ hOp
  have hFrom := (h.pairs _ (Matching.target?_eq_some_iff.mp hCorresponds.1)).2.2
  have hTo := (h.pairs _ (Matching.target?_eq_some_iff.mp hCorresponds.2)).2.2
  have hSourceLabel : isTypeLabel source.label = true := by
    rw [h.old_schema.type_label_iff source hSource, hFrom, hTo]
    exact (h.new_schema.type_label_iff target hTarget).mp hLabel
  exact ⟨exists_decode? hSourceLabel, exists_decode? hLabel⟩

end Faithful

end Inputs

end

namespace Sample

theorem oldGraph_isSchema : inputs.oldGraph.IsSchema where
  names_distinct := by decide +kernel
  field_owner := by decide +kernel
  argument_owner := by decide +kernel
  one_type := by decide +kernel
  type_label_iff := by decide +kernel
  implementer := by decide +kernel

theorem newGraph_isSchema : inputs.newGraph.IsSchema where
  names_distinct := by decide +kernel
  field_owner := by decide +kernel
  argument_owner := by decide +kernel
  one_type := by decide +kernel
  type_label_iff := by decide +kernel
  implementer := by decide +kernel

theorem faithful : inputs.Faithful where
  old_schema := oldGraph_isSchema
  new_schema := newGraph_isSchema
  pairs := by decide +kernel
  admits := by decide +kernel
  inserted := by decide +kernel
  deleted := by decide +kernel
  renamed := by decide +kernel
  edge_inserted := by decide +kernel
  edge_deleted := by decide +kernel

end Sample

end SchemaChange
