import SchemaChange.Proofs.Rearrangement
import SchemaChange.Proofs.Resolution

/-! # The order of a document's lists does not matter

Graphs that list their elements in different orders give the same answers to every question that the analysis asks, and
so do their matchings. The run is then the same as a whole: its events, its report or the text of its failure.
-/
namespace SchemaChange

namespace GraphSpec.Rearranged

variable {spec spec' : GraphSpec} (h : spec.Rearranged spec')
include h

theorem mem_ids_iff (id : String) : id ∈ spec'.ids ↔ id ∈ spec.ids := (h.vertices.map (·.id)).mem_iff.symm

theorem mem_ends_iff (ends : String × String) : ends ∈ spec'.ends ↔ ends ∈ spec.ends :=
  (h.edges.map (·.ends)).mem_iff.symm

theorem names_iff (onVertices : Bool) (ref : ElementRef) : spec'.Names onVertices ref ↔ spec.Names onVertices ref := by
  cases ref with
  | vertex id => exact and_congr_right fun _ => h.mem_ids_iff id
  | edge source target => exact and_congr_right fun _ => h.mem_ends_iff (source, target)

theorem consistent (hSpec : spec.Consistent) : spec'.Consistent where
  ids_nodup := (h.vertices.map VertexSpec.id).nodup_iff.mp hSpec.ids_nodup
  edges_agree := by
    obtain ⟨hEnds, hNodup⟩ := hSpec.edges_agree
    refine ⟨fun e hMem => ?_, (h.edges.map (·.ends)).nodup_iff.mp hNodup⟩
    obtain ⟨hSource, hTarget⟩ := hEnds e (h.edges.mem_iff.mpr hMem)
    exact ⟨(h.mem_ids_iff _).mpr hSource, (h.mem_ids_iff _).mpr hTarget⟩

end GraphSpec.Rearranged

theorem Document.Rearranged.consistent {document document' : Document} (h : document.Rearranged document')
    (hDocument : document.Consistent) : document'.Consistent where
  oldGraph := h.oldGraph.consistent hDocument.oldGraph
  newGraph := h.newGraph.consistent hDocument.newGraph
  matching := by
    obtain ⟨hIds, hOneToOne⟩ := hDocument.matching
    constructor
    · intro m hMem
      obtain ⟨hSource, hTarget⟩ := hIds m (h.matching.mem_iff.mpr hMem)
      exact ⟨(h.oldGraph.mem_ids_iff _).mpr hSource, (h.newGraph.mem_ids_iff _).mpr hTarget⟩
    · intro m hMem m' hMem'
      exact hOneToOne m (h.matching.mem_iff.mpr hMem) m' (h.matching.mem_iff.mpr hMem')
  operations := by
    intro spec hSpec
    obtain ⟨hSource, hTarget, hHasSource, hHasTarget⟩ := hDocument.operations spec (h.operations ▸ hSpec)
    exact ⟨fun ref hRef => (h.oldGraph.names_iff _ ref).mpr (hSource ref hRef),
      fun ref hRef => (h.newGraph.names_iff _ ref).mpr (hTarget ref hRef), hHasSource, hHasTarget⟩

/-- Two graphs with the same vertices and edges, perhaps in different orders. -/
structure SchemaGraph.Rearranged (g g' : SchemaGraph) : Prop where
  vertices : g.vertices.Perm g'.vertices
  edges : g.edges.Perm g'.edges

namespace Resolve

variable {side : Side} {g g' : SchemaGraph} {spec spec' : GraphSpec}

theorem stamp_of_graph (h : graph side spec = .ok g) : ∀ e ∈ g.edges, e.stamp = side.stamp := by
  rw [graph, bind_eq_ok_iff] at h
  obtain ⟨declared, hVertices, hEdges⟩ := h
  have hDeclared := (admits_addVertex side).made_of_foldlM (verticesMade_empty side) hVertices
  have hStart : ∀ e ∈ declared.edges, e.stamp = side.stamp := by simp [hDeclared.2]
  clear hVertices hDeclared
  generalize spec.edges = edges at hEdges
  induction edges generalizing declared with
  | nil =>
    cases hEdges
    exact hStart
  | cons e edges ih =>
    rw [List.foldlM_cons, bind_eq_ok_iff] at hEdges
    obtain ⟨next, hAdd, hRest⟩ := hEdges
    refine ih next ?_ hRest
    simp only [addEdge, bind_eq_ok_iff, mapError_eq_ok_iff] at hAdd
    obtain ⟨source, _, target, _, hAdd⟩ := hAdd
    rw [(SchemaGraph.lists_of_addEdge hAdd).2]
    intro e' hMem
    rcases List.mem_append.mp hMem with hOld | hNew
    · exact hStart e' hOld
    · rw [List.mem_singleton.mp hNew]

/-- The edges of a resolved graph are those that its description has between its vertices. -/
theorem mem_edges_iff (h : graph side spec = .ok g) {e : Edge} :
    e ∈ g.edges ↔ e.stamp = side.stamp ∧ e.source ∈ g ∧ e.target ∈ g ∧ e.spec ∈ spec.edges := by
  rw [← (lists_of_graph h).2]
  constructor
  · intro hMem
    exact ⟨stamp_of_graph h e hMem, (g.ends_mem e hMem).1, (g.ends_mem e hMem).2, List.mem_map_of_mem hMem⟩
  · rintro ⟨hStamp, hSource, hTarget, hSpec⟩
    obtain ⟨e', hMem, hSame⟩ := List.mem_map.mp hSpec
    obtain ⟨hSource', hTarget'⟩ := g.ends_mem e' hMem
    have hEq : e' = e := by
      obtain ⟨stamp, source, target, label⟩ := e
      obtain ⟨stamp', source', target', label'⟩ := e'
      simp only [Edge.spec, EdgeSpec.mk.injEq] at hSame
      obtain ⟨hSourceId, hTargetId, rfl⟩ := hSame
      obtain rfl := SchemaGraph.eq_of_id_eq hSource hSource' hSourceId
      obtain rfl := SchemaGraph.eq_of_id_eq hTarget hTarget' hTargetId
      obtain rfl := (stamp_of_graph h _ hMem).trans hStamp.symm
      rfl
    exact hEq ▸ hMem

theorem nodup_edges (g : SchemaGraph) : g.edges.Nodup := List.Nodup.of_map _ g.ends_nodup

theorem rearranged_of_graph (h : graph side spec = .ok g) (h' : graph side spec' = .ok g')
    (hSpec : spec.Rearranged spec') : g.Rearranged g' := by
  have hVertices : g.vertices.Perm g'.vertices := by
    rw [(lists_of_graph h).1, (lists_of_graph h').1]
    exact hSpec.vertices.map _
  have hMem : ∀ v, v ∈ g ↔ v ∈ g' := fun _ => hVertices.mem_iff
  refine ⟨hVertices, (List.perm_ext_iff_of_nodup (nodup_edges g) (nodup_edges g')).mpr fun e => ?_⟩
  rw [mem_edges_iff h, mem_edges_iff h', hMem, hMem, hSpec.edges.mem_iff]

end Resolve

/-- A sole element is alone in every order, and otherwise the number of elements is the same. -/
theorem SchemaGraph.soleOf_eq_of_perm {α ε : Type} {unexpected : Nat → ε} {owners owners' : List α} (h : owners.Perm owners') :
    soleOf unexpected owners' = soleOf unexpected owners := by
  match owners, owners', h with
  | [], _, h => rw [List.nil_perm.mp h]
  | [owner], _, h => rw [List.singleton_perm.mp h]
  | _ :: _ :: _, [], h => exact absurd h.length_eq (by simp)
  | _ :: _ :: _, [_], h => exact absurd h.length_eq (by simp)
  | _ :: _ :: _, _ :: _ :: _, h =>
    rw [soleOf, soleOf, h.length_eq]
    · simp
    · simp

namespace SchemaGraph.Rearranged

variable {g g' : SchemaGraph} (h : g.Rearranged g')
include h

theorem mem_iff (v : Vertex) : v ∈ g' ↔ v ∈ g := h.vertices.mem_iff.symm

theorem vertex?_eq : g'.vertex? = g.vertex? := by
  funext id
  exact (find?_eq_of_perm h.vertices g.ids_nodup id).symm

theorem edge?_eq : g'.edge? = g.edge? := by
  funext source target
  rw [edge?, edge?, edgeAt?, edgeAt?, find?_eq_of_perm h.edges g.ends_nodup]

theorem edgesInto_perm (v : Vertex) : (g.edgesInto v).Perm (g'.edgesInto v) := h.edges.filter _

theorem containerOf_eq : g'.containerOf = g.containerOf := by
  funext v
  rw [containerOf, containerOf, soleOf_eq_of_perm ((h.edgesInto_perm v).filterMap _)]

theorem argumentOwner_eq : g'.argumentOwner = g.argumentOwner := by
  funext v
  rw [argumentOwner, argumentOwner, soleOf_eq_of_perm ((h.edgesInto_perm v).filterMap _)]

theorem vertex_eq (side : Side) : Resolve.vertex side g' = Resolve.vertex side g := by
  funext id
  rw [Resolve.vertex, Resolve.vertex, h.vertex?_eq]

theorem vertexRef_eq (side : Side) : Resolve.vertexRef side g' = Resolve.vertexRef side g := by
  funext ref
  unfold Resolve.vertexRef
  rw [h.vertex_eq]

theorem edgeRef_eq (side : Side) : Resolve.edgeRef side g' = Resolve.edgeRef side g := by
  funext ref
  unfold Resolve.edgeRef
  rw [h.vertex_eq, h.edge?_eq]

end SchemaGraph.Rearranged

/-- Inputs that answer every question of the analysis alike. -/
structure Inputs.SameAnswers (inputs inputs' : Inputs) : Prop where
  oldContainerOf : inputs'.oldGraph.containerOf = inputs.oldGraph.containerOf
  newContainerOf : inputs'.newGraph.containerOf = inputs.newGraph.containerOf
  oldArgumentOwner : inputs'.oldGraph.argumentOwner = inputs.oldGraph.argumentOwner
  newArgumentOwner : inputs'.newGraph.argumentOwner = inputs.newGraph.argumentOwner
  target? : inputs'.matching.target? = inputs.matching.target?
  source? : inputs'.matching.source? = inputs.matching.source?
  operations : inputs'.operations = inputs.operations

namespace Inputs.SameAnswers

variable {inputs inputs' : Inputs} (h : inputs.SameAnswers inputs')
include h

theorem currentName_eq : inputs'.matching.currentName = inputs.matching.currentName := by
  funext v
  rw [Matching.currentName, Matching.currentName, h.target?]

theorem pairedTypeEdge_eq : inputs'.pairedTypeEdge = inputs.pairedTypeEdge := by
  funext v op
  rw [pairedTypeEdge, pairedTypeEdge, h.source?, h.operations]

theorem containers_eq : container inputs'.oldGraph = container inputs.oldGraph ∧
    container inputs'.newGraph = container inputs.newGraph := by
  constructor
  · funext v
    rw [container, container, h.oldContainerOf]
  · funext v
    rw [container, container, h.newContainerOf]

theorem argumentOwners_eq : argumentOwner inputs'.oldGraph = argumentOwner inputs.oldGraph ∧
    argumentOwner inputs'.newGraph = argumentOwner inputs.newGraph := by
  constructor
  · funext v
    rw [argumentOwner, argumentOwner, h.oldArgumentOwner]
  · funext v
    rw [argumentOwner, argumentOwner, h.newArgumentOwner]

theorem judge_eq (pass : Pass) (ledgers : Ledgers) (op : EditOperation) :
    pass.judge inputs' ledgers op = pass.judge inputs ledgers op := by
  obtain ⟨hOldContainer, hNewContainer⟩ := h.containers_eq
  obtain ⟨hOldOwner, hNewOwner⟩ := h.argumentOwners_eq
  cases pass with
  | typeVertices => rfl
  | fieldVertices =>
    simp only [Pass.judge, judgeFieldVertex, judgeFieldChanged, judgeFieldAdded, judgeFieldRemoved,
      judgeArgumentRemoved, hOldContainer, hNewContainer, hOldOwner, h.target?, h.currentName_eq]
  | typeEdges =>
    simp only [Pass.judge, judgeTypeEdge, judgeFieldTypeInserted, judgeArgumentTypeInserted, judgeFieldTypeChanged,
      judgeArgumentTypeChanged, hNewContainer, hNewOwner, h.source?, h.pairedTypeEdge_eq]
  | implementsEdges => simp only [Pass.judge, judgeImplementsEdge, h.currentName_eq]
  | unionMembers => simp only [Pass.judge, judgeUnionMember, h.currentName_eq]

theorem walk_eq (pass : Pass) (ledgers : Ledgers) (operations : List EditOperation) :
    pass.walk inputs' ledgers operations = pass.walk inputs ledgers operations := by
  induction operations generalizing ledgers with
  | nil => rfl
  | cons op operations ih => simp only [Pass.walk, Pass.step, h.judge_eq, ih]

theorem runAll_eq (ledgers : Ledgers) (passes : List Pass) :
    Pass.runAll inputs' ledgers passes = Pass.runAll inputs ledgers passes := by
  induction passes generalizing ledgers with
  | nil => rfl
  | cons pass passes ih => simp only [Pass.runAll, Pass.run, h.operations, h.walk_eq, ih]

theorem analyze_eq : inputs'.analyze = inputs.analyze := by
  rw [analyze, analyze, h.runAll_eq, h.operations]

end Inputs.SameAnswers

namespace Document

variable {document document' : Document} {inputs inputs' : Inputs}

/-- A matching has the pairs of its document's entries, in whatever order these come. -/
theorem target?_eq_of_rearranged (h : document.Rearranged document') (hOld : inputs.oldGraph.Rearranged inputs'.oldGraph)
    (hNew : inputs.newGraph.Rearranged inputs'.newGraph) (hInputs : inputs.Realizes document)
    (hInputs' : inputs'.Realizes document') : inputs'.matching.target? = inputs.matching.target? ∧
      inputs'.matching.source? = inputs.matching.source? := by
  constructor
  · funext source
    apply Option.ext
    intro target
    rw [hInputs.target?_iff, hInputs'.target?_iff, hOld.mem_iff, hNew.mem_iff, h.matching.mem_iff]
  · funext target
    apply Option.ext
    intro source
    rw [hInputs.source?_iff, hInputs'.source?_iff, hOld.mem_iff, hNew.mem_iff, h.matching.mem_iff]

theorem operation_eq_of_rearranged {oldGraph newGraph oldGraph' newGraph' : SchemaGraph}
    (hOld : oldGraph.Rearranged oldGraph') (hNew : newGraph.Rearranged newGraph') :
    Resolve.operation oldGraph' newGraph' = Resolve.operation oldGraph newGraph := by
  funext spec
  rw [Resolve.operation, Resolve.operation, hOld.vertexRef_eq, hNew.vertexRef_eq, hOld.edgeRef_eq, hNew.edgeRef_eq]

theorem sameAnswers_of_resolve (h : document.Rearranged document') (hInputs : document.resolve = .ok inputs)
    (hInputs' : document'.resolve = .ok inputs') : inputs.SameAnswers inputs' := by
  obtain ⟨hOld, hNew, _, hOperations⟩ := resolve_eq_ok_iff.mp hInputs
  obtain ⟨hOld', hNew', _, hOperations'⟩ := resolve_eq_ok_iff.mp hInputs'
  have hOldGraphs := Resolve.rearranged_of_graph hOld hOld' h.oldGraph
  have hNewGraphs := Resolve.rearranged_of_graph hNew hNew' h.newGraph
  obtain ⟨hTarget, hSource⟩ := target?_eq_of_rearranged h hOldGraphs hNewGraphs (realizes_of_resolve hInputs)
    (realizes_of_resolve hInputs')
  have hSame : inputs'.operations = inputs.operations := by
    rw [operation_eq_of_rearranged hOldGraphs hNewGraphs, ← h.operations] at hOperations'
    exact Except.ok.inj (hOperations'.symm.trans hOperations)
  exact ⟨hOldGraphs.containerOf_eq, hNewGraphs.containerOf_eq, hOldGraphs.argumentOwner_eq,
    hNewGraphs.argumentOwner_eq, hTarget, hSource, hSame⟩

end Document

namespace Inputs

variable {value value' : Value} {inputs inputs' : Inputs}

theorem exists_sameAnswers (h : value.Rearranged value') (hInputs : ofValue value = .ok inputs) :
    ∃ inputs', ofValue value' = .ok inputs' ∧ inputs.SameAnswers inputs' := by
  obtain ⟨entries, document, rfl, hDocument, hResolve⟩ := ofValue_eq_ok_iff.mp hInputs
  obtain ⟨entries', rfl⟩ : ∃ entries', value' = .map entries' := by
    cases h with
    | same => exact ⟨entries, rfl⟩
    | map => exact ⟨_, rfl⟩
  obtain ⟨document', hDocument', hRearranged⟩ := Document.carries_ofEntries h document hDocument
  obtain ⟨inputs', hResolve'⟩ := Document.exists_resolve_iff.mpr
    (hRearranged.consistent (Document.exists_resolve_iff.mp ⟨inputs, hResolve⟩))
  exact ⟨inputs', ofValue_eq_ok_iff.mpr ⟨entries', document', rfl, hDocument', hResolve'⟩,
    Document.sameAnswers_of_resolve hRearranged hResolve hResolve'⟩

/-- In every order of its lists a document is accepted or refused alike, and its analysis is the same run. -/
theorem analyze_of_rearranged (h : value.Rearranged value') :
    ((∃ inputs, ofValue value = .ok inputs) ↔ ∃ inputs', ofValue value' = .ok inputs') ∧
    ∀ inputs inputs', ofValue value = .ok inputs → ofValue value' = .ok inputs' → inputs'.analyze = inputs.analyze := by
  refine ⟨⟨?_, ?_⟩, ?_⟩
  · rintro ⟨inputs, hInputs⟩
    obtain ⟨inputs', hInputs', _⟩ := exists_sameAnswers h hInputs
    exact ⟨inputs', hInputs'⟩
  · rintro ⟨inputs', hInputs'⟩
    obtain ⟨inputs, hInputs, _⟩ := exists_sameAnswers h.symm hInputs'
    exact ⟨inputs, hInputs⟩
  · intro inputs inputs' hInputs hInputs'
    obtain ⟨inputs'', hInputs'', hSame⟩ := exists_sameAnswers h hInputs
    cases hInputs'.symm.trans hInputs''
    exact hSame.analyze_eq

end Inputs

namespace Sample

/-- The sample document with the lists of its graphs the other way round and its matching in another order. -/
def rearranged : Entries :=
  [(.string "old_graph", .map [
      (.string "vertices", .list [vertexValue "Int" "Scalar" "Int", vertexValue "Q.a" "Field" "a",
        vertexValue "Q" "Object" "Query"]),
      (.string "edges", .list [edgeValue "Q.a" "Int" "type=Int;defaultValue=", edgeValue "Q" "Q.a" ""])]),
    (.string "new_graph", .map [
      (.string "vertices", .list [vertexValue "Int" "Scalar" "Int", vertexValue "Q.b" "Field" "b",
        vertexValue "Q" "Object" "Query"]),
      (.string "edges", .list [edgeValue "Q.b" "Int" "type=Int!;defaultValue=", edgeValue "Q" "Q.b" ""])]),
    (.string "mapping", .list [matchValue "Q.a" "Q.b", matchValue "Q" "Q", matchValue "Q" "Q"]),
    (.string "edit_operations", .list [
      .map [(.string "operation", .string "change_vertex"), (.string "source", .string "Q.a"),
        (.string "target", .string "Q.b")],
      .map [(.string "operation", .string "delete_edge"), (.string "source", .list [.string "Q.a", .string "Int"])],
      .map [(.string "operation", .string "insert_edge"), (.string "target", .list [.string "Q.b", .string "Int"])]])]

theorem entries_rearranged : Value.Rearranged (.map entries) (.map rearranged) := by
  have hReverse : ∀ items : List Value, Value.ItemsRearranged (.list items) (.list items.reverse) := fun items =>
    .list items.reverse_perm.symm
  have hGraph : ∀ vertices edges : List Value, Value.GraphRearranged
      (.map [(.string "vertices", .list vertices), (.string "edges", .list edges)])
      (.map [(.string "vertices", .list vertices.reverse), (.string "edges", .list edges.reverse)]) := fun _ _ =>
    .map (.cons ⟨rfl, .inr ⟨_, rfl, .inl rfl, hReverse _⟩⟩ (.cons ⟨rfl, .inr ⟨_, rfl, .inr rfl, hReverse _⟩⟩ .nil))
  exact .map (.cons ⟨rfl, .inr ⟨_, rfl, .inl ⟨.inl rfl, hGraph _ _⟩⟩⟩
    (.cons ⟨rfl, .inr ⟨_, rfl, .inl ⟨.inr rfl, hGraph _ _⟩⟩⟩
      (.cons ⟨rfl, .inr ⟨_, rfl, .inr ⟨rfl, .list (.swap _ _ _)⟩⟩⟩ (.cons ⟨rfl, .inl rfl⟩ .nil))))

end Sample

theorem Inputs.analyze_of_rearranged_sample : Value.Rearranged (.map Sample.entries) (.map Sample.rearranged) ∧
    ∃ inputs inputs', ofValue (.map Sample.entries) = .ok inputs ∧ ofValue (.map Sample.rearranged) = .ok inputs' ∧
      inputs'.analyze = inputs.analyze := by
  have hDocument : Document.ofEntries Sample.entries = .ok Sample.document := by decide +kernel
  obtain ⟨inputs, hResolve⟩ := Document.exists_resolve_iff.mpr (by decide +kernel : Sample.document.Consistent)
  have hInputs : ofValue (.map Sample.entries) = .ok inputs :=
    ofValue_eq_ok_iff.mpr ⟨_, _, rfl, hDocument, hResolve⟩
  obtain ⟨hAccepted, hSame⟩ := analyze_of_rearranged Sample.entries_rearranged
  obtain ⟨inputs', hInputs'⟩ := hAccepted.mp ⟨inputs, hInputs⟩
  exact ⟨Sample.entries_rearranged, inputs, inputs', hInputs, hInputs', hSame inputs inputs' hInputs hInputs'⟩

end SchemaChange
