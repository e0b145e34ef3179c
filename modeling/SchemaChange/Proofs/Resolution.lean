import SchemaChange.Proofs.ResolvedGraphs

/-! # Resolution of consistent documents

Every operation stands for itself, and denotes an operation on vertices or edges of the graphs exactly if it is
consistent. So a document resolves exactly if all its parts are consistent, and every part is realized.
-/
namespace SchemaChange

namespace Resolve

variable {side : Side} {g oldGraph newGraph : SchemaGraph}

theorem vertexRef_eq_ok_none_iff {ref : Option ElementRef} : vertexRef side g ref = .ok none ↔ ref = none := by
  cases ref with
  | none => simp [vertexRef]
  | some ref =>
    cases ref with
    | vertex id => cases h : vertex side g id <;> simp [vertexRef, h, Except.map]
    | edge source target => simp [vertexRef]

theorem vertexRef_eq_ok_some_iff {ref : Option ElementRef} {v : Vertex} :
    vertexRef side g ref = .ok (some v) ↔ v ∈ g ∧ ref = some (.vertex v.id) := by
  cases ref with
  | none => simp [vertexRef]
  | some ref =>
    cases ref with
    | vertex id =>
      have hMap : (vertex side g id).map some = .ok (some v) ↔ vertex side g id = .ok v := by
        cases vertex side g id <;> simp [Except.map]
      rw [vertexRef, hMap, vertex_eq_ok_iff, Option.some.injEq, ElementRef.vertex.injEq, eq_comm (a := id)]
    | edge source target => simp [vertexRef]

theorem edgeRef_eq_ok_iff {source target : String} {found : Option Edge} :
    edgeRef side g (some (.edge source target)) = .ok found ↔
      ∃ e ∈ g.edges, e.ends = (source, target) ∧ found = some e := by
  simp only [edgeRef, bind_eq_ok_iff, vertex_eq_ok_iff]
  constructor
  · rintro ⟨u, ⟨_, rfl⟩, v, ⟨hTarget, rfl⟩, hFound⟩
    split at hFound
    · rename_i e hEdge
      cases hFound
      obtain ⟨hMem, rfl, rfl⟩ := (SchemaGraph.edge?_eq_some_iff hTarget).mp hEdge
      exact ⟨e, hMem, rfl, rfl⟩
    · cases hFound
  · rintro ⟨e, hMem, hEnds, rfl⟩
    cases hEnds
    obtain ⟨hSource, hTarget⟩ := g.ends_mem e hMem
    refine ⟨e.source, ⟨hSource, rfl⟩, e.target, ⟨hTarget, rfl⟩, ?_⟩
    rw [(SchemaGraph.edge?_eq_some_iff hTarget).mpr ⟨hMem, rfl, rfl⟩]

theorem edgeRef_eq_ok_none_iff {ref : Option ElementRef} : edgeRef side g ref = .ok none ↔ ref = none := by
  cases ref with
  | none => simp [edgeRef]
  | some ref =>
    cases ref with
    | vertex id => simp [edgeRef]
    | edge source target => simp [edgeRef_eq_ok_iff]

theorem edgeRef_eq_ok_some_iff {ref : Option ElementRef} {e : Edge} :
    edgeRef side g ref = .ok (some e) ↔ e ∈ g.edges ∧ ref = some (.edge e.source.id e.target.id) := by
  cases ref with
  | none => simp [edgeRef]
  | some ref =>
    cases ref with
    | vertex id => simp [edgeRef]
    | edge source target =>
      rw [edgeRef_eq_ok_iff]
      constructor
      · rintro ⟨e', hMem, hEnds, hFound⟩
        cases hEnds
        cases hFound
        exact ⟨hMem, rfl⟩
      · rintro ⟨hMem, hRef⟩
        cases hRef
        exact ⟨e, hMem, rfl, rfl⟩

variable {kind : OperationKind} {source target : Option ElementRef} {op : EditOperation}

theorem denotes_of_ofVertices {u v : Option Vertex} (hSource : vertexRef .old oldGraph source = .ok u)
    (hTarget : vertexRef .new newGraph target = .ok v) (h : EditOperation.ofVertices kind u v = .ok op) :
    OperationSpec.Denotes oldGraph newGraph ⟨kind, source, target⟩ op := by
  unfold EditOperation.ofVertices at h
  split at h
  · cases h
    obtain rfl := vertexRef_eq_ok_none_iff.mp hSource
    obtain ⟨hMem, rfl⟩ := vertexRef_eq_ok_some_iff.mp hTarget
    exact .insertVertex hMem
  · cases h
    obtain ⟨hMem, rfl⟩ := vertexRef_eq_ok_some_iff.mp hSource
    obtain rfl := vertexRef_eq_ok_none_iff.mp hTarget
    exact .deleteVertex hMem
  · cases h
    obtain ⟨hSourceMem, rfl⟩ := vertexRef_eq_ok_some_iff.mp hSource
    obtain ⟨hTargetMem, rfl⟩ := vertexRef_eq_ok_some_iff.mp hTarget
    exact .changeVertex hSourceMem hTargetMem
  · cases h

theorem denotes_of_ofEdges {d e : Option Edge} (hSource : edgeRef .old oldGraph source = .ok d)
    (hTarget : edgeRef .new newGraph target = .ok e) (h : EditOperation.ofEdges kind d e = .ok op) :
    OperationSpec.Denotes oldGraph newGraph ⟨kind, source, target⟩ op := by
  unfold EditOperation.ofEdges at h
  split at h
  · cases h
    obtain rfl := edgeRef_eq_ok_none_iff.mp hSource
    obtain ⟨hMem, rfl⟩ := edgeRef_eq_ok_some_iff.mp hTarget
    exact .insertEdge hMem
  · cases h
    obtain ⟨hMem, rfl⟩ := edgeRef_eq_ok_some_iff.mp hSource
    obtain rfl := edgeRef_eq_ok_none_iff.mp hTarget
    exact .deleteEdge hMem
  · cases h
    obtain ⟨hSourceMem, rfl⟩ := edgeRef_eq_ok_some_iff.mp hSource
    obtain ⟨hTargetMem, rfl⟩ := edgeRef_eq_ok_some_iff.mp hTarget
    exact .changeEdge hSourceMem hTargetMem
  · cases h

theorem operation_of_vertices {u v : Option Vertex} (hKind : kind.isOnVertices = true)
    (hSource : vertexRef .old oldGraph source = .ok u) (hTarget : vertexRef .new newGraph target = .ok v) :
    operation oldGraph newGraph ⟨kind, source, target⟩ = (EditOperation.ofVertices kind u v).mapError .sides := by
  rw [operation, if_pos hKind, hSource, hTarget]
  rfl

theorem operation_of_edges {d e : Option Edge} (hKind : kind.isOnVertices = false)
    (hSource : edgeRef .old oldGraph source = .ok d) (hTarget : edgeRef .new newGraph target = .ok e) :
    operation oldGraph newGraph ⟨kind, source, target⟩ = (EditOperation.ofEdges kind d e).mapError .sides := by
  rw [operation, if_neg (by rw [hKind]; decide), hSource, hTarget]
  rfl

/-- An operation resolves to what its description denotes, and to nothing else. -/
theorem operation_eq_ok_iff {spec : OperationSpec} :
    operation oldGraph newGraph spec = .ok op ↔ spec.Denotes oldGraph newGraph op := by
  constructor
  · intro h
    unfold operation at h
    split at h
    · simp only [bind_eq_ok_iff, mapError_eq_ok_iff] at h
      obtain ⟨u, hSource, v, hTarget, h⟩ := h
      exact denotes_of_ofVertices hSource hTarget h
    · simp only [bind_eq_ok_iff, mapError_eq_ok_iff] at h
      obtain ⟨d, hSource, e, hTarget, h⟩ := h
      exact denotes_of_ofEdges hSource hTarget h
  · intro h
    cases h with
    | insertVertex hMem =>
      exact operation_of_vertices rfl (vertexRef_eq_ok_none_iff.mpr rfl) (vertexRef_eq_ok_some_iff.mpr ⟨hMem, rfl⟩)
    | deleteVertex hMem =>
      exact operation_of_vertices rfl (vertexRef_eq_ok_some_iff.mpr ⟨hMem, rfl⟩) (vertexRef_eq_ok_none_iff.mpr rfl)
    | changeVertex hSource hTarget =>
      exact operation_of_vertices rfl (vertexRef_eq_ok_some_iff.mpr ⟨hSource, rfl⟩)
        (vertexRef_eq_ok_some_iff.mpr ⟨hTarget, rfl⟩)
    | insertEdge hMem =>
      exact operation_of_edges rfl (edgeRef_eq_ok_none_iff.mpr rfl) (edgeRef_eq_ok_some_iff.mpr ⟨hMem, rfl⟩)
    | deleteEdge hMem =>
      exact operation_of_edges rfl (edgeRef_eq_ok_some_iff.mpr ⟨hMem, rfl⟩) (edgeRef_eq_ok_none_iff.mpr rfl)
    | changeEdge hSource hTarget =>
      exact operation_of_edges rfl (edgeRef_eq_ok_some_iff.mpr ⟨hSource, rfl⟩)
        (edgeRef_eq_ok_some_iff.mpr ⟨hTarget, rfl⟩)

end Resolve

namespace SchemaGraph.Realizes

variable {g : SchemaGraph} {spec : GraphSpec} {ref : ElementRef} (h : g.Realizes spec)
include h

theorem ids_eq : g.vertices.map (·.id) = spec.ids := by
  rw [GraphSpec.ids, ← h.vertices, List.map_map]
  rfl

theorem ends_eq : g.edges.map (·.ends) = spec.ends := by
  rw [GraphSpec.ends, ← h.edges, List.map_map]
  rfl

theorem names_vertex_iff : spec.Names true ref ↔ ∃ v ∈ g, ref = .vertex v.id := by
  cases ref with
  | vertex id =>
    rw [GraphSpec.Names, ← h.ids_eq, List.mem_map]
    simp only [true_and, ElementRef.vertex.injEq, eq_comm (a := id)]
    rfl
  | edge source target => simp [GraphSpec.Names]

theorem names_edge_iff : spec.Names false ref ↔ ∃ e ∈ g.edges, ref = .edge e.source.id e.target.id := by
  cases ref with
  | vertex id => simp [GraphSpec.Names]
  | edge source target =>
    rw [GraphSpec.Names, ← h.ends_eq, List.mem_map]
    simp only [true_and, Edge.ends, Prod.mk.injEq, ElementRef.edge.injEq, eq_comm (a := source), eq_comm (a := target)]

end SchemaGraph.Realizes

/-- An operation denotes one on the elements of realized graphs exactly if it is consistent. -/
theorem OperationSpec.exists_denotes_iff {oldGraph newGraph : SchemaGraph} {old new : GraphSpec} {spec : OperationSpec}
    (hOld : oldGraph.Realizes old) (hNew : newGraph.Realizes new) :
    (∃ op, spec.Denotes oldGraph newGraph op) ↔ spec.Consistent old new := by
  constructor
  · rintro ⟨op, hDenotes⟩
    cases hDenotes with
    | insertVertex hMem =>
      refine ⟨nofun, ?_, rfl, rfl⟩
      rintro ref ⟨⟩
      exact hNew.names_vertex_iff.mpr ⟨_, hMem, rfl⟩
    | deleteVertex hMem =>
      refine ⟨?_, nofun, rfl, rfl⟩
      rintro ref ⟨⟩
      exact hOld.names_vertex_iff.mpr ⟨_, hMem, rfl⟩
    | changeVertex hSource hTarget =>
      refine ⟨?_, ?_, rfl, rfl⟩
      · rintro ref ⟨⟩
        exact hOld.names_vertex_iff.mpr ⟨_, hSource, rfl⟩
      · rintro ref ⟨⟩
        exact hNew.names_vertex_iff.mpr ⟨_, hTarget, rfl⟩
    | insertEdge hMem =>
      refine ⟨nofun, ?_, rfl, rfl⟩
      rintro ref ⟨⟩
      exact hNew.names_edge_iff.mpr ⟨_, hMem, rfl⟩
    | deleteEdge hMem =>
      refine ⟨?_, nofun, rfl, rfl⟩
      rintro ref ⟨⟩
      exact hOld.names_edge_iff.mpr ⟨_, hMem, rfl⟩
    | changeEdge hSource hTarget =>
      refine ⟨?_, ?_, rfl, rfl⟩
      · rintro ref ⟨⟩
        exact hOld.names_edge_iff.mpr ⟨_, hSource, rfl⟩
      · rintro ref ⟨⟩
        exact hNew.names_edge_iff.mpr ⟨_, hTarget, rfl⟩
  · obtain ⟨kind, source, target⟩ := spec
    rintro ⟨hSource, hTarget, hHasSource, hHasTarget⟩
    cases kind with
    | insertVertex =>
      obtain rfl := Option.not_isSome_iff_eq_none.mp (ne_true_of_eq_false hHasSource)
      obtain ⟨ref, rfl⟩ := Option.isSome_iff_exists.mp hHasTarget
      obtain ⟨v, hMem, rfl⟩ := hNew.names_vertex_iff.mp (hTarget ref rfl)
      exact ⟨_, .insertVertex hMem⟩
    | deleteVertex =>
      obtain ⟨ref, rfl⟩ := Option.isSome_iff_exists.mp hHasSource
      obtain rfl := Option.not_isSome_iff_eq_none.mp (ne_true_of_eq_false hHasTarget)
      obtain ⟨v, hMem, rfl⟩ := hOld.names_vertex_iff.mp (hSource ref rfl)
      exact ⟨_, .deleteVertex hMem⟩
    | changeVertex =>
      obtain ⟨ref, rfl⟩ := Option.isSome_iff_exists.mp hHasSource
      obtain ⟨ref', rfl⟩ := Option.isSome_iff_exists.mp hHasTarget
      obtain ⟨v, hMem, rfl⟩ := hOld.names_vertex_iff.mp (hSource ref rfl)
      obtain ⟨w, hMem', rfl⟩ := hNew.names_vertex_iff.mp (hTarget ref' rfl)
      exact ⟨_, .changeVertex hMem hMem'⟩
    | insertEdge =>
      obtain rfl := Option.not_isSome_iff_eq_none.mp (ne_true_of_eq_false hHasSource)
      obtain ⟨ref, rfl⟩ := Option.isSome_iff_exists.mp hHasTarget
      obtain ⟨e, hMem, rfl⟩ := hNew.names_edge_iff.mp (hTarget ref rfl)
      exact ⟨_, .insertEdge hMem⟩
    | deleteEdge =>
      obtain ⟨ref, rfl⟩ := Option.isSome_iff_exists.mp hHasSource
      obtain rfl := Option.not_isSome_iff_eq_none.mp (ne_true_of_eq_false hHasTarget)
      obtain ⟨e, hMem, rfl⟩ := hOld.names_edge_iff.mp (hSource ref rfl)
      exact ⟨_, .deleteEdge hMem⟩
    | changeEdge =>
      obtain ⟨ref, rfl⟩ := Option.isSome_iff_exists.mp hHasSource
      obtain ⟨ref', rfl⟩ := Option.isSome_iff_exists.mp hHasTarget
      obtain ⟨e, hMem, rfl⟩ := hOld.names_edge_iff.mp (hSource ref rfl)
      obtain ⟨e', hMem', rfl⟩ := hNew.names_edge_iff.mp (hTarget ref' rfl)
      exact ⟨_, .changeEdge hMem hMem'⟩

namespace Document

variable {document : Document} {inputs : Inputs}

theorem resolve_eq_ok_iff : document.resolve = .ok inputs ↔
    Resolve.graph .old document.oldGraph = .ok inputs.oldGraph ∧
    Resolve.graph .new document.newGraph = .ok inputs.newGraph ∧
    document.matching.foldlM (Resolve.addMatch inputs.oldGraph inputs.newGraph) Matching.empty = .ok inputs.matching ∧
    document.operations.mapM (Resolve.operation inputs.oldGraph inputs.newGraph) = .ok inputs.operations := by
  simp only [resolve, bind_eq_ok_iff]
  constructor
  · rintro ⟨oldGraph, hOld, newGraph, hNew, matching, hMatching, operations, hOperations, ⟨⟩⟩
    exact ⟨hOld, hNew, hMatching, hOperations⟩
  · rintro ⟨hOld, hNew, hMatching, hOperations⟩
    exact ⟨_, hOld, _, hNew, _, hMatching, _, hOperations, rfl⟩

theorem realizes_of_resolve (h : document.resolve = .ok inputs) : inputs.Realizes document := by
  obtain ⟨hOld, hNew, hMatching, hOperations⟩ := resolve_eq_ok_iff.mp h
  have hPairs := (Resolve.admits_addMatch _ _).made_of_foldlM (Resolve.matchesMade_empty _ _) hMatching
  rw [mapM_eq_ok_iff] at hOperations
  exact {
    oldGraph := Resolve.realizes_of_graph hOld
    newGraph := Resolve.realizes_of_graph hNew
    disjoint := Resolve.disjoint_of_graph hOld hNew
    target?_iff := fun source target => Matching.target?_eq_some_iff.trans (hPairs.2 source target)
    source?_iff := fun target source => Matching.source?_eq_some_iff.trans (hPairs.2 source target)
    operations := hOperations.imp fun _ _ => Resolve.operation_eq_ok_iff.mp }

theorem exists_resolve_iff : (∃ inputs, document.resolve = .ok inputs) ↔ document.Consistent := by
  simp only [resolve_eq_ok_iff]
  constructor
  · rintro ⟨inputs, hOld, hNew, hMatching, hOperations⟩
    have hOldRealizes := Resolve.realizes_of_graph hOld
    have hNewRealizes := Resolve.realizes_of_graph hNew
    have hAgree := ((Resolve.admits_addMatch _ _).exists_foldlM_iff (Resolve.matchesMade_empty _ _) _).mp ⟨_, hMatching⟩
    rw [hOldRealizes.ids_eq, hNewRealizes.ids_eq] at hAgree
    refine ⟨Resolve.exists_graph_iff.mp ⟨_, hOld⟩, Resolve.exists_graph_iff.mp ⟨_, hNew⟩, hAgree, ?_⟩
    intro spec hSpec
    obtain ⟨op, hOp⟩ := exists_mapM_iff.mp ⟨_, hOperations⟩ spec hSpec
    exact (OperationSpec.exists_denotes_iff hOldRealizes hNewRealizes).mp ⟨op, Resolve.operation_eq_ok_iff.mp hOp⟩
  · rintro ⟨hOld, hNew, hMatching, hOperations⟩
    obtain ⟨oldGraph, hOld⟩ := Resolve.exists_graph_iff.mpr hOld
    obtain ⟨newGraph, hNew⟩ := Resolve.exists_graph_iff.mpr hNew
    have hOldRealizes := Resolve.realizes_of_graph hOld
    have hNewRealizes := Resolve.realizes_of_graph hNew
    rw [← hOldRealizes.ids_eq, ← hNewRealizes.ids_eq] at hMatching
    obtain ⟨matching, hMatching⟩ := ((Resolve.admits_addMatch oldGraph newGraph).exists_foldlM_iff
      (Resolve.matchesMade_empty oldGraph newGraph) document.matching).mpr hMatching
    have hEach : ∀ spec ∈ document.operations, ∃ op, Resolve.operation oldGraph newGraph spec = .ok op := by
      intro spec hSpec
      obtain ⟨op, hOp⟩ := (OperationSpec.exists_denotes_iff hOldRealizes hNewRealizes).mpr (hOperations spec hSpec)
      exact ⟨op, Resolve.operation_eq_ok_iff.mpr hOp⟩
    obtain ⟨operations, hOperations⟩ := exists_mapM_iff.mpr hEach
    exact ⟨⟨oldGraph, newGraph, matching, operations⟩, hOld, hNew, hMatching, hOperations⟩

end Document

theorem Inputs.ofValue_eq_ok_iff {value : Value} {inputs : Inputs} : ofValue value = .ok inputs ↔
    ∃ entries document, value = .map entries ∧ Document.ofEntries entries = .ok document ∧
      document.resolve = .ok inputs := by
  cases value with
  | map entries =>
    rw [ofValue, parse]
    cases hDocument : Document.ofEntries entries with
    | error problems => simp [hDocument]
    | ok document => simp [hDocument, ofDocument, mapError_eq_ok_iff]
  | _ => simp [ofValue, parse]

/-- A document of the right shape gives inputs exactly if it is consistent, and these realize it. -/
theorem Inputs.ofValue_iff_consistent {entries : Entries} {document : Document}
    (h : Document.ofEntries entries = .ok document) :
    ((∃ inputs, ofValue (.map entries) = .ok inputs) ↔ document.Consistent) ∧
      ∀ inputs, ofValue (.map entries) = .ok inputs → inputs.Realizes document := by
  have hOfValue : ∀ inputs, ofValue (.map entries) = .ok inputs ↔ document.resolve = .ok inputs := by
    intro inputs
    rw [ofValue, parse, h]
    exact mapError_eq_ok_iff
  simp only [hOfValue]
  exact ⟨Document.exists_resolve_iff, fun _ => Document.realizes_of_resolve⟩

namespace Sample

def vertexValue (id kind name : String) : Value :=
  .map [(.string "id", .string id), (.string "kind", .string kind), (.string "name", .string name)]

def edgeValue (source target label : String) : Value :=
  .map [(.string "from", .string source), (.string "to", .string target), (.string "label", .string label)]

def matchValue (source target : String) : Value :=
  .map [(.string "source", .string source), (.string "target", .string target)]

/-- A field is renamed and its type edge replaced; the entry for its object stands twice in the matching. -/
def entries : Entries :=
  [(.string "old_graph", .map [
      (.string "vertices", .list [vertexValue "Q" "Object" "Query", vertexValue "Q.a" "Field" "a",
        vertexValue "Int" "Scalar" "Int"]),
      (.string "edges", .list [edgeValue "Q" "Q.a" "", edgeValue "Q.a" "Int" "type=Int;defaultValue="])]),
    (.string "new_graph", .map [
      (.string "vertices", .list [vertexValue "Q" "Object" "Query", vertexValue "Q.b" "Field" "b",
        vertexValue "Int" "Scalar" "Int"]),
      (.string "edges", .list [edgeValue "Q" "Q.b" "", edgeValue "Q.b" "Int" "type=Int!;defaultValue="])]),
    (.string "mapping", .list [matchValue "Q" "Q", matchValue "Q.a" "Q.b", matchValue "Q" "Q"]),
    (.string "edit_operations", .list [
      .map [(.string "operation", .string "change_vertex"), (.string "source", .string "Q.a"),
        (.string "target", .string "Q.b")],
      .map [(.string "operation", .string "delete_edge"), (.string "source", .list [.string "Q.a", .string "Int"])],
      .map [(.string "operation", .string "insert_edge"), (.string "target", .list [.string "Q.b", .string "Int"])]])]

def document : Document where
  oldGraph := ⟨[⟨"Q", .type .object, "Query"⟩, ⟨"Q.a", .field, "a"⟩, ⟨"Int", .type .scalar, "Int"⟩],
    [⟨"Q", "Q.a", ""⟩, ⟨"Q.a", "Int", "type=Int;defaultValue="⟩]⟩
  newGraph := ⟨[⟨"Q", .type .object, "Query"⟩, ⟨"Q.b", .field, "b"⟩, ⟨"Int", .type .scalar, "Int"⟩],
    [⟨"Q", "Q.b", ""⟩, ⟨"Q.b", "Int", "type=Int!;defaultValue="⟩]⟩
  matching := [⟨"Q", "Q"⟩, ⟨"Q.a", "Q.b"⟩, ⟨"Q", "Q"⟩]
  operations := [⟨.changeVertex, some (.vertex "Q.a"), some (.vertex "Q.b")⟩,
    ⟨.deleteEdge, some (.edge "Q.a" "Int"), none⟩, ⟨.insertEdge, none, some (.edge "Q.b" "Int")⟩]

end Sample

theorem Inputs.ofValue_iff_consistent_sample : Document.ofEntries Sample.entries = .ok Sample.document ∧
    Sample.document.Consistent ∧
    ∃ inputs, Inputs.ofValue (.map Sample.entries) = .ok inputs ∧ inputs.Realizes Sample.document := by
  have hEntries : Document.ofEntries Sample.entries = .ok Sample.document := by decide +kernel
  have hConsistent : Sample.document.Consistent := by decide +kernel
  obtain ⟨hIff, hRealizes⟩ := Inputs.ofValue_iff_consistent hEntries
  obtain ⟨inputs, hInputs⟩ := hIff.mpr hConsistent
  exact ⟨hEntries, hConsistent, inputs, hInputs, hRealizes inputs hInputs⟩

end SchemaChange
