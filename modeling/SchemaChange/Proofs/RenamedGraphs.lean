import SchemaChange.Proofs.OrderIndependence
import SchemaChange.Proofs.RenamedDocument

/-! # Graphs with other vertex ids

A renaming of ids that keeps different ids apart changes neither whether a document is consistent nor how its vertices,
edges and pairs hang together. The resolved graphs, matching and operations are those of the first document with the
ids of each side renamed.
-/
namespace SchemaChange

variable {r old new : String ↪ String}

namespace GraphSpec

variable {spec : GraphSpec}

theorem ids_renamed : (spec.renamed r).ids = spec.ids.map r := by
  rw [ids, ids, renamed, List.map_map, List.map_map]
  rfl

theorem ends_renamed : (spec.renamed r).ends = spec.ends.map (Prod.map r r) := by
  rw [ends, ends, renamed, List.map_map, List.map_map]
  rfl

theorem mem_ids_renamed_iff {id : String} : r id ∈ (spec.renamed r).ids ↔ id ∈ spec.ids := by
  rw [ids_renamed, List.mem_map_of_injective r.injective]

theorem names_renamed_iff {onVertices : Bool} {ref : ElementRef} :
    (spec.renamed r).Names onVertices (ref.renamed r) ↔ spec.Names onVertices ref := by
  cases ref with
  | vertex id => exact and_congr_right fun _ => mem_ids_renamed_iff
  | edge source target =>
    apply and_congr_right
    intro _
    rw [ends_renamed]
    exact List.mem_map_of_injective (r.injective.prodMap r.injective) (a := (source, target))

theorem consistent_renamed_iff : (spec.renamed r).Consistent ↔ spec.Consistent := by
  have hIds : (spec.renamed r).ids.Nodup ↔ spec.ids.Nodup := by
    rw [ids_renamed, List.nodup_map_iff r.injective]
  have hEnds : ((spec.renamed r).edges.map (·.ends)).Nodup ↔ (spec.edges.map (·.ends)).Nodup := by
    change (spec.renamed r).ends.Nodup ↔ _
    rw [ends_renamed, List.nodup_map_iff (r.injective.prodMap r.injective)]
    rfl
  have hEdges : (∀ e ∈ (spec.renamed r).edges, e.source ∈ (spec.renamed r).ids ∧ e.target ∈ (spec.renamed r).ids) ↔
      ∀ e ∈ spec.edges, e.source ∈ spec.ids ∧ e.target ∈ spec.ids := by
    simp only [renamed, List.forall_mem_map]
    exact forall₂_congr fun e _ => and_congr mem_ids_renamed_iff mem_ids_renamed_iff
  constructor
  · rintro ⟨hNodup, hMem, hPlaces⟩
    exact ⟨hIds.mp hNodup, hEdges.mp hMem, hEnds.mp hPlaces⟩
  · rintro ⟨hNodup, hMem, hPlaces⟩
    exact ⟨hIds.mpr hNodup, hEdges.mpr hMem, hEnds.mpr hPlaces⟩

end GraphSpec

theorem MatchSpec.agree_renamed_iff {oldIds newIds : List String} {matching : List MatchSpec} :
    Agree (oldIds.map old) (newIds.map new) (matching.map (·.renamed old new)) ↔ Agree oldIds newIds matching := by
  simp only [Agree, List.forall_mem_map, renamed, List.mem_map_of_injective old.injective,
    List.mem_map_of_injective new.injective, old.injective.eq_iff, new.injective.eq_iff]

theorem OperationSpec.consistent_renamed_iff {oldGraph newGraph : GraphSpec} {spec : OperationSpec} :
    (spec.renamed old new).Consistent (oldGraph.renamed old) (newGraph.renamed new) ↔
      spec.Consistent oldGraph newGraph := by
  have hSide : ∀ {r : String ↪ String} {graph : GraphSpec} {onVertices : Bool} {side : Option ElementRef},
      (∀ ref ∈ side.map (·.renamed r), (graph.renamed r).Names onVertices ref) ↔
        ∀ ref ∈ side, graph.Names onVertices ref := by
    intro r graph onVertices side
    cases side with
    | none => simp
    | some ref => simp [GraphSpec.names_renamed_iff]
  constructor
  · rintro ⟨hSource, hTarget, hHasSource, hHasTarget⟩
    exact ⟨hSide.mp hSource, hSide.mp hTarget, by simpa [renamed] using hHasSource, by simpa [renamed] using hHasTarget⟩
  · rintro ⟨hSource, hTarget, hHasSource, hHasTarget⟩
    exact ⟨hSide.mpr hSource, hSide.mpr hTarget, by simpa [renamed] using hHasSource,
      by simpa [renamed] using hHasTarget⟩

theorem Document.consistent_renamed_iff {document : Document} :
    (document.renamed old new).Consistent ↔ document.Consistent := by
  have hMatching : MatchSpec.Agree (document.oldGraph.renamed old).ids (document.newGraph.renamed new).ids
      (document.matching.map (·.renamed old new)) ↔
        MatchSpec.Agree document.oldGraph.ids document.newGraph.ids document.matching := by
    rw [GraphSpec.ids_renamed, GraphSpec.ids_renamed, MatchSpec.agree_renamed_iff]
  have hOperations : (∀ spec ∈ document.operations.map (·.renamed old new),
      spec.Consistent (document.oldGraph.renamed old) (document.newGraph.renamed new)) ↔
        ∀ spec ∈ document.operations, spec.Consistent document.oldGraph document.newGraph := by
    simp only [List.forall_mem_map, OperationSpec.consistent_renamed_iff]
  constructor
  · rintro ⟨hOld, hNew, hMatches, hOps⟩
    exact ⟨GraphSpec.consistent_renamed_iff.mp hOld, GraphSpec.consistent_renamed_iff.mp hNew, hMatching.mp hMatches,
      hOperations.mp hOps⟩
  · rintro ⟨hOld, hNew, hMatches, hOps⟩
    exact ⟨GraphSpec.consistent_renamed_iff.mpr hOld, GraphSpec.consistent_renamed_iff.mpr hNew,
      hMatching.mpr hMatches, hOperations.mpr hOps⟩

def Vertex.renamed (r : String ↪ String) (v : Vertex) : Vertex := { v with id := r v.id }

def Edge.renamed (r : String ↪ String) (e : Edge) : Edge :=
  { e with source := e.source.renamed r, target := e.target.renamed r }

def EditOperation.renamed (old new : String ↪ String) : EditOperation → EditOperation
  | insertVertex target => insertVertex (target.renamed new)
  | deleteVertex source => deleteVertex (source.renamed old)
  | changeVertex source target => changeVertex (source.renamed old) (target.renamed new)
  | insertEdge target => insertEdge (target.renamed new)
  | deleteEdge source => deleteEdge (source.renamed old)
  | changeEdge source target => changeEdge (source.renamed old) (target.renamed new)

def Container.renamed (r : String ↪ String) (c : Container) : Container := ⟨c.vertex.renamed r, c.kind, c.kind_eq⟩

def ArgumentOwner.renamed (r : String ↪ String) : ArgumentOwner → ArgumentOwner
  | field v => field (v.renamed r)
  | directive v => directive (v.renamed r)

@[simp] theorem Vertex.kind_renamed (v : Vertex) : (v.renamed r).kind = v.kind := rfl

@[simp] theorem Vertex.name_renamed (v : Vertex) : (v.renamed r).name = v.name := rfl

@[simp] theorem Edge.source_renamed (e : Edge) : (e.renamed r).source = e.source.renamed r := rfl

@[simp] theorem Edge.label_renamed (e : Edge) : (e.renamed r).label = e.label := rfl

@[simp] theorem Container.vertex_renamed (c : Container) : (c.renamed r).vertex = c.vertex.renamed r := rfl

theorem Vertex.renamed_injective (r : String ↪ String) : Function.Injective (renamed r) := by
  rintro ⟨stamp, id, kind, name⟩ ⟨stamp', id', kind', name'⟩ h
  simp only [renamed, Vertex.mk.injEq] at h
  obtain ⟨rfl, hId, rfl, rfl⟩ := h
  rw [r.injective hId]

theorem Edge.renamed_injective (r : String ↪ String) : Function.Injective (renamed r) := by
  rintro ⟨stamp, source, target, label⟩ ⟨stamp', source', target', label'⟩ h
  simp only [renamed, Edge.mk.injEq] at h
  obtain ⟨rfl, hSource, hTarget, rfl⟩ := h
  rw [Vertex.renamed_injective r hSource, Vertex.renamed_injective r hTarget]

theorem Vertex.renamed_inj {v w : Vertex} : v.renamed r = w.renamed r ↔ v = w := (renamed_injective r).eq_iff

theorem Container.ofVertex?_renamed (v : Vertex) : ofVertex? (v.renamed r) = (ofVertex? v).map (·.renamed r) := by
  apply Option.ext
  intro c'
  rw [ofVertex?_eq_some_iff, Option.map_eq_some_iff]
  constructor
  · intro hVertex
    have hKind : v.kind = .type c'.kind.toTypeKind := by
      rw [← c'.kind_eq, hVertex]
      rfl
    refine ⟨⟨v, c'.kind, hKind⟩, ofVertex?_eq_some_iff.mpr rfl, ?_⟩
    obtain ⟨vertex, kind, hKindEq⟩ := c'
    obtain rfl : vertex = v.renamed r := hVertex
    rfl
  · rintro ⟨c, hc, rfl⟩
    rw [← ofVertex?_eq_some_iff.mp hc]
    rfl

theorem Container.exists_ofVertex?_iff {P P' : Container → Prop} (hP : ∀ c, P' (c.renamed r) ↔ P c) (v : Vertex) :
    (∃ c', ofVertex? (v.renamed r) = some c' ∧ P' c') ↔ ∃ c, ofVertex? v = some c ∧ P c := by
  rw [ofVertex?_renamed]
  cases ofVertex? v with
  | none => simp
  | some c => simp [hP]

theorem ArgumentOwner.ofVertex?_renamed (v : Vertex) :
    ofVertex? (v.renamed r) = (ofVertex? v).map (·.renamed r) := by
  simp only [ofVertex?, Vertex.renamed]
  split <;> rfl

/-- A graph with the vertices and edges of another one, renamed. -/
structure SchemaGraph.Renamed (r : String ↪ String) (g g' : SchemaGraph) : Prop where
  vertices : g'.vertices = g.vertices.map (·.renamed r)
  edges : g'.edges.Perm (g.edges.map (·.renamed r))

theorem SchemaGraph.mem_iff_of_vertices {g g' : SchemaGraph} (h : g'.vertices = g.vertices.map (·.renamed r))
    {v' : Vertex} : v' ∈ g' ↔ ∃ v ∈ g, v.renamed r = v' := by
  change v' ∈ g'.vertices ↔ _
  rw [h, List.mem_map]
  rfl

namespace SchemaGraph.Renamed

variable {g g' : SchemaGraph} (h : g.Renamed r g')
include h

theorem mem_renamed_iff {v : Vertex} : v.renamed r ∈ g' ↔ v ∈ g := by
  change v.renamed r ∈ g'.vertices ↔ _
  rw [h.vertices, List.mem_map_of_injective (Vertex.renamed_injective r)]
  rfl

theorem mem_edges_renamed_iff {e : Edge} : e.renamed r ∈ g'.edges ↔ e ∈ g.edges := by
  rw [h.edges.mem_iff, List.mem_map_of_injective (Edge.renamed_injective r)]

theorem edgesInto_perm (v : Vertex) : (g'.edgesInto (v.renamed r)).Perm ((g.edgesInto v).map (·.renamed r)) := by
  have hFilter := h.edges.filter fun e => decide (e.target.id = r v.id)
  have hId : (fun e : Edge => decide ((e.renamed r).target.id = r v.id)) = fun e => decide (e.target.id = v.id) := by
    funext e
    exact decide_eq_decide.mpr r.injective.eq_iff
  rw [List.filter_map, Function.comp_def, hId] at hFilter
  exact hFilter

omit h in
theorem soleOf_map_eq_ok_iff {α β ε ε' : Type} {unexpected : Nat → ε} {unexpected' : Nat → ε'} {f : α → β} {xs : List α}
    {y : β} : soleOf unexpected' (xs.map f) = .ok y ↔ ∃ x, soleOf unexpected xs = .ok x ∧ y = f x := by
  match xs with
  | [] => simp [soleOf]
  | [x] => simp [soleOf, eq_comm]
  | _ :: _ :: _ => simp [soleOf]

theorem owners_perm {α : Type} {ofVertex? : Vertex → Option α} {rename : α → α}
    (hOwner : ∀ v, ofVertex? (v.renamed r) = (ofVertex? v).map rename) (v : Vertex) :
    ((g'.edgesInto (v.renamed r)).filterMap fun e => ofVertex? e.source).Perm
      (((g.edgesInto v).filterMap fun e => ofVertex? e.source).map rename) := by
  have hPerm := (h.edgesInto_perm v).filterMap fun e => ofVertex? e.source
  have hOwners : (fun e : Edge => ofVertex? (e.renamed r).source) = fun e => (ofVertex? e.source).map rename := by
    funext e
    exact hOwner e.source
  rw [List.filterMap_map, Function.comp_def, hOwners] at hPerm
  rw [List.map_filterMap]
  exact hPerm

theorem containerOf_eq_ok_iff (v : Vertex) {c' : Container} : g'.containerOf (v.renamed r) = .ok c' ↔
    ∃ c, g.containerOf v = .ok c ∧ c' = c.renamed r := by
  rw [containerOf, containerOf]
  by_cases hKind : v.kind = .field
  · have hKind' : (v.renamed r).kind = .field := hKind
    rw [if_pos hKind, if_pos hKind', ← soleOf_eq_of_perm (h.owners_perm Container.ofVertex?_renamed v),
      soleOf_map_eq_ok_iff]
  · have hKind' : (v.renamed r).kind ≠ .field := hKind
    rw [if_neg hKind, if_neg hKind']
    simp

theorem argumentOwner_eq_ok_iff (v : Vertex) {owner' : ArgumentOwner} :
    g'.argumentOwner (v.renamed r) = .ok owner' ↔ ∃ owner, g.argumentOwner v = .ok owner ∧ owner' = owner.renamed r := by
  rw [argumentOwner, argumentOwner]
  by_cases hKind : v.kind = .argument
  · have hKind' : (v.renamed r).kind = .argument := hKind
    rw [if_pos hKind, if_pos hKind', ← soleOf_eq_of_perm (h.owners_perm ArgumentOwner.ofVertex?_renamed v),
      soleOf_map_eq_ok_iff]
  · have hKind' : (v.renamed r).kind ≠ .argument := hKind
    rw [if_neg hKind, if_neg hKind']
    simp

theorem exists_containerOf_iff {P P' : Container → Prop} (hP : ∀ c, P' (c.renamed r) ↔ P c) (v : Vertex) :
    (∃ c', g'.containerOf (v.renamed r) = .ok c' ∧ P' c') ↔ ∃ c, g.containerOf v = .ok c ∧ P c := by
  simp only [h.containerOf_eq_ok_iff]
  constructor
  · rintro ⟨_, ⟨c, hc, rfl⟩, hPc⟩
    exact ⟨c, hc, (hP c).mp hPc⟩
  · rintro ⟨c, hc, hPc⟩
    exact ⟨c.renamed r, ⟨c, hc, rfl⟩, (hP c).mpr hPc⟩

/-- The field that declares an argument is renamed with it. -/
theorem exists_field_iff {P P' : Vertex → Prop} (hP : ∀ owner, P' (owner.renamed r) ↔ P owner) (v : Vertex) :
    (∃ owner', g'.argumentOwner (v.renamed r) = .ok (.field owner') ∧ P' owner') ↔
      ∃ owner, g.argumentOwner v = .ok (.field owner) ∧ P owner := by
  simp only [h.argumentOwner_eq_ok_iff]
  constructor
  · rintro ⟨_, ⟨owner, hOwner, hEq⟩, hPo⟩
    cases owner with
    | field owner =>
      cases hEq
      exact ⟨owner, hOwner, (hP owner).mp hPo⟩
    | directive => cases hEq
  · rintro ⟨owner, hOwner, hPo⟩
    exact ⟨owner.renamed r, ⟨.field owner, hOwner, rfl⟩, (hP owner).mpr hPo⟩

theorem exists_directive_iff {p : Prop} (v : Vertex) :
    (∃ directive', g'.argumentOwner (v.renamed r) = .ok (.directive directive') ∧ p) ↔
      ∃ directive, g.argumentOwner v = .ok (.directive directive) ∧ p := by
  simp only [h.argumentOwner_eq_ok_iff]
  constructor
  · rintro ⟨_, ⟨owner, hOwner, hEq⟩, hp⟩
    cases owner with
    | field => cases hEq
    | directive directive => exact ⟨directive, hOwner, hp⟩
  · rintro ⟨directive, hOwner, hp⟩
    exact ⟨directive.renamed r, ⟨.directive directive, hOwner, rfl⟩, hp⟩

end SchemaGraph.Renamed

namespace Resolve

variable {side : Side} {g g' : SchemaGraph} {spec : GraphSpec}

theorem renamed_of_graph (h : graph side spec = .ok g) (h' : graph side (spec.renamed r) = .ok g') : g.Renamed r g' := by
  have hVertices : g'.vertices = g.vertices.map (·.renamed r) := by
    rw [(lists_of_graph h).1, (lists_of_graph h').1, GraphSpec.renamed, List.map_map, List.map_map]
    rfl
  have hMem : ∀ v', v' ∈ g' ↔ ∃ v ∈ g, v.renamed r = v' := fun _ => SchemaGraph.mem_iff_of_vertices hVertices
  have hNodup : (g.edges.map (·.renamed r)).Nodup := (List.nodup_map_iff (Edge.renamed_injective r)).mpr (nodup_edges g)
  refine ⟨hVertices, (List.perm_ext_iff_of_nodup (nodup_edges g') hNodup).mpr fun e' => ?_⟩
  rw [mem_edges_iff h', List.mem_map]
  constructor
  · rintro ⟨hStamp, hSource, hTarget, hSpec⟩
    obtain ⟨source, hSourceMem, hSourceEq⟩ := (hMem _).mp hSource
    obtain ⟨target, hTargetMem, hTargetEq⟩ := (hMem _).mp hTarget
    obtain ⟨stamp, _, _, label⟩ := e'
    cases hSourceEq
    cases hTargetEq
    refine ⟨⟨stamp, source, target, label⟩, (mem_edges_iff h).mpr ⟨hStamp, hSourceMem, hTargetMem, ?_⟩, rfl⟩
    obtain ⟨⟨from', to', label'⟩, hMemSpec, hSame⟩ := List.mem_map.mp hSpec
    simp only [EdgeSpec.renamed, Edge.spec, EdgeSpec.mk.injEq] at hSame
    obtain ⟨hFrom, hTo, rfl⟩ := hSame
    cases r.injective hFrom
    cases r.injective hTo
    exact hMemSpec
  · rintro ⟨e, hEdge, rfl⟩
    obtain ⟨hStamp, hSource, hTarget, hSpec⟩ := (mem_edges_iff h).mp hEdge
    exact ⟨hStamp, (hMem _).mpr ⟨_, hSource, rfl⟩, (hMem _).mpr ⟨_, hTarget, rfl⟩, List.mem_map_of_mem hSpec⟩

end Resolve

theorem OperationSpec.Denotes.renamed {oldGraph newGraph oldGraph' newGraph' : SchemaGraph}
    (hOld : oldGraph.Renamed old oldGraph') (hNew : newGraph.Renamed new newGraph') {spec : OperationSpec}
    {op : EditOperation} (h : spec.Denotes oldGraph newGraph op) :
    (spec.renamed old new).Denotes oldGraph' newGraph' (op.renamed old new) := by
  cases h with
  | insertVertex hMem => exact .insertVertex (hNew.mem_renamed_iff.mpr hMem)
  | deleteVertex hMem => exact .deleteVertex (hOld.mem_renamed_iff.mpr hMem)
  | changeVertex hSource hTarget =>
    exact .changeVertex (hOld.mem_renamed_iff.mpr hSource) (hNew.mem_renamed_iff.mpr hTarget)
  | insertEdge hMem => exact .insertEdge (hNew.mem_edges_renamed_iff.mpr hMem)
  | deleteEdge hMem => exact .deleteEdge (hOld.mem_edges_renamed_iff.mpr hMem)
  | changeEdge hSource hTarget =>
    exact .changeEdge (hOld.mem_edges_renamed_iff.mpr hSource) (hNew.mem_edges_renamed_iff.mpr hTarget)

/-- A look-up that finds the partner of a vertex of one graph in the other finds the renamed partner of a renamed
vertex. -/
theorem Matching.lookup_renamed {r s : String ↪ String} {find find' : Vertex → Option Vertex}
    {In In' Out Out' : Vertex → Prop} {Pair Pair' : Vertex → Vertex → Prop}
    (hFind : ∀ v w, find v = some w ↔ In v ∧ Out w ∧ Pair v w)
    (hFind' : ∀ v w, find' v = some w ↔ In' v ∧ Out' w ∧ Pair' v w) (hIn : ∀ v, In' (v.renamed r) ↔ In v)
    (hOut : ∀ w', Out' w' ↔ ∃ w, Out w ∧ w.renamed s = w')
    (hPair : ∀ v w, Pair' (v.renamed r) (w.renamed s) ↔ Pair v w) (v : Vertex) :
    find' (v.renamed r) = (find v).map (·.renamed s) := by
  apply Option.ext
  intro w'
  rw [hFind', hIn, hOut, Option.map_eq_some_iff]
  constructor
  · rintro ⟨hv, ⟨w, hw, rfl⟩, hMem⟩
    exact ⟨w, (hFind v w).mpr ⟨hv, hw, (hPair v w).mp hMem⟩, rfl⟩
  · rintro ⟨w, hw, rfl⟩
    obtain ⟨hv, hOutMem, hMem⟩ := (hFind v w).mp hw
    exact ⟨hv, ⟨w, hOutMem, rfl⟩, (hPair v w).mpr hMem⟩

/-- Inputs with the vertex ids of the old graph renamed, and those of the new graph by a renaming of their own. -/
structure Inputs.Renamed (old new : String ↪ String) (inputs inputs' : Inputs) : Prop where
  oldGraph : inputs.oldGraph.Renamed old inputs'.oldGraph
  newGraph : inputs.newGraph.Renamed new inputs'.newGraph
  target?_eq : ∀ v, inputs'.matching.target? (v.renamed old) = (inputs.matching.target? v).map (·.renamed new)
  source?_eq : ∀ v, inputs'.matching.source? (v.renamed new) = (inputs.matching.source? v).map (·.renamed old)
  operations : inputs'.operations = inputs.operations.map (·.renamed old new)

theorem Document.renamed_of_resolve {document : Document} {inputs inputs' : Inputs} (h : document.resolve = .ok inputs)
    (h' : (document.renamed old new).resolve = .ok inputs') : inputs.Renamed old new inputs' := by
  obtain ⟨hOld, hNew, _, hOperations⟩ := resolve_eq_ok_iff.mp h
  obtain ⟨hOld', hNew', _, hOperations'⟩ := resolve_eq_ok_iff.mp h'
  have hOldGraph := Resolve.renamed_of_graph hOld hOld'
  have hNewGraph := Resolve.renamed_of_graph hNew hNew'
  have hInputs := realizes_of_resolve h
  have hInputs' := realizes_of_resolve h'
  have hEntry : ∀ v w : Vertex, (⟨(v.renamed old).id, (w.renamed new).id⟩ : MatchSpec) ∈
      (document.renamed old new).matching ↔ ⟨v.id, w.id⟩ ∈ document.matching := by
    intro v w
    have hInjective : Function.Injective (MatchSpec.renamed old new) := by
      rintro ⟨source, target⟩ ⟨source', target'⟩ hEq
      simp only [MatchSpec.renamed, MatchSpec.mk.injEq] at hEq
      rw [old.injective hEq.1, new.injective hEq.2]
    exact List.mem_map_of_injective hInjective (a := (⟨v.id, w.id⟩ : MatchSpec))
  refine ⟨hOldGraph, hNewGraph, ?_, ?_, ?_⟩
  · exact Matching.lookup_renamed hInputs.target?_iff hInputs'.target?_iff (fun _ => hOldGraph.mem_renamed_iff)
      (fun _ => SchemaGraph.mem_iff_of_vertices hNewGraph.vertices) hEntry
  · apply Matching.lookup_renamed (fun v w => (hInputs.source?_iff v w).trans and_left_comm)
      (fun v w => (hInputs'.source?_iff v w).trans and_left_comm) (fun _ => hNewGraph.mem_renamed_iff)
      (fun _ => SchemaGraph.mem_iff_of_vertices hOldGraph.vertices)
    intro v w
    exact hEntry w v
  · have hRenamed : (document.renamed old new).operations.mapM (Resolve.operation inputs'.oldGraph inputs'.newGraph) =
        .ok (inputs.operations.map (·.renamed old new)) := by
      rw [mapM_eq_ok_iff] at hOperations ⊢
      rw [renamed, List.forall₂_map_left_iff, List.forall₂_map_right_iff]
      apply hOperations.imp
      intro spec op hOp
      exact Resolve.operation_eq_ok_iff.mpr ((Resolve.operation_eq_ok_iff.mp hOp).renamed hOldGraph hNewGraph)
    exact Except.ok.inj (hOperations'.symm.trans hRenamed)

end SchemaChange
