import SchemaChange.Proofs.GraphAdditions
import SchemaChange.Proofs.Guarded.Halt
import SchemaChange.Proofs.Stores.Table

/-! # Graphs as tables

A graph store keeps the vertices under their ids, the edges under the ids of their ends, and for each vertex the edges
that leave it and those that arrive. The addition of an edge extends two of these lists, which have to be there. They
always are: every store that additions make has exactly the entries of a graph.
-/
namespace SchemaChange

structure GraphStore where
  vertices : Table String Vertex
  edges : Table (String × String) Edge
  outgoing : Table String (List Edge)
  incoming : Table String (List Edge)

namespace GraphStore

def empty : GraphStore := ⟨[], [], [], []⟩

def vertex? (s : GraphStore) (id : String) : Option Vertex := s.vertices.get? id

def edge? (s : GraphStore) (source target : Vertex) : Option Edge :=
  (s.edges.get? (source.id, target.id)).filter (·.source = source)

def edgesFrom (s : GraphStore) (v : Vertex) : List Edge := (s.outgoing.get? v.id).getD []

def edgesInto (s : GraphStore) (v : Vertex) : List Edge := (s.incoming.get? v.id).getD []

def put (s : GraphStore) (v : Vertex) : GraphStore where
  vertices := s.vertices.set v.id v
  edges := s.edges
  outgoing := s.outgoing.setDefault v.id []
  incoming := s.incoming.setDefault v.id []

def addVertex (s : GraphStore) (v : Vertex) : Guarded GraphError GraphStore :=
  match s.vertex? v.id with
  | some existing => if existing = v then .ok (s.put v) else .raise (.duplicateVertex v.id)
  | none => .ok (s.put v)

def addEdge (s : GraphStore) (e : Edge) : Guarded GraphError GraphStore :=
  if s.vertex? e.source.id ≠ some e.source then .raise (.endNotInGraph e.source)
  else if s.vertex? e.target.id ≠ some e.target then .raise (.endNotInGraph e.target)
  else if (s.edges.get? e.ends).isSome then .raise (.duplicateEdge e.source.id e.target.id)
  else do
    let leaving ← .demand (.keyMissing e.source.id) (s.outgoing.get? e.source.id)
    let arriving ← .demand (.keyMissing e.target.id) (s.incoming.get? e.target.id)
    .ok {
      vertices := s.vertices
      edges := s.edges.set e.ends e
      outgoing := s.outgoing.set e.source.id (leaving ++ [e])
      incoming := s.incoming.set e.target.id (arriving ++ [e]) }

/-- The one vertex of the given kinds that has an edge to a vertex. -/
def soleOwner (s : GraphStore) (v : Vertex) (expected : VertexKind) (ownerKinds : List VertexKind) :
    Except OwnerError Vertex :=
  if v.kind ≠ expected then .error (.notOfKind expected v)
  else SchemaGraph.soleOf (.notUnique ownerKinds v)
    (((s.edgesInto v).map (·.source)).filter fun owner => ownerKinds.contains owner.kind)

def containerOf (s : GraphStore) (v : Vertex) : Except OwnerError Vertex :=
  s.soleOwner v .field [.type .object, .type .interface]

def argumentOwner (s : GraphStore) (v : Vertex) : Except OwnerError Vertex :=
  s.soleOwner v .argument [.field, .directive]

def ofGraph (g : SchemaGraph) : GraphStore where
  vertices := g.vertices.map fun v => (v.id, v)
  edges := g.edges.map fun e => (e.ends, e)
  outgoing := g.vertices.map fun v => (v.id, g.edgesFrom v)
  incoming := g.vertices.map fun v => (v.id, g.edgesInto v)

variable (g : SchemaGraph)

theorem ofGraph_empty : ofGraph SchemaGraph.empty = empty := rfl

@[simp] theorem vertex?_ofGraph (id : String) : (ofGraph g).vertex? id = g.vertex? id := by
  rw [vertex?, ofGraph, Table.get?_ofList, Option.map_id']
  rfl

@[simp] theorem edges_get?_ofGraph (ends : String × String) : (ofGraph g).edges.get? ends = g.edgeAt? ends := by
  rw [ofGraph, Table.get?_ofList, Option.map_id']
  rfl

@[simp] theorem edge?_ofGraph (source target : Vertex) : (ofGraph g).edge? source target = g.edge? source target := by
  rw [edge?, edges_get?_ofGraph]
  rfl

theorem outgoing_get?_ofGraph (id : String) : (ofGraph g).outgoing.get? id = (g.vertex? id).map g.edgesFrom :=
  Table.get?_ofList g.vertices (·.id) g.edgesFrom id

theorem incoming_get?_ofGraph (id : String) : (ofGraph g).incoming.get? id = (g.vertex? id).map g.edgesInto :=
  Table.get?_ofList g.vertices (·.id) g.edgesInto id

variable {g}

theorem edgesFrom_eq_nil {v : Vertex} (h : g.vertex? v.id = none) : g.edgesFrom v = [] := by
  refine List.filter_eq_nil_iff.mpr fun e hMem hId => SchemaGraph.id_not_mem_of_vertex? h ?_
  rw [← of_decide_eq_true hId]
  exact List.mem_map_of_mem (g.ends_mem e hMem).1

theorem edgesInto_eq_nil {v : Vertex} (h : g.vertex? v.id = none) : g.edgesInto v = [] := by
  refine List.filter_eq_nil_iff.mpr fun e hMem hId => SchemaGraph.id_not_mem_of_vertex? h ?_
  rw [← of_decide_eq_true hId]
  exact List.mem_map_of_mem (g.ends_mem e hMem).2

/-- The edges at any vertex, of the graph or not, are those at the vertex with its id. -/
theorem getD_vertex? {edgesAt : Vertex → List Edge} {v : Vertex} (hId : ∀ w, w.id = v.id → edgesAt v = edgesAt w)
    (hNone : g.vertex? v.id = none → edgesAt v = []) : ((g.vertex? v.id).map edgesAt).getD [] = edgesAt v := by
  cases h : g.vertex? v.id with
  | none => exact (hNone h).symm
  | some w => exact (hId w (SchemaGraph.vertex?_eq_some_iff.mp h).2).symm

@[simp] theorem edgesFrom_ofGraph (v : Vertex) : (ofGraph g).edgesFrom v = g.edgesFrom v := by
  rw [edgesFrom, outgoing_get?_ofGraph]
  exact getD_vertex? (fun _ => SchemaGraph.edgesFrom_of_id_eq) edgesFrom_eq_nil

@[simp] theorem edgesInto_ofGraph (v : Vertex) : (ofGraph g).edgesInto v = g.edgesInto v := by
  rw [edgesInto, incoming_get?_ofGraph]
  exact getD_vertex? (fun _ => SchemaGraph.edgesInto_of_id_eq) edgesInto_eq_nil

theorem ext {s t : GraphStore} (hVertices : s.vertices = t.vertices) (hEdges : s.edges = t.edges)
    (hOutgoing : s.outgoing = t.outgoing) (hIncoming : s.incoming = t.incoming) : s = t := by
  cases s
  cases t
  cases hVertices
  cases hEdges
  cases hOutgoing
  cases hIncoming
  rfl

/-- A vertex that is there already changes no table. -/
theorem put_ofGraph_of_some {v : Vertex} (h : g.vertex? v.id = some v) : (ofGraph g).put v = ofGraph g := by
  refine ext ?_ rfl ?_ ?_
  · refine Table.set_of_get? ?_ ((vertex?_ofGraph g v.id).trans h)
    rw [ofGraph, List.map_map]
    exact g.ids_nodup
  · exact Table.setDefault_of_some ((outgoing_get?_ofGraph g v.id).trans (by rw [h]; rfl))
  · exact Table.setDefault_of_some ((incoming_get?_ofGraph g v.id).trans (by rw [h]; rfl))

theorem put_ofGraph_of_none {v : Vertex} {g' : SchemaGraph} (h : g.vertex? v.id = none)
    (hVertices : g'.vertices = g.vertices ++ [v]) (hEdges : g'.edges = g.edges) :
    (ofGraph g).put v = ofGraph g' := by
  have hFrom : ∀ w, g'.edgesFrom w = g.edgesFrom w := fun w => by rw [SchemaGraph.edgesFrom, hEdges]; rfl
  have hInto : ∀ w, g'.edgesInto w = g.edgesInto w := fun w => by rw [SchemaGraph.edgesInto, hEdges]; rfl
  refine ext ?_ ?_ ?_ ?_
  · refine (Table.set_of_none ((vertex?_ofGraph g v.id).trans h)).trans ?_
    rw [ofGraph, ofGraph, hVertices, List.map_append]
    rfl
  · rw [put, ofGraph, ofGraph, hEdges]
  · refine (Table.setDefault_of_none ((outgoing_get?_ofGraph g v.id).trans (by rw [h]; rfl))).trans ?_
    simp only [ofGraph, hVertices, List.map_append, List.map_singleton, hFrom, edgesFrom_eq_nil h]
  · refine (Table.setDefault_of_none ((incoming_get?_ofGraph g v.id).trans (by rw [h]; rfl))).trans ?_
    simp only [ofGraph, hVertices, List.map_append, List.map_singleton, hInto, edgesInto_eq_nil h]

theorem ofGraph_addVertex (v : Vertex) : (ofGraph g).addVertex v = (Guarded.plain (g.addVertex v)).map ofGraph := by
  rw [addVertex, vertex?_ofGraph]
  cases h : g.vertex? v.id with
  | none =>
    obtain ⟨g', hAdd, hVertices, hEdges⟩ := SchemaGraph.exists_addVertex h
    rw [hAdd]
    exact congrArg Except.ok (put_ofGraph_of_none h hVertices hEdges)
  | some w =>
    rw [SchemaGraph.addVertex_of_some h]
    by_cases hSame : w = v
    · subst hSame
      simp only [if_true]
      exact congrArg Except.ok (put_ofGraph_of_some h)
    · simp only [hSame, if_false]
      rfl

theorem edgesFrom_of_edges {g' : SchemaGraph} {e : Edge} (hEdges : g'.edges = g.edges ++ [e]) (v : Vertex) :
    g'.edgesFrom v = if v.id = e.source.id then g.edgesFrom e.source ++ [e] else g.edgesFrom v := by
  rw [SchemaGraph.edgesFrom, hEdges, List.filter_append]
  by_cases hId : v.id = e.source.id
  · simp [hId, SchemaGraph.edgesFrom]
  · simp [hId, Ne.symm hId, SchemaGraph.edgesFrom]

theorem edgesInto_of_edges {g' : SchemaGraph} {e : Edge} (hEdges : g'.edges = g.edges ++ [e]) (v : Vertex) :
    g'.edgesInto v = if v.id = e.target.id then g.edgesInto e.target ++ [e] else g.edgesInto v := by
  rw [SchemaGraph.edgesInto, hEdges, List.filter_append]
  by_cases hId : v.id = e.target.id
  · simp [hId, SchemaGraph.edgesInto]
  · simp [hId, Ne.symm hId, SchemaGraph.edgesInto]

/-- Where the graph takes an edge, both lists that the store extends are there. -/
theorem ofGraph_addEdge (e : Edge) : (ofGraph g).addEdge e = (Guarded.plain (g.addEdge e)).map ofGraph := by
  simp only [addEdge, vertex?_ofGraph, edges_get?_ofGraph, ne_eq, SchemaGraph.vertex?_eq_some_iff, and_true]
  by_cases hSource : e.source ∈ g
  · by_cases hTarget : e.target ∈ g
    · cases hEdge : g.edgeAt? e.ends with
      | some held =>
        rw [SchemaGraph.addEdge_of_some hSource hTarget hEdge, if_neg (not_not_intro hSource),
          if_neg (not_not_intro hTarget)]
        rfl
      | none =>
        obtain ⟨g', hAdd⟩ := SchemaGraph.exists_addEdge hSource hTarget hEdge
        obtain ⟨hVertices, hEdges⟩ := SchemaGraph.lists_of_addEdge hAdd
        have hLeaving : (ofGraph g).outgoing.get? e.source.id = some (g.edgesFrom e.source) := by
          rw [outgoing_get?_ofGraph, SchemaGraph.vertex?_eq_some_iff.mpr ⟨hSource, rfl⟩]
          rfl
        have hArriving : (ofGraph g).incoming.get? e.target.id = some (g.edgesInto e.target) := by
          rw [incoming_get?_ofGraph, SchemaGraph.vertex?_eq_some_iff.mpr ⟨hTarget, rfl⟩]
          rfl
        rw [hAdd, if_neg (not_not_intro hSource), if_neg (not_not_intro hTarget), hLeaving, hArriving]
        refine congrArg Except.ok (ext ?_ ?_ ?_ ?_)
        · simp only [ofGraph, hVertices]
        · refine (Table.set_of_none ((edges_get?_ofGraph g e.ends).trans hEdge)).trans ?_
          simp only [ofGraph, hEdges, List.map_append, List.map_singleton]
        · refine (Table.set_ofList_of_some hLeaving).trans ?_
          simp only [ofGraph, hVertices, edgesFrom_of_edges hEdges]
        · refine (Table.set_ofList_of_some hArriving).trans ?_
          simp only [ofGraph, hVertices, edgesInto_of_edges hEdges]
    · rw [SchemaGraph.addEdge_of_target_not_mem hSource hTarget, if_neg (not_not_intro hSource), if_pos hTarget]
      rfl
  · rw [SchemaGraph.addEdge_of_source_not_mem hSource, if_pos hSource]
    rfl

theorem soleOf_map {α β ε : Type} (unexpected : Nat → ε) (f : α → β) (owners : List α) :
    SchemaGraph.soleOf unexpected (owners.map f) = (SchemaGraph.soleOf unexpected owners).map f := by
  match owners with
  | [] => rfl
  | [owner] => rfl
  | first :: second :: rest =>
    simp only [SchemaGraph.soleOf, List.map_cons, List.length_cons, List.length_map]
    rfl

theorem sources_filter_eq {α : Type} (ofVertex? : Vertex → Option α) (vertex : α → Vertex) (kinds : List VertexKind)
    (h : ∀ v, (ofVertex? v).map vertex = if kinds.contains v.kind = true then some v else none) (edges : List Edge) :
    (edges.map (·.source)).filter (fun owner => kinds.contains owner.kind) =
      (edges.filterMap (ofVertex? ·.source)).map vertex := by
  induction edges with
  | nil => rfl
  | cons e edges ih =>
    have hHead := h e.source
    rw [List.map_cons, List.filter_cons, ih, List.filterMap_cons]
    cases hOwner : ofVertex? e.source with
    | none =>
      rw [hOwner] at hHead
      split at hHead
      · cases hHead
      · rw [if_neg ‹_›]
    | some owner =>
      rw [hOwner] at hHead
      split at hHead
      · rw [if_pos ‹_›, List.map_cons, Option.some.inj hHead]
      · cases hHead

theorem vertex_of_container (v : Vertex) : (Container.ofVertex? v).map (·.vertex) =
    if [VertexKind.type .object, .type .interface].contains v.kind = true then some v else none := by
  cases h : Container.ofVertex? v with
  | some c =>
    have hSome : (Container.ofVertex? v).isSome = true := by rw [h]; rfl
    rw [if_pos (by simpa using Container.isSome_ofVertex?_iff.mp hSome)]
    exact congrArg some (Container.ofVertex?_eq_some_iff.mp h)
  | none =>
    rw [if_neg]
    · rfl
    · intro hKind
      have hSome := Container.isSome_ofVertex?_iff.mpr (by simpa using hKind)
      rw [h] at hSome
      cases hSome

theorem vertex_of_argumentOwner (v : Vertex) : (ArgumentOwner.ofVertex? v).map (·.vertex) =
    if [VertexKind.field, .directive].contains v.kind = true then some v else none := by
  unfold ArgumentOwner.ofVertex?
  cases v.kind with
  | field | directive => rfl
  | argument => rfl
  | type kind => rfl

@[simp] theorem containerOf_ofGraph (v : Vertex) :
    (ofGraph g).containerOf v = (g.containerOf v).map (·.vertex) := by
  rw [containerOf, soleOwner, edgesInto_ofGraph, sources_filter_eq _ _ _ vertex_of_container, soleOf_map,
    SchemaGraph.containerOf]
  by_cases hKind : v.kind = .field
  · rw [if_neg (not_not_intro hKind), if_pos hKind]
  · rw [if_pos hKind, if_neg hKind]
    rfl

@[simp] theorem argumentOwner_ofGraph (v : Vertex) :
    (ofGraph g).argumentOwner v = (g.argumentOwner v).map (·.vertex) := by
  rw [argumentOwner, soleOwner, edgesInto_ofGraph, sources_filter_eq _ _ _ vertex_of_argumentOwner, soleOf_map,
    SchemaGraph.argumentOwner]
  by_cases hKind : v.kind = .argument
  · rw [if_neg (not_not_intro hKind), if_pos hKind]
  · rw [if_pos hKind, if_neg hKind]
    rfl

end GraphStore

end SchemaChange
