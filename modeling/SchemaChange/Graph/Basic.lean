import SchemaChange.Graph.Vertex

/-! # Schema graphs

A graph lists the vertices and edges of one version of a schema in the order in which they were added. Ids are
unique, so are the pairs of end ids, and an edge's ends are in the graph; the type carries these facts. A refused
addition gives a cause and no graph, so it changes nothing.
-/
namespace SchemaChange

theorem nodup_concat {α : Type} {xs : List α} {x : α} (h : xs.Nodup) (hx : x ∉ xs) : (xs ++ [x]).Nodup := by
  refine List.nodup_append.2 ⟨h, by simp, ?_⟩
  intro a ha b hb hab
  rw [List.mem_singleton.1 hb] at hab
  exact hx (hab ▸ ha)

inductive GraphError where
  | duplicateVertex (id : String)
  | endNotInGraph (vertex : Vertex)
  | duplicateEdge (source target : String)
  deriving DecidableEq, Repr

def GraphError.message : GraphError → String
  | duplicateVertex id => "Duplicate vertex id: " ++ id
  | endNotInGraph v => "Edge endpoint not in graph: " ++ v.describe
  | duplicateEdge source target => "Duplicate edge: " ++ source ++ " -> " ++ target

structure SchemaGraph where
  vertices : List Vertex
  edges : List Edge
  ids_nodup : (vertices.map (·.id)).Nodup
  ends_nodup : (edges.map (·.ends)).Nodup
  ends_mem : ∀ e ∈ edges, e.source ∈ vertices ∧ e.target ∈ vertices

namespace SchemaGraph

def empty : SchemaGraph where
  vertices := []
  edges := []
  ids_nodup := List.nodup_nil
  ends_nodup := List.nodup_nil
  ends_mem := by simp

instance : Membership Vertex SchemaGraph := ⟨fun g v => v ∈ g.vertices⟩

instance (v : Vertex) (g : SchemaGraph) : Decidable (v ∈ g) :=
  inferInstanceAs (Decidable (v ∈ g.vertices))

def size (g : SchemaGraph) : Nat := g.vertices.length

def vertex? (g : SchemaGraph) (id : String) : Option Vertex := g.vertices.find? (·.id = id)

def edgeAt? (g : SchemaGraph) (ends : String × String) : Option Edge := g.edges.find? (·.ends = ends)

/-- The edge from the one vertex to the other: it is found by the ids of its ends, and has to leave `source` itself. -/
def edge? (g : SchemaGraph) (source target : Vertex) : Option Edge :=
  (g.edgeAt? (source.id, target.id)).filter (·.source = source)

/-- The edges that leave the vertex with the id of `v`, in order of addition. -/
def edgesFrom (g : SchemaGraph) (v : Vertex) : List Edge := g.edges.filter (·.source.id = v.id)

/-- The edges that arrive at the vertex with the id of `v`, in order of addition. -/
def edgesInto (g : SchemaGraph) (v : Vertex) : List Edge := g.edges.filter (·.target.id = v.id)

theorem id_not_mem_of_vertex? {g : SchemaGraph} {id : String} (h : g.vertex? id = none) :
    id ∉ g.vertices.map (·.id) := by
  intro hMem
  obtain ⟨v, hv, rfl⟩ := List.mem_map.1 hMem
  simpa using List.find?_eq_none.1 h v hv

theorem ends_not_mem_of_edgeAt? {g : SchemaGraph} {ends : String × String} (h : g.edgeAt? ends = none) :
    ends ∉ g.edges.map (·.ends) := by
  intro hMem
  obtain ⟨e, he, rfl⟩ := List.mem_map.1 hMem
  simpa using List.find?_eq_none.1 h e he

/-- Adds a vertex at the end. The same vertex may be added again without effect; a different one may not reuse
an id. -/
def addVertex (g : SchemaGraph) (v : Vertex) : Except GraphError SchemaGraph :=
  match h : g.vertex? v.id with
  | some w => if w = v then .ok g else .error (.duplicateVertex v.id)
  | none => .ok {
      vertices := g.vertices ++ [v]
      edges := g.edges
      ids_nodup := by
        rw [List.map_append]
        exact nodup_concat g.ids_nodup (id_not_mem_of_vertex? h)
      ends_nodup := g.ends_nodup
      ends_mem := fun e he =>
        ⟨List.mem_append_left _ (g.ends_mem e he).1, List.mem_append_left _ (g.ends_mem e he).2⟩ }

/-- Adds an edge at the end. The source is looked for before the target, and both before an earlier edge. -/
def addEdge (g : SchemaGraph) (e : Edge) : Except GraphError SchemaGraph :=
  if hSource : e.source ∈ g.vertices then
    if hTarget : e.target ∈ g.vertices then
      match h : g.edgeAt? e.ends with
      | some _ => .error (.duplicateEdge e.source.id e.target.id)
      | none => .ok {
          vertices := g.vertices
          edges := g.edges ++ [e]
          ids_nodup := g.ids_nodup
          ends_nodup := by
            rw [List.map_append]
            exact nodup_concat g.ends_nodup (ends_not_mem_of_edgeAt? h)
          ends_mem := by
            intro e' he'
            rcases List.mem_append.1 he' with hOld | hNew
            · exact g.ends_mem e' hOld
            · rw [List.mem_singleton.1 hNew]
              exact ⟨hSource, hTarget⟩ }
    else .error (.endNotInGraph e.target)
  else .error (.endNotInGraph e.source)

end SchemaGraph

end SchemaChange
