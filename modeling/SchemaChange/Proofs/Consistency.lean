import SchemaChange.Proofs.Admission
import SchemaChange.Proofs.Distinct
import SchemaChange.Script.Load

/-! # Consistent documents

A document of the right shape may still use an id for two vertices or for none. It is consistent if every id, pair of
ids and matching entry can be read in one way; exactly these documents give inputs, and the inputs have each vertex,
edge, pair and operation of the document and no others, in its order.
-/
namespace SchemaChange

def EdgeSpec.ends (spec : EdgeSpec) : String × String := (spec.source, spec.target)

namespace GraphSpec

def ids (spec : GraphSpec) : List String := spec.vertices.map (·.id)

def ends (spec : GraphSpec) : List (String × String) := spec.edges.map (·.ends)

/-- Edges lie between vertices with the given ids, no two of them in one place. -/
def EdgesAgree (ids : List String) (edges : List EdgeSpec) : Prop :=
  (∀ e ∈ edges, e.source ∈ ids ∧ e.target ∈ ids) ∧ (edges.map (·.ends)).Nodup

structure Consistent (spec : GraphSpec) : Prop where
  ids_nodup : spec.ids.Nodup
  edges_agree : EdgesAgree spec.ids spec.edges

/-- A reference names a vertex, for an operation on vertices, or an edge, for one on edges. -/
def Names (spec : GraphSpec) (onVertices : Bool) : ElementRef → Prop
  | .vertex id => onVertices = true ∧ id ∈ spec.ids
  | .edge source target => onVertices = false ∧ (source, target) ∈ spec.ends

end GraphSpec

namespace OperationKind

def hasSource : OperationKind → Bool
  | insertVertex | insertEdge => false
  | deleteVertex | changeVertex | deleteEdge | changeEdge => true

def hasTarget : OperationKind → Bool
  | deleteVertex | deleteEdge => false
  | insertVertex | changeVertex | insertEdge | changeEdge => true

end OperationKind

/-- An operation has the sides that its kind needs; the source is in the old graph, the target in the new one. -/
structure OperationSpec.Consistent (oldGraph newGraph : GraphSpec) (spec : OperationSpec) : Prop where
  source : ∀ ref ∈ spec.source, oldGraph.Names spec.kind.isOnVertices ref
  target : ∀ ref ∈ spec.target, newGraph.Names spec.kind.isOnVertices ref
  isSome_source : spec.source.isSome = spec.kind.hasSource
  isSome_target : spec.target.isSome = spec.kind.hasTarget

/-- Entries of a matching join old ids with new ones, one to one. The same entry may come again. -/
def MatchSpec.Agree (oldIds newIds : List String) (matching : List MatchSpec) : Prop :=
  (∀ m ∈ matching, m.source ∈ oldIds ∧ m.target ∈ newIds) ∧
  ∀ m ∈ matching, ∀ m' ∈ matching, m.source = m'.source ↔ m.target = m'.target

structure Document.Consistent (document : Document) : Prop where
  oldGraph : document.oldGraph.Consistent
  newGraph : document.newGraph.Consistent
  matching : MatchSpec.Agree document.oldGraph.ids document.newGraph.ids document.matching
  operations : ∀ spec ∈ document.operations, spec.Consistent document.oldGraph document.newGraph

section

variable {oldGraph newGraph spec : GraphSpec}

instance (ids : List String) : DecidablePred (GraphSpec.EdgesAgree ids) := fun _ => inferInstanceAs (Decidable (_ ∧ _))

instance : Decidable spec.Consistent :=
  decidable_of_iff (spec.ids.Nodup ∧ GraphSpec.EdgesAgree spec.ids spec.edges)
    ⟨fun h => ⟨h.1, h.2⟩, fun h => ⟨h.ids_nodup, h.edges_agree⟩⟩

instance (onVertices : Bool) : DecidablePred (spec.Names onVertices)
  | .vertex _ => inferInstanceAs (Decidable (_ ∧ _))
  | .edge _ _ => inferInstanceAs (Decidable (_ ∧ _))

instance : DecidablePred (OperationSpec.Consistent oldGraph newGraph) := fun spec =>
  decidable_of_iff
    (((∀ ref ∈ spec.source, oldGraph.Names spec.kind.isOnVertices ref) ∧
      ∀ ref ∈ spec.target, newGraph.Names spec.kind.isOnVertices ref) ∧
      spec.source.isSome = spec.kind.hasSource ∧ spec.target.isSome = spec.kind.hasTarget)
    ⟨fun h => ⟨h.1.1, h.1.2, h.2.1, h.2.2⟩, fun h => ⟨⟨h.source, h.target⟩, h.isSome_source, h.isSome_target⟩⟩

instance (oldIds newIds : List String) : DecidablePred (MatchSpec.Agree oldIds newIds) := fun _ =>
  inferInstanceAs (Decidable (_ ∧ _))

instance (document : Document) : Decidable document.Consistent :=
  decidable_of_iff
    ((document.oldGraph.Consistent ∧ document.newGraph.Consistent) ∧
      MatchSpec.Agree document.oldGraph.ids document.newGraph.ids document.matching ∧
      ∀ spec ∈ document.operations, spec.Consistent document.oldGraph document.newGraph)
    ⟨fun h => ⟨h.1.1, h.1.2, h.2.1, h.2.2⟩, fun h => ⟨⟨h.oldGraph, h.newGraph⟩, h.matching, h.operations⟩⟩

end

def Vertex.spec (v : Vertex) : VertexSpec := ⟨v.id, v.kind, v.name⟩

def Edge.spec (e : Edge) : EdgeSpec := ⟨e.source.id, e.target.id, e.label⟩

structure SchemaGraph.Realizes (g : SchemaGraph) (spec : GraphSpec) : Prop where
  vertices : g.vertices.map (·.spec) = spec.vertices
  edges : g.edges.map (·.spec) = spec.edges

/-- An operation acts on vertices or edges of the graphs themselves, those with the ids that its description has. -/
inductive OperationSpec.Denotes (oldGraph newGraph : SchemaGraph) : OperationSpec → EditOperation → Prop
  | insertVertex {target : Vertex} : target ∈ newGraph →
    Denotes oldGraph newGraph ⟨.insertVertex, none, some (.vertex target.id)⟩ (.insertVertex target)
  | deleteVertex {source : Vertex} : source ∈ oldGraph →
    Denotes oldGraph newGraph ⟨.deleteVertex, some (.vertex source.id), none⟩ (.deleteVertex source)
  | changeVertex {source target : Vertex} : source ∈ oldGraph → target ∈ newGraph →
    Denotes oldGraph newGraph ⟨.changeVertex, some (.vertex source.id), some (.vertex target.id)⟩
      (.changeVertex source target)
  | insertEdge {target : Edge} : target ∈ newGraph.edges →
    Denotes oldGraph newGraph ⟨.insertEdge, none, some (.edge target.source.id target.target.id)⟩ (.insertEdge target)
  | deleteEdge {source : Edge} : source ∈ oldGraph.edges →
    Denotes oldGraph newGraph ⟨.deleteEdge, some (.edge source.source.id source.target.id), none⟩ (.deleteEdge source)
  | changeEdge {source target : Edge} : source ∈ oldGraph.edges → target ∈ newGraph.edges →
    Denotes oldGraph newGraph ⟨.changeEdge, some (.edge source.source.id source.target.id),
      some (.edge target.source.id target.target.id)⟩ (.changeEdge source target)

/-- The inputs have the parts of the document, all of them and no others, in the document's order. -/
structure Inputs.Realizes (inputs : Inputs) (document : Document) : Prop where
  oldGraph : inputs.oldGraph.Realizes document.oldGraph
  newGraph : inputs.newGraph.Realizes document.newGraph
  /-- An old vertex and a new one are different, even if a document describes them alike. -/
  disjoint : ∀ v ∈ inputs.oldGraph, v ∉ inputs.newGraph
  target?_iff : ∀ source target, inputs.matching.target? source = some target ↔
    source ∈ inputs.oldGraph ∧ target ∈ inputs.newGraph ∧ ⟨source.id, target.id⟩ ∈ document.matching
  source?_iff : ∀ target source, inputs.matching.source? target = some source ↔
    source ∈ inputs.oldGraph ∧ target ∈ inputs.newGraph ∧ ⟨source.id, target.id⟩ ∈ document.matching
  operations : List.Forall₂ (OperationSpec.Denotes inputs.oldGraph inputs.newGraph) document.operations inputs.operations

end SchemaChange
