import SchemaChange.Script.Document
import SchemaChange.Analysis.Finding

/-! # Resolution of edit scripts

A checked document is turned into graphs, a matching and operations by looking up the ids it uses. The first id or
pair that does not fit is the error: of the old graph its vertices, then its edges, then the new graph, the matching,
and the operations in order. Within one side of a document an id names one vertex, so the side serves as the stamp.
-/
namespace SchemaChange

inductive Side where
  | old | new
  deriving DecidableEq, Repr

def Side.title : Side → String
  | old => "old"
  | new => "new"

/-- Vertices of different sides differ, whatever their ids and names. -/
def Side.stamp : Side → Nat
  | old => 0
  | new => 1

inductive ResolveError where
  | graph (error : GraphError)
  | unknownVertex (side : Side) (id : String)
  | unknownEdge (side : Side) (source target : String)
  | conflict (error : MatchingConflict)
  | pairForVertex (source target : String)
  | idForEdge (id : String)
  | sides (error : SidesError)
  deriving DecidableEq, Repr

def ResolveError.message : ResolveError → String
  | graph error => error.message
  | unknownVertex side id => "Unknown " ++ side.title ++ " graph vertex: " ++ id
  | unknownEdge side source target =>
    "Unknown " ++ side.title ++ " graph edge: " ++ source ++ " -> " ++ target
  | conflict error => error.message
  | pairForVertex source target =>
    "Vertex operations take vertex ids, got " ++ Text.quotedList [source, target]
  | idForEdge id => "Edge operations take [from, to] pairs, got " ++ Text.quoted id
  | sides error => error.message

def VertexSpec.toVertex (side : Side) (spec : VertexSpec) : Vertex := ⟨side.stamp, spec.id, spec.kind, spec.name⟩

namespace Resolve

/-- An id may be declared once, even if the declarations agree. -/
def addVertex (side : Side) (g : SchemaGraph) (spec : VertexSpec) : Except ResolveError SchemaGraph :=
  if (g.vertex? spec.id).isSome then .error (.graph (.duplicateVertex spec.id))
  else (g.addVertex (VertexSpec.toVertex side spec)).mapError .graph

def vertex (side : Side) (g : SchemaGraph) (id : String) : Except ResolveError Vertex :=
  match g.vertex? id with
  | some v => .ok v
  | none => .error (.unknownVertex side id)

def addEdge (side : Side) (g : SchemaGraph) (spec : EdgeSpec) : Except ResolveError SchemaGraph := do
  let source ← vertex side g spec.source
  let target ← vertex side g spec.target
  (g.addEdge ⟨side.stamp, source, target, spec.label⟩).mapError .graph

def graph (side : Side) (spec : GraphSpec) : Except ResolveError SchemaGraph := do
  let g ← spec.vertices.foldlM (addVertex side) SchemaGraph.empty
  spec.edges.foldlM (addEdge side) g

def addMatch (oldGraph newGraph : SchemaGraph) (m : Matching) (spec : MatchSpec) :
    Except ResolveError Matching := do
  let source ← vertex .old oldGraph spec.source
  let target ← vertex .new newGraph spec.target
  (m.put source target).mapError .conflict

def vertexRef (side : Side) (g : SchemaGraph) : Option ElementRef → Except ResolveError (Option Vertex)
  | none => .ok none
  | some (.vertex id) => (vertex side g id).map some
  | some (.edge source target) => .error (.pairForVertex source target)

def edgeRef (side : Side) (g : SchemaGraph) : Option ElementRef → Except ResolveError (Option Edge)
  | none => .ok none
  | some (.vertex id) => .error (.idForEdge id)
  | some (.edge source target) => do
    let u ← vertex side g source
    let v ← vertex side g target
    match g.edge? u v with
    | some e => .ok (some e)
    | none => .error (.unknownEdge side source target)

def operation (oldGraph newGraph : SchemaGraph) (spec : OperationSpec) :
    Except ResolveError EditOperation :=
  if spec.kind.isOnVertices then do
    let source ← vertexRef .old oldGraph spec.source
    let target ← vertexRef .new newGraph spec.target
    (EditOperation.ofVertices spec.kind source target).mapError .sides
  else do
    let source ← edgeRef .old oldGraph spec.source
    let target ← edgeRef .new newGraph spec.target
    (EditOperation.ofEdges spec.kind source target).mapError .sides

end Resolve

/-- The graphs, the matching and the operations of a document. -/
def Document.resolve (document : Document) : Except ResolveError Inputs := do
  let oldGraph ← Resolve.graph .old document.oldGraph
  let newGraph ← Resolve.graph .new document.newGraph
  let matching ← document.matching.foldlM (Resolve.addMatch oldGraph newGraph) Matching.empty
  let operations ← document.operations.mapM (Resolve.operation oldGraph newGraph)
  .ok ⟨oldGraph, newGraph, matching, operations⟩

end SchemaChange
