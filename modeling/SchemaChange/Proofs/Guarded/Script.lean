import SchemaChange.Proofs.Consistency
import SchemaChange.Proofs.Stores.Graph

/-! # Scripts with optional sides

A script keeps its graphs as stores, and each operation as a kind with four sides that may be absent. An operation is
checked when it is made: it has no side of the other sort, and of its own sort those that its kind needs. Loading
builds the stores and operations of a document step by step, and gives exactly what its resolution gives.
-/
namespace SchemaChange

structure SidedOperation where
  kind : OperationKind
  sourceVertex : Option Vertex
  targetVertex : Option Vertex
  sourceEdge : Option Edge
  targetEdge : Option Edge
  deriving DecidableEq, Repr

namespace SidedOperation

def make (kind : OperationKind) (sourceVertex targetVertex : Option Vertex) (sourceEdge targetEdge : Option Edge) :
    Except SidesError SidedOperation :=
  let (hasSource, hasTarget, hasOther) :=
    if kind.isOnVertices then
      (sourceVertex.isSome, targetVertex.isSome, sourceEdge.isSome || targetEdge.isSome)
    else (sourceEdge.isSome, targetEdge.isSome, sourceVertex.isSome || targetVertex.isSome)
  if hasOther then .error (.mixed kind)
  else if hasSource ≠ kind.hasSource ∨ hasTarget ≠ kind.hasTarget then .error (.wrong kind)
  else .ok ⟨kind, sourceVertex, targetVertex, sourceEdge, targetEdge⟩

def describe (op : SidedOperation) : String :=
  let sides := (op.sourceVertex.map (·.describe)).toList ++ (op.targetVertex.map (·.describe)).toList
    ++ (op.sourceEdge.map (·.describe)).toList ++ (op.targetEdge.map (·.describe)).toList
  op.kind.title ++ "(" ++ ", ".intercalate sides ++ ")"

variable {ε : Type}

def demandSourceVertex (op : SidedOperation) : Guarded ε Vertex := .demand .sideAbsent op.sourceVertex

def demandTargetVertex (op : SidedOperation) : Guarded ε Vertex := .demand .sideAbsent op.targetVertex

def demandSourceEdge (op : SidedOperation) : Guarded ε Edge := .demand .sideAbsent op.sourceEdge

def demandTargetEdge (op : SidedOperation) : Guarded ε Edge := .demand .sideAbsent op.targetEdge

def ofOperation : EditOperation → SidedOperation
  | .insertVertex target => ⟨.insertVertex, none, some target, none, none⟩
  | .deleteVertex source => ⟨.deleteVertex, some source, none, none, none⟩
  | .changeVertex source target => ⟨.changeVertex, some source, some target, none, none⟩
  | .insertEdge target => ⟨.insertEdge, none, none, none, some target⟩
  | .deleteEdge source => ⟨.deleteEdge, none, none, some source, none⟩
  | .changeEdge source target => ⟨.changeEdge, none, none, some source, some target⟩

@[simp] theorem describe_ofOperation (op : EditOperation) : (ofOperation op).describe = op.describe := by
  cases op <;> rfl

section Demands

variable (v w : Vertex) (e f : Edge)

@[simp] theorem demandTargetVertex_insertVertex :
    (ofOperation (.insertVertex v)).demandTargetVertex = (.ok v : Guarded ε Vertex) := rfl

@[simp] theorem demandSourceVertex_deleteVertex :
    (ofOperation (.deleteVertex v)).demandSourceVertex = (.ok v : Guarded ε Vertex) := rfl

@[simp] theorem demandSourceVertex_changeVertex :
    (ofOperation (.changeVertex v w)).demandSourceVertex = (.ok v : Guarded ε Vertex) := rfl

@[simp] theorem demandTargetVertex_changeVertex :
    (ofOperation (.changeVertex v w)).demandTargetVertex = (.ok w : Guarded ε Vertex) := rfl

@[simp] theorem demandTargetEdge_insertEdge :
    (ofOperation (.insertEdge e)).demandTargetEdge = (.ok e : Guarded ε Edge) := rfl

@[simp] theorem demandSourceEdge_deleteEdge :
    (ofOperation (.deleteEdge e)).demandSourceEdge = (.ok e : Guarded ε Edge) := rfl

@[simp] theorem demandSourceEdge_changeEdge :
    (ofOperation (.changeEdge e f)).demandSourceEdge = (.ok e : Guarded ε Edge) := rfl

@[simp] theorem demandTargetEdge_changeEdge :
    (ofOperation (.changeEdge e f)).demandTargetEdge = (.ok f : Guarded ε Edge) := rfl

end Demands

/-- Exactly the sides of an operation make one. -/
theorem make_eq (kind : OperationKind) (sourceVertex targetVertex : Option Vertex) (sourceEdge targetEdge : Option Edge) :
    make kind sourceVertex targetVertex sourceEdge targetEdge =
      (EditOperation.ofSides kind sourceVertex targetVertex sourceEdge targetEdge).map ofOperation := by
  cases kind <;> cases sourceVertex <;> cases targetVertex <;> cases sourceEdge <;> cases targetEdge <;> rfl

theorem make_of_vertices {kind : OperationKind} (h : kind.isOnVertices = true) (source target : Option Vertex) :
    make kind source target none none = (EditOperation.ofVertices kind source target).map ofOperation := by
  rw [make_eq, EditOperation.ofSides, if_pos h]
  rfl

theorem make_of_edges {kind : OperationKind} (h : kind.isOnVertices = false) (source target : Option Edge) :
    make kind none none source target = (EditOperation.ofEdges kind source target).map ofOperation := by
  rw [make_eq, EditOperation.ofSides, if_neg (by rw [h]; decide)]
  rfl

end SidedOperation

structure Script where
  oldGraph : GraphStore
  newGraph : GraphStore
  matching : Matching
  operations : List SidedOperation

def Script.ofInputs (inputs : Inputs) : Script where
  oldGraph := .ofGraph inputs.oldGraph
  newGraph := .ofGraph inputs.newGraph
  matching := inputs.matching
  operations := inputs.operations.map .ofOperation

namespace Script

section Inputs

variable {inputs : Inputs}

@[simp] theorem oldGraph_ofInputs : (ofInputs inputs).oldGraph = .ofGraph inputs.oldGraph := rfl

@[simp] theorem newGraph_ofInputs : (ofInputs inputs).newGraph = .ofGraph inputs.newGraph := rfl

@[simp] theorem matching_ofInputs : (ofInputs inputs).matching = inputs.matching := rfl

@[simp] theorem operations_ofInputs : (ofInputs inputs).operations = inputs.operations.map .ofOperation := rfl

end Inputs

def vertex (side : Side) (s : GraphStore) (id : String) : Guarded ResolveError Vertex :=
  match s.vertex? id with
  | some v => .ok v
  | none => .raise (.unknownVertex side id)

/-- A description always stands for a new vertex, also if it agrees with an earlier one. -/
def addVertex (side : Side) (s : GraphStore) (spec : VertexSpec) : Guarded ResolveError GraphStore :=
  if (s.vertex? spec.id).isSome then .raise (.graph (.duplicateVertex spec.id))
  else .rephrase .graph (s.addVertex (spec.toVertex side))

def addEdge (side : Side) (s : GraphStore) (spec : EdgeSpec) : Guarded ResolveError GraphStore := do
  let source ← vertex side s spec.source
  let target ← vertex side s spec.target
  .rephrase .graph (s.addEdge ⟨side.stamp, source, target, spec.label⟩)

def graph (side : Side) (spec : GraphSpec) : Guarded ResolveError GraphStore := do
  let s ← spec.vertices.foldlM (addVertex side) GraphStore.empty
  spec.edges.foldlM (addEdge side) s

def addMatch (oldGraph newGraph : GraphStore) (m : Matching) (spec : MatchSpec) : Guarded ResolveError Matching := do
  let source ← vertex .old oldGraph spec.source
  let target ← vertex .new newGraph spec.target
  .plain ((m.put source target).mapError .conflict)

def vertexRef (side : Side) (s : GraphStore) : Option ElementRef → Guarded ResolveError (Option Vertex)
  | none => .ok none
  | some (.vertex id) => do
    let v ← vertex side s id
    .ok (some v)
  | some (.edge source target) => .raise (.pairForVertex source target)

def edgeRef (side : Side) (s : GraphStore) : Option ElementRef → Guarded ResolveError (Option Edge)
  | none => .ok none
  | some (.vertex id) => .raise (.idForEdge id)
  | some (.edge source target) => do
    let u ← vertex side s source
    let v ← vertex side s target
    match s.edge? u v with
    | some e => .ok (some e)
    | none => .raise (.unknownEdge side source target)

def operation (oldGraph newGraph : GraphStore) (spec : OperationSpec) : Guarded ResolveError SidedOperation :=
  if spec.kind.isOnVertices then do
    let source ← vertexRef .old oldGraph spec.source
    let target ← vertexRef .new newGraph spec.target
    .plain ((SidedOperation.make spec.kind source target none none).mapError .sides)
  else do
    let source ← edgeRef .old oldGraph spec.source
    let target ← edgeRef .new newGraph spec.target
    .plain ((SidedOperation.make spec.kind none none source target).mapError .sides)

def resolve (document : Document) : Guarded ResolveError Script := do
  let oldGraph ← graph .old document.oldGraph
  let newGraph ← graph .new document.newGraph
  let matching ← document.matching.foldlM (addMatch oldGraph newGraph) Matching.empty
  let operations ← document.operations.mapM (operation oldGraph newGraph)
  .ok ⟨oldGraph, newGraph, matching, operations⟩

def load : Value → Guarded (LoadError (List Problem)) Script
  | .map entries =>
    match Document.ofEntries entries with
    | .ok document => .rephrase .unresolved (resolve document)
    | .error problems => .raise (.invalid problems)
  | _ => .raise .notMapping

variable {side : Side} (g oldGraph newGraph : SchemaGraph)

open GraphStore

theorem vertex_ofGraph (id : String) : vertex side (ofGraph g) id = .plain (Resolve.vertex side g id) := by
  rw [vertex, vertex?_ofGraph, Resolve.vertex]
  cases g.vertex? id <;> rfl

theorem addVertex_ofGraph (spec : VertexSpec) :
    addVertex side (ofGraph g) spec = (Guarded.plain (Resolve.addVertex side g spec)).map ofGraph := by
  rw [addVertex, vertex?_ofGraph, Resolve.addVertex]
  split
  · rfl
  · rw [ofGraph_addVertex, Guarded.rephrase_map, Guarded.rephrase_plain]

theorem addEdge_ofGraph (spec : EdgeSpec) :
    addEdge side (ofGraph g) spec = (Guarded.plain (Resolve.addEdge side g spec)).map ofGraph := by
  rw [addEdge, Resolve.addEdge, vertex_ofGraph, vertex_ofGraph]
  cases Resolve.vertex side g spec.source with
  | error error => rfl
  | ok source =>
    cases Resolve.vertex side g spec.target with
    | error error => rfl
    | ok target =>
      simp only [Guarded.plain_ok, Guarded.ok_bind, ofGraph_addEdge, Guarded.rephrase_map, Guarded.rephrase_plain]
      rfl

theorem graph_eq (spec : GraphSpec) : graph side spec = (Guarded.plain (Resolve.graph side spec)).map ofGraph := by
  rw [graph, Resolve.graph, ← ofGraph_empty, Guarded.foldlM_map_eq addVertex_ofGraph]
  cases spec.vertices.foldlM (Resolve.addVertex side) SchemaGraph.empty with
  | error error => rfl
  | ok declared => exact Guarded.foldlM_map_eq addEdge_ofGraph spec.edges declared

theorem addMatch_ofGraph (m : Matching) (spec : MatchSpec) :
    addMatch (ofGraph oldGraph) (ofGraph newGraph) m spec = .plain (Resolve.addMatch oldGraph newGraph m spec) := by
  rw [addMatch, Resolve.addMatch, vertex_ofGraph, vertex_ofGraph]
  cases Resolve.vertex .old oldGraph spec.source with
  | error error => rfl
  | ok source => cases Resolve.vertex .new newGraph spec.target <;> rfl

theorem vertexRef_ofGraph (ref : Option ElementRef) :
    vertexRef side (ofGraph g) ref = .plain (Resolve.vertexRef side g ref) := by
  cases ref with
  | none => rfl
  | some ref =>
    cases ref with
    | vertex id =>
      rw [vertexRef, vertex_ofGraph, Resolve.vertexRef]
      cases Resolve.vertex side g id <;> rfl
    | edge source target => rfl

theorem edgeRef_ofGraph (ref : Option ElementRef) :
    edgeRef side (ofGraph g) ref = .plain (Resolve.edgeRef side g ref) := by
  cases ref with
  | none => rfl
  | some ref =>
    cases ref with
    | vertex id => rfl
    | edge source target =>
      rw [edgeRef, vertex_ofGraph, vertex_ofGraph, Resolve.edgeRef]
      cases Resolve.vertex side g source with
      | error error => rfl
      | ok u =>
        cases Resolve.vertex side g target with
        | error error => rfl
        | ok v =>
          simp only [Guarded.plain_ok, Guarded.ok_bind, edge?_ofGraph]
          cases hEdge : g.edge? u v <;> simp [bind, Except.bind, hEdge]

theorem operation_ofGraph (spec : OperationSpec) : operation (ofGraph oldGraph) (ofGraph newGraph) spec =
    (Guarded.plain (Resolve.operation oldGraph newGraph spec)).map .ofOperation := by
  rw [operation, Resolve.operation]
  cases hKind : spec.kind.isOnVertices with
  | true =>
    rw [if_pos rfl, if_pos rfl, vertexRef_ofGraph, vertexRef_ofGraph]
    cases Resolve.vertexRef .old oldGraph spec.source with
    | error error => rfl
    | ok source =>
      cases Resolve.vertexRef .new newGraph spec.target with
      | error error => rfl
      | ok target =>
        simp only [Guarded.plain_ok, Guarded.ok_bind, SidedOperation.make_of_vertices hKind]
        cases h : EditOperation.ofVertices spec.kind source target <;>
          simp [bind, Except.bind, h] <;> rfl
  | false =>
    rw [if_neg (by decide), if_neg (by decide), edgeRef_ofGraph, edgeRef_ofGraph]
    cases Resolve.edgeRef .old oldGraph spec.source with
    | error error => rfl
    | ok source =>
      cases Resolve.edgeRef .new newGraph spec.target with
      | error error => rfl
      | ok target =>
        simp only [Guarded.plain_ok, Guarded.ok_bind, SidedOperation.make_of_edges hKind]
        cases h : EditOperation.ofEdges spec.kind source target <;>
          simp [bind, Except.bind, h] <;> rfl

theorem resolve_eq (document : Document) : resolve document = (Guarded.plain document.resolve).map ofInputs := by
  rw [resolve, Document.resolve, graph_eq, graph_eq]
  cases Resolve.graph .old document.oldGraph with
  | error error => rfl
  | ok oldGraph =>
    cases Resolve.graph .new document.newGraph with
    | error error => rfl
    | ok newGraph =>
      have hMatching := Guarded.foldlM_plain_eq (addMatch_ofGraph oldGraph newGraph) document.matching Matching.empty
      have hOperations := Guarded.mapM_map_eq (operation_ofGraph oldGraph newGraph) document.operations
      simp only [Guarded.plain_ok, Except.map, bind, Except.bind, hMatching, hOperations]
      cases document.matching.foldlM (Resolve.addMatch oldGraph newGraph) Matching.empty with
      | error error => rfl
      | ok matching => cases document.operations.mapM (Resolve.operation oldGraph newGraph) <;> rfl

/-- Loading a value gives what the inputs of an analysis are read from, or raises the same error. -/
theorem load_eq (value : Value) : load value = (Guarded.plain (Inputs.ofValue value)).map ofInputs := by
  cases value with
  | map entries =>
    rw [load, Inputs.ofValue, Inputs.parse]
    cases Document.ofEntries entries with
    | error problems => rfl
    | ok document =>
      change Guarded.rephrase LoadError.unresolved (resolve document) = _
      rw [resolve_eq, Guarded.rephrase_map, Guarded.rephrase_plain]
      rfl
  | _ => rfl

end Script

end SchemaChange
