import SchemaChange.Graph.Vertex

/-! # Edit operations

One operation inserts, deletes or changes one vertex or edge. Each form carries exactly the sides it needs: the
source lies in the old graph, the target in the new one. `ofSides` reads an operation from four optional sides.
-/
namespace SchemaChange

inductive OperationKind where
  | insertVertex | deleteVertex | changeVertex | insertEdge | deleteEdge | changeEdge
  deriving DecidableEq, Repr

namespace OperationKind

def all : List OperationKind :=
  [insertVertex, deleteVertex, changeVertex, insertEdge, deleteEdge, changeEdge]

def title : OperationKind → String
  | insertVertex => "insert_vertex"
  | deleteVertex => "delete_vertex"
  | changeVertex => "change_vertex"
  | insertEdge => "insert_edge"
  | deleteEdge => "delete_edge"
  | changeEdge => "change_edge"

def ofTitle? (text : String) : Option OperationKind := all.find? (·.title = text)

def isOnVertices : OperationKind → Bool
  | insertVertex | deleteVertex | changeVertex => true
  | _ => false

theorem mem_all (k : OperationKind) : k ∈ all := by
  cases k <;> decide

theorem ofTitle?_title (k : OperationKind) : ofTitle? k.title = some k :=
  have hAll : ∀ k ∈ all, ofTitle? k.title = some k := by decide +kernel
  hAll k k.mem_all

end OperationKind

inductive EditOperation where
  | insertVertex (target : Vertex)
  | deleteVertex (source : Vertex)
  | changeVertex (source target : Vertex)
  | insertEdge (target : Edge)
  | deleteEdge (source : Edge)
  | changeEdge (source target : Edge)
  deriving DecidableEq, Repr

/-- Why four optional sides do not make an operation of the given kind. -/
inductive SidesError where
  | mixed (kind : OperationKind)
  | wrong (kind : OperationKind)
  deriving DecidableEq, Repr

def SidesError.message : SidesError → String
  | mixed kind => kind.title ++ " mixes vertices and edges"
  | wrong kind => kind.title ++ " has the wrong sides set"

namespace EditOperation

def kind : EditOperation → OperationKind
  | insertVertex _ => .insertVertex
  | deleteVertex _ => .deleteVertex
  | changeVertex _ _ => .changeVertex
  | insertEdge _ => .insertEdge
  | deleteEdge _ => .deleteEdge
  | changeEdge _ _ => .changeEdge

def ofVertices : OperationKind → Option Vertex → Option Vertex → Except SidesError EditOperation
  | .insertVertex, none, some target => .ok (insertVertex target)
  | .deleteVertex, some source, none => .ok (deleteVertex source)
  | .changeVertex, some source, some target => .ok (changeVertex source target)
  | kind, _, _ => .error (.wrong kind)

def ofEdges : OperationKind → Option Edge → Option Edge → Except SidesError EditOperation
  | .insertEdge, none, some target => .ok (insertEdge target)
  | .deleteEdge, some source, none => .ok (deleteEdge source)
  | .changeEdge, some source, some target => .ok (changeEdge source target)
  | kind, _, _ => .error (.wrong kind)

/-- An operation from four optional sides: the sides of the other sort have to be absent, which is looked at
first, and those of its own sort present as the kind asks. -/
def ofSides (kind : OperationKind) (sourceVertex targetVertex : Option Vertex)
    (sourceEdge targetEdge : Option Edge) : Except SidesError EditOperation :=
  if kind.isOnVertices then
    if sourceEdge.isSome || targetEdge.isSome then .error (.mixed kind)
    else ofVertices kind sourceVertex targetVertex
  else
    if sourceVertex.isSome || targetVertex.isSome then .error (.mixed kind)
    else ofEdges kind sourceEdge targetEdge

/-- The texts of the sides that an operation has, sources first. -/
def sides : EditOperation → List String
  | insertVertex target => [target.describe]
  | deleteVertex source => [source.describe]
  | changeVertex source target => [source.describe, target.describe]
  | insertEdge target => [target.describe]
  | deleteEdge source => [source.describe]
  | changeEdge source target => [source.describe, target.describe]

def describe (op : EditOperation) : String :=
  op.kind.title ++ "(" ++ ", ".intercalate op.sides ++ ")"

end EditOperation

end SchemaChange
