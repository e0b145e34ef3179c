import SchemaChange.Script.Shape
import SchemaChange.Edit.Operation

/-! # Edit script documents

A document holds two graphs, the matching of their vertices and the edit operations, all by vertex ids. Vertices,
edges and operations refuse keys they do not know; the document, graphs and matching entries ignore them.
-/
namespace SchemaChange

structure VertexSpec where
  id : String
  kind : VertexKind
  name : String
  deriving DecidableEq, Repr

structure EdgeSpec where
  source : String
  target : String
  label : String
  deriving DecidableEq, Repr

structure GraphSpec where
  vertices : List VertexSpec
  edges : List EdgeSpec
  deriving DecidableEq, Repr

structure MatchSpec where
  source : String
  target : String
  deriving DecidableEq, Repr

/-- A side of an operation: a vertex by its id, or an edge by the ids of its ends. -/
inductive ElementRef where
  | vertex (id : String)
  | edge (source target : String)
  deriving DecidableEq, Repr

structure OperationSpec where
  kind : OperationKind
  source : Option ElementRef
  target : Option ElementRef
  deriving DecidableEq, Repr

structure Document where
  oldGraph : GraphSpec
  newGraph : GraphSpec
  matching : List MatchSpec
  operations : List OperationSpec
  deriving DecidableEq, Repr

def VertexSpec.shape : Shape VertexSpec :=
  .model ⟨false, true⟩
    (.required "id" .text (.required "kind" (.oneOf VertexKind.ofTitle?) (.required "name" .text .nil)))
    fun (id, kind, name, _) => ⟨id, kind, name⟩

def EdgeSpec.shape : Shape EdgeSpec :=
  .model ⟨true, true⟩
    (.aliased "from_id" "from" .text (.aliased "to_id" "to" .text (.optional "label" "" .text .nil)))
    fun (source, target, label, _) => ⟨source, target, label⟩

def GraphSpec.shape : Shape GraphSpec :=
  .model ⟨false, false⟩
    (.optional "vertices" [] (.list VertexSpec.shape) (.optional "edges" [] (.list EdgeSpec.shape) .nil))
    fun (vertices, edges, _) => ⟨vertices, edges⟩

def MatchSpec.shape : Shape MatchSpec :=
  .model ⟨false, false⟩ (.required "source" .text (.required "target" .text .nil))
    fun (source, target, _) => ⟨source, target⟩

def ElementRef.shape : Shape ElementRef :=
  .textOr .vertex "tuple[str, str]" (.pair .text .text) fun (source, target) => .edge source target

def OperationSpec.shape : Shape OperationSpec :=
  .model ⟨false, true⟩
    (.required "operation" (.oneOf OperationKind.ofTitle?)
      (.optional "source" none (.nullable ElementRef.shape) (.optional "target" none (.nullable ElementRef.shape) .nil)))
    fun (kind, source, target, _) => ⟨kind, source, target⟩

def Document.shape : Shape Document :=
  .model ⟨false, false⟩
    (.required "old_graph" GraphSpec.shape (.required "new_graph" GraphSpec.shape
      (.optional "mapping" [] (.list MatchSpec.shape)
        (.optional "edit_operations" [] (.list OperationSpec.shape) .nil))))
    fun (oldGraph, newGraph, matching, operations, _) => ⟨oldGraph, newGraph, matching, operations⟩

namespace Document

open Checked Value

def checkVertex : Value → Checked VertexSpec := VertexSpec.shape.check

def checkEdge : Value → Checked EdgeSpec := EdgeSpec.shape.check

def checkGraph : Value → Checked GraphSpec := GraphSpec.shape.check

def checkMatch : Value → Checked MatchSpec := MatchSpec.shape.check

/-- A side that is absent, a vertex id or a pair of ids. Anything else has the problems of both readings. -/
def checkRef : Value → Checked (Option ElementRef) := (Shape.nullable ElementRef.shape).check

def checkOperation : Value → Checked OperationSpec := OperationSpec.shape.check

def ofEntries (entries : Entries) : Checked Document := shape.check (.map entries)

theorem checkVertex_eq (value : Value) : checkVertex value = (checkKeyedEntries value >>= fun entries =>
    (both (requiredField entries "id" checkText)
      (both (requiredField entries "kind" (checkName VertexKind.ofTitle?))
        (both (requiredField entries "name" checkText) (checkKeys ["id", "kind", "name"] entries)))).map
      fun (id, kind, name, _) => ⟨id, kind, name⟩) := rfl

theorem checkEdge_eq (value : Value) : checkEdge value = (checkKeyedEntries value >>= fun entries =>
    (both (requiredField entries (spelling entries "from" "from_id") checkText)
      (both (requiredField entries (spelling entries "to" "to_id") checkText)
        (both (optionalField entries "label" "" checkText)
          (checkKeys [spelling entries "from" "from_id", spelling entries "to" "to_id", "label"] entries)))).map
      fun (source, target, label, _) => ⟨source, target, label⟩) := rfl

theorem checkGraph_eq (value : Value) : checkGraph value = (checkEntries value >>= fun entries =>
    (both (optionalField entries "vertices" [] (checkList checkVertex))
      (optionalField entries "edges" [] (checkList checkEdge))).map fun (vertices, edges) => ⟨vertices, edges⟩) := by
  change (checkEntries value >>= fun entries => (both _ (both _ (.ok ()))).map _) = _
  simp only [both_ok_right, both_map_right, map_map]
  rfl

theorem checkMatch_eq (value : Value) : checkMatch value = (checkEntries value >>= fun entries =>
    (both (requiredField entries "source" checkText) (requiredField entries "target" checkText)).map
      fun (source, target) => ⟨source, target⟩) := by
  change (checkEntries value >>= fun entries => (both _ (both _ (.ok ()))).map _) = _
  simp only [both_ok_right, both_map_right, map_map]
  rfl

theorem checkRef_of_ne_null {value : Value} (h : value ≠ .null) : checkRef value =
    (eitherReading ElementRef.vertex (fun pair : String × String => .edge pair.1 pair.2)
      (under (.key "str") (checkText value))
      (under (.key "tuple[str, str]") (checkPair checkText checkText value))).map some := by
  cases value with
  | null => exact absurd rfl h
  | _ => rfl

theorem checkOperation_eq (value : Value) : checkOperation value = (checkKeyedEntries value >>= fun entries =>
    (both (requiredField entries "operation" (checkName OperationKind.ofTitle?))
      (both (optionalField entries "source" none checkRef)
        (both (optionalField entries "target" none checkRef)
          (checkKeys ["operation", "source", "target"] entries)))).map
      fun (kind, source, target, _) => ⟨kind, source, target⟩) := rfl

theorem ofEntries_eq (entries : Entries) : ofEntries entries =
    (both (requiredField entries "old_graph" checkGraph)
      (both (requiredField entries "new_graph" checkGraph)
        (both (optionalField entries "mapping" [] (checkList checkMatch))
          (optionalField entries "edit_operations" [] (checkList checkOperation))))).map
      fun (oldGraph, newGraph, matching, operations) => ⟨oldGraph, newGraph, matching, operations⟩ := by
  change (both _ (both _ (both _ (both _ (.ok ()))))).map _ = _
  simp only [both_ok_right, both_map_right, map_map]
  rfl

end Document

end SchemaChange
