import SchemaChange.Graph.Basic

/-! # Owners of fields and arguments

A field belongs to the one object or interface with an edge to it, an argument to the one field or directive.
The look-ups give owners of a type that holds these kinds only.
-/
namespace SchemaChange

/-- The kinds of types that have fields. -/
inductive ContainerKind where
  | object | interface
  deriving DecidableEq, Repr

def ContainerKind.toTypeKind : ContainerKind → TypeKind
  | object => .object
  | interface => .interface

structure Container where
  vertex : Vertex
  kind : ContainerKind
  kind_eq : vertex.kind = .type kind.toTypeKind

def Container.ofVertex? (v : Vertex) : Option Container :=
  match h : v.kind with
  | .type .object => some ⟨v, .object, h⟩
  | .type .interface => some ⟨v, .interface, h⟩
  | _ => none

def Container.name (c : Container) : String := c.vertex.name

/-- The vertex that declares an argument. -/
inductive ArgumentOwner where
  | field (vertex : Vertex)
  | directive (vertex : Vertex)
  deriving DecidableEq, Repr

def ArgumentOwner.ofVertex? (v : Vertex) : Option ArgumentOwner :=
  match v.kind with
  | .field => some (field v)
  | .directive => some (directive v)
  | _ => none

def ArgumentOwner.vertex : ArgumentOwner → Vertex
  | field v => v
  | directive v => v

inductive OwnerError where
  | notOfKind (expected : VertexKind) (vertex : Vertex)
  | notUnique (ownerKinds : List VertexKind) (vertex : Vertex) (found : Nat)
  deriving DecidableEq, Repr

def OwnerError.message : OwnerError → String
  | notOfKind expected v => "Expected a " ++ expected.title ++ " vertex, got " ++ v.describe
  | notUnique ownerKinds v found =>
    "Expected exactly one " ++ "/".intercalate (ownerKinds.map (·.title)) ++ " owning " ++ v.describe
      ++ ", found " ++ toString found

namespace SchemaGraph

def soleOf {α ε : Type} (unexpected : Nat → ε) : List α → Except ε α
  | [owner] => .ok owner
  | owners => .error (unexpected owners.length)

def containerOf (g : SchemaGraph) (v : Vertex) : Except OwnerError Container :=
  if v.kind = .field then
    soleOf (.notUnique [.type .object, .type .interface] v)
      ((g.edgesInto v).filterMap (Container.ofVertex? ·.source))
  else .error (.notOfKind .field v)

def argumentOwner (g : SchemaGraph) (v : Vertex) : Except OwnerError ArgumentOwner :=
  if v.kind = .argument then
    soleOf (.notUnique [.field, .directive] v)
      ((g.edgesInto v).filterMap (ArgumentOwner.ofVertex? ·.source))
  else .error (.notOfKind .argument v)

end SchemaGraph

end SchemaChange
