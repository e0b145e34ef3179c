import SchemaChange.Text.Quoted

/-! # Vertices and edges

A vertex stands for one named element of a schema: a type, a field, an argument or a directive. Two vertices may
agree in id, kind and name and still be different ones: the stamp tells them apart.
-/
namespace SchemaChange

inductive TypeKind where
  | object | interface | union | enum | inputObject | scalar
  deriving DecidableEq, Repr

namespace TypeKind

/-- Every kind once, in the order in which reports list them. -/
def all : List TypeKind := [object, interface, union, enum, inputObject, scalar]

def title : TypeKind → String
  | object => "Object"
  | interface => "Interface"
  | union => "Union"
  | enum => "Enum"
  | inputObject => "InputObject"
  | scalar => "Scalar"

theorem mem_all (k : TypeKind) : k ∈ all := by
  cases k <;> decide

end TypeKind

inductive VertexKind where
  | type (kind : TypeKind)
  | field
  | argument
  | directive
  deriving DecidableEq, Repr

namespace VertexKind

def all : List VertexKind := TypeKind.all.map type ++ [field, argument, directive]

def title : VertexKind → String
  | type kind => kind.title
  | field => "Field"
  | argument => "Argument"
  | directive => "Directive"

/-- Titles are read exactly as they are written, capitals included. -/
def ofTitle? (text : String) : Option VertexKind := all.find? (·.title = text)

def isNamedType : VertexKind → Bool
  | type _ => true
  | _ => false

theorem mem_all (k : VertexKind) : k ∈ all := by
  cases k with
  | type k => exact List.mem_append_left _ (List.mem_map_of_mem k.mem_all)
  | _ => exact List.mem_append_right _ (by decide)

theorem ofTitle?_title (k : VertexKind) : ofTitle? k.title = some k :=
  have hAll : ∀ k ∈ all, ofTitle? k.title = some k := by decide +kernel
  hAll k k.mem_all

end VertexKind

/-- One element of a schema. Vertices are compared as wholes, stamp included. -/
structure Vertex where
  stamp : Nat
  id : String
  kind : VertexKind
  name : String
  deriving DecidableEq, Repr

/-- A labelled relation between two vertices, from the source to the target. -/
structure Edge where
  stamp : Nat
  source : Vertex
  target : Vertex
  label : String
  deriving DecidableEq, Repr

def Vertex.describe (v : Vertex) : String :=
  "Vertex(" ++ Text.quoted v.id ++ ", " ++ v.kind.title ++ ", " ++ Text.quoted v.name ++ ")"

def Edge.ends (e : Edge) : String × String := (e.source.id, e.target.id)

def Edge.describe (e : Edge) : String :=
  "Edge(" ++ Text.quoted e.source.id ++ " -> " ++ Text.quoted e.target.id ++ ", label="
    ++ Text.quoted e.label ++ ")"

end SchemaChange
