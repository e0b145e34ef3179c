/-! # Labels of type edges

The edge from a field or argument to its type carries the printed type reference and the default value in one
label, `type=T;defaultValue=V`. The type ends at the first semicolon, the default starts after the first
`;defaultValue=`, and an empty default stands for none.
-/
namespace SchemaChange

/-- What the label of a type edge says. -/
structure TypeLabel where
  type : String
  default : Option String
  deriving DecidableEq, Repr

namespace TypeLabel

def head : List Char := "type=".toList

def separator : List Char := ";defaultValue=".toList

/-- The text after the first place where `mark` occurs. -/
def after? (mark : List Char) : List Char → Option (List Char)
  | [] => mark.isPrefixOf? []
  | c :: rest =>
    match mark.isPrefixOf? (c :: rest) with
    | some tail => some tail
    | none => after? mark rest

/-- A default that is present, an empty one being read as absent. -/
def presentDefault (value : List Char) : Option String :=
  if value.isEmpty then none else some (String.ofList value)

def ofBody (body : List Char) : TypeLabel where
  type := String.ofList (body.takeWhile (· ≠ ';'))
  default := (after? separator body).bind presentDefault

/-- A label is read exactly when it starts with `type=`. -/
def decode? (label : String) : Option TypeLabel :=
  (head.isPrefixOf? label.toList).map ofBody

def encode (info : TypeLabel) : String :=
  String.ofList (head ++ info.type.toList ++ separator ++ (info.default.getD "").toList)

end TypeLabel

/-- Whether a label has the form of a type edge's label. -/
def isTypeLabel (label : String) : Bool := TypeLabel.head.isPrefixOf label.toList

/-- Whether a label marks the edge from an implementer to an interface. -/
def isImplementsLabel (label : String) : Bool := "implements ".toList.isPrefixOf label.toList

/-- The scalars that the schema language itself defines. -/
def builtInScalars : List String := ["Int", "Float", "String", "Boolean", "ID"]

def isBuiltInScalar (name : String) : Bool := builtInScalars.contains name

end SchemaChange
