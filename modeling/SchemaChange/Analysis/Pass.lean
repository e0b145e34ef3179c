import SchemaChange.Analysis.Finding

/-! # The passes of an analysis

Five passes go over all operations, each with its own judgement of one operation. The first records which types were
added, removed or changed; the later ones record details, and skip members of a type that was added or removed as a
whole. Members of the new graph are recorded under their container's name, members of the old graph under the name
their container has in the new one.
-/
namespace SchemaChange

namespace Ledgers

def containerAdded (ledgers : Ledgers) (c : Container) : Bool :=
  (ledgers.get c.kind.toTypeKind).wasAdded c.name

def containerRemoved (ledgers : Ledgers) (c : Container) : Bool :=
  (ledgers.get c.kind.toTypeKind).wasRemoved c.name

/-- Whether the addition of a field is among the details recorded for a container. -/
def fieldAdded (ledgers : Ledgers) (c : Container) (field : String) : Bool :=
  ((ledgers.get c.kind.toTypeKind).details c.name).contains (.member c.kind (.fieldAdded field))

end Ledgers

namespace Inputs

/-- The object or interface that declares a field; a failure does not name the operation. -/
def container (g : SchemaGraph) (field : Vertex) : Except Failure Container :=
  match g.containerOf field with
  | .ok c => .ok c
  | .error e => .error ⟨.owner e, none⟩

/-- The field or directive that declares an argument; a failure does not name the operation. -/
def argumentOwner (g : SchemaGraph) (argument : Vertex) : Except Failure ArgumentOwner :=
  match g.argumentOwner argument with
  | .ok owner => .ok owner
  | .error e => .error ⟨.owner e, none⟩

/-- Additions, removals and changes of named types. A changed type is recorded under its new name. -/
def judgeTypeVertex : EditOperation → Except Failure Finding
  | .insertVertex v =>
    match v.kind with
    | .type kind =>
      if kind = .scalar ∧ isBuiltInScalar v.name then .ok (.skipped .builtInScalar)
      else .ok (.change kind v.name .added)
    | _ => .ok .nothing
  | .deleteVertex v =>
    match v.kind with
    | .type kind => .ok (.change kind v.name .removed)
    | _ => .ok .nothing
  | .changeVertex source target =>
    match target.kind with
    | .type kind =>
      if source.kind = target.kind then .ok (.change kind target.name (.modified []))
      else .error ⟨.kindChanged, some (.changeVertex source target)⟩
    | _ => .ok .nothing
  | _ => .ok .nothing

def judgeFieldChanged (inputs : Inputs) (ledgers : Ledgers) (source target : Vertex) :
    Except Failure Finding :=
  if source.name = target.name then .ok .nothing
  else do
    let c ← container inputs.newGraph target
    if ledgers.containerAdded c then .ok (.skipped (.containerAdded c.name))
    else .ok (.members c c.name [.fieldRenamed source.name target.name])

def judgeFieldAdded (inputs : Inputs) (ledgers : Ledgers) (field : Vertex) : Except Failure Finding := do
  let c ← container inputs.newGraph field
  if ledgers.containerAdded c then .ok (.skipped (.containerAdded c.name))
  else .ok (.members c c.name [.fieldAdded field.name])

def judgeFieldRemoved (inputs : Inputs) (ledgers : Ledgers) (field : Vertex) : Except Failure Finding := do
  let c ← container inputs.oldGraph field
  if ledgers.containerRemoved c then .ok (.skipped (.containerRemoved c.name))
  else .ok (.members c (inputs.matching.currentName c.vertex) [.fieldRemoved field.name])

/-- The removal of an argument counts only if its field is still there, and then under the field's new name. -/
def judgeArgumentRemoved (inputs : Inputs) (ledgers : Ledgers) (argument : Vertex) :
    Except Failure Finding := do
  match ← argumentOwner inputs.oldGraph argument with
  | .directive _ => .ok .nothing
  | .field owner =>
    match inputs.matching.target? owner with
    | none => .ok (.skipped (.fieldRemoved owner.name))
    | some newField => do
      let c ← container inputs.oldGraph owner
      if ledgers.containerRemoved c then .ok (.skipped (.containerRemoved c.name))
      else .ok (.members c (inputs.matching.currentName c.vertex)
        [.argumentRemoved newField.name argument.name])

def judgeFieldVertex (inputs : Inputs) (ledgers : Ledgers) : EditOperation → Except Failure Finding
  | .changeVertex source target =>
    if target.kind = .field then inputs.judgeFieldChanged ledgers source target else .ok .nothing
  | .insertVertex target =>
    if target.kind = .field then inputs.judgeFieldAdded ledgers target else .ok .nothing
  | .deleteVertex source =>
    match source.kind with
    | .field => inputs.judgeFieldRemoved ledgers source
    | .argument => inputs.judgeArgumentRemoved ledgers source
    | _ => .ok .nothing
  | _ => .ok .nothing

/-- The first removed type edge that leaves an old vertex, wherever it stands among the operations. -/
def removedTypeEdge? (operations : List EditOperation) (old : Vertex) : Option Edge :=
  operations.findSome? fun
    | .deleteEdge e => if e.source = old ∧ isTypeLabel e.label then some e else none
    | _ => none

/-- The removed type edge that pairs with the new type edge of a field or argument. -/
def pairedTypeEdge (inputs : Inputs) (vertex : Vertex) (op : EditOperation) : Except Failure Edge :=
  match inputs.matching.source? vertex with
  | none => .error ⟨.noPreimage vertex, some op⟩
  | some old =>
    match removedTypeEdge? inputs.operations old with
    | some e => .ok e
    | none => .error ⟨.noDeletedTypeEdge vertex, some op⟩

/-- What differs between the old and the new label of an argument, the type before the default. -/
def argumentChanges (field argument : String) (old new : TypeLabel) : List MemberChange :=
  (if old.type = new.type then [] else [.argumentRetyped field argument old.type new.type])
    ++ (if old.default = new.default then [] else [.defaultChanged field argument old.default new.default])

def judgeFieldTypeInserted (inputs : Inputs) (ledgers : Ledgers) (edge : Edge) (op : EditOperation) :
    Except Failure Finding := do
  let field := edge.source
  let c ← container inputs.newGraph field
  if ledgers.containerAdded c then .ok (.skipped (.containerAdded c.name))
  else if ledgers.fieldAdded c field.name then .ok (.skipped (.fieldAdded field.name))
  else do
    let new ← TypeLabel.read edge.label
    let removed ← inputs.pairedTypeEdge field op
    let old ← TypeLabel.read removed.label
    .ok (.members c c.name [.fieldRetyped field.name old.type new.type])

/-- An argument that was added has no earlier type, so its new type edge is skipped. -/
def judgeArgumentTypeInserted (inputs : Inputs) (ledgers : Ledgers) (edge : Edge) (op : EditOperation) :
    Except Failure Finding := do
  let argument := edge.source
  match ← argumentOwner inputs.newGraph argument with
  | .directive _ => .ok .nothing
  | .field owner => do
    let c ← container inputs.newGraph owner
    if ledgers.containerAdded c then .ok (.skipped (.containerAdded c.name))
    else if ledgers.fieldAdded c owner.name then .ok (.skipped (.fieldAdded owner.name))
    else if (inputs.matching.source? argument).isNone then .ok (.skipped (.argumentAdded argument.name))
    else do
      let removed ← inputs.pairedTypeEdge argument op
      let old ← TypeLabel.read removed.label
      let new ← TypeLabel.read edge.label
      .ok (.members c c.name (argumentChanges owner.name argument.name old new))

def judgeFieldTypeChanged (inputs : Inputs) (ledgers : Ledgers) (source target : Edge) :
    Except Failure Finding := do
  let field := target.source
  let c ← container inputs.newGraph field
  if ledgers.containerAdded c then .ok (.skipped (.containerAdded c.name))
  else do
    let old ← TypeLabel.read source.label
    let new ← TypeLabel.read target.label
    .ok (.members c c.name [.fieldRetyped field.name old.type new.type])

def judgeArgumentTypeChanged (inputs : Inputs) (ledgers : Ledgers) (source target : Edge) :
    Except Failure Finding := do
  let argument := target.source
  match ← argumentOwner inputs.newGraph argument with
  | .directive _ => .ok .nothing
  | .field owner => do
    let c ← container inputs.newGraph owner
    if ledgers.containerAdded c then .ok (.skipped (.containerAdded c.name))
    else do
      let old ← TypeLabel.read source.label
      let new ← TypeLabel.read target.label
      .ok (.members c c.name (argumentChanges owner.name argument.name old new))

def judgeTypeEdge (inputs : Inputs) (ledgers : Ledgers) (op : EditOperation) : Except Failure Finding :=
  match op with
  | .insertEdge edge =>
    if isTypeLabel edge.label then
      match edge.source.kind with
      | .argument => inputs.judgeArgumentTypeInserted ledgers edge op
      | .field => inputs.judgeFieldTypeInserted ledgers edge op
      | _ => .ok .nothing
    else .ok .nothing
  | .changeEdge source target =>
    if isTypeLabel target.label then
      match target.source.kind with
      | .field => inputs.judgeFieldTypeChanged ledgers source target
      | .argument => inputs.judgeArgumentTypeChanged ledgers source target
      | _ => .ok .nothing
    else .ok .nothing
  | _ => .ok .nothing

/-- The object or interface that an implements edge leaves. -/
def implementer (vertex : Vertex) (op : EditOperation) : Except Failure Container :=
  match Container.ofVertex? vertex with
  | some c => .ok c
  | none => .error ⟨.notImplementer, some op⟩

def judgeImplementsEdge (inputs : Inputs) (ledgers : Ledgers) (op : EditOperation) :
    Except Failure Finding :=
  match op with
  | .insertEdge edge =>
    if isImplementsLabel edge.label then do
      let c ← implementer edge.source op
      if ledgers.containerAdded c then .ok (.skipped (.implementerAdded c.name))
      else .ok (.members c c.name [.implementsAdded edge.target.name])
    else .ok .nothing
  | .deleteEdge edge =>
    if isImplementsLabel edge.label then do
      let c ← implementer edge.source op
      if ledgers.containerRemoved c then .ok (.skipped (.implementerRemoved c.name))
      else .ok (.members c (inputs.matching.currentName c.vertex) [.implementsRemoved edge.target.name])
    else .ok .nothing
  | _ => .ok .nothing

def judgeUnionMember (inputs : Inputs) (ledgers : Ledgers) : EditOperation → Except Failure Finding
  | .insertEdge edge =>
    if edge.source.kind = .type .union then
      if ledgers.union.wasAdded edge.source.name then .ok (.skipped (.unionAdded edge.source.name))
      else .ok (.details .union edge.source.name [.unionMemberAdded edge.target.name])
    else .ok .nothing
  | .deleteEdge edge =>
    if edge.source.kind = .type .union then
      if ledgers.union.wasRemoved edge.source.name then .ok (.skipped (.unionRemoved edge.source.name))
      else .ok (.details .union (inputs.matching.currentName edge.source)
        [.unionMemberRemoved edge.target.name])
    else .ok .nothing
  | _ => .ok .nothing

end Inputs

inductive Pass where
  | typeVertices | fieldVertices | typeEdges | implementsEdges | unionMembers
  deriving DecidableEq, Repr

namespace Pass

def all : List Pass := [typeVertices, fieldVertices, typeEdges, implementsEdges, unionMembers]

def title : Pass → String
  | typeVertices => "type_vertices"
  | fieldVertices => "field_vertices"
  | typeEdges => "type_edges"
  | implementsEdges => "implements_edges"
  | unionMembers => "union_members"

/-- A pass's finding about one operation, given what the ledgers hold at that moment. -/
def judge : Pass → Inputs → Ledgers → EditOperation → Except Failure Finding
  | typeVertices, _, _ => Inputs.judgeTypeVertex
  | fieldVertices, inputs, ledgers => inputs.judgeFieldVertex ledgers
  | typeEdges, inputs, ledgers => inputs.judgeTypeEdge ledgers
  | implementsEdges, inputs, ledgers => inputs.judgeImplementsEdge ledgers
  | unionMembers, inputs, ledgers => inputs.judgeUnionMember ledgers

end Pass

end SchemaChange
