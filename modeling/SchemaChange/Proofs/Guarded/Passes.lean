import SchemaChange.Analysis.Run
import SchemaChange.Proofs.Guarded.Script
import SchemaChange.Proofs.Stores.Ledger

/-! # Guarded passes

The five passes over a script, with every side that is taken from an operation, every ledger and every case of a
container's kind looked at where it is used. What is told of an inconsistency is its text; what is logged is left out.
-/
namespace SchemaChange

abbrev LedgerStores := ByKind LedgerStore

def LedgerError.cause (kind : TypeKind) (name : String) : LedgerError → Cause
  | alreadyRecorded existing new => .alreadyRecorded kind name existing new
  | notModified found => .notModified kind name found

/-- The text of an inconsistency, with the operation at hand where it concerns one. -/
def Cause.text (cause : Cause) : Option SidedOperation → String
  | some op => cause.message ++ " (while handling " ++ op.describe ++ ")"
  | none => cause.message

namespace LedgerStores

def empty : LedgerStores := ByKind.ofFn LedgerStore.empty

/-- The kind of ledger for a kind of vertex, as far as there is one. -/
def byVertexKind : Table VertexKind TypeKind := TypeKind.all.map fun kind => (.type kind, kind)

/-- An entry into the ledger of a kind; a refusal is told with the operation at hand. -/
def enter (ledgers : LedgerStores) (kind : TypeKind) (name : String) (op : SidedOperation)
    (entry : LedgerStore → Guarded LedgerError LedgerStore) : Guarded String LedgerStores := do
  let ledger ← Guarded.rephrase (fun e => (e.cause kind name).text (some op)) (entry (ledgers.get kind))
  .ok (ledgers.set kind ledger)

def seed (ledgers : LedgerStores) (vertexKind : VertexKind) (name : String) (change : Change) (op : SidedOperation) :
    Guarded String LedgerStores := do
  let kind ← .demand (.keyMissing vertexKind.title) (byVertexKind.get? vertexKind)
  ledgers.enter kind name op (·.seed name change)

def append (ledgers : LedgerStores) (kind : TypeKind) (name : String) (detail : Detail) (op : SidedOperation) :
    Guarded String LedgerStores :=
  ledgers.enter kind name op (·.append name detail)

/-- The kind of ledger that has the record of a container. -/
def containerLedger (container : Vertex) : Guarded String TypeKind :=
  match container.kind with
  | .type .object => .ok .object
  | .type .interface => .ok .interface
  | .type .union => .ok .union
  | _ => .error (.broken (.cannotContain container))

def containerWasAdded (ledgers : LedgerStores) (container : Vertex) : Guarded String Bool := do
  let kind ← containerLedger container
  .ok ((ledgers.get kind).wasAdded container.name)

def containerWasRemoved (ledgers : LedgerStores) (container : Vertex) : Guarded String Bool := do
  let kind ← containerLedger container
  .ok ((ledgers.get kind).wasRemoved container.name)

def fieldWasAdded (ledgers : LedgerStores) (container : Vertex) (field : String) : Guarded String Bool := do
  let scope : ContainerKind := if container.kind = .type .object then .object else .interface
  let kind ← containerLedger container
  .ok (((ledgers.get kind).recordedDetails container.name).contains (.member scope (.fieldAdded field)))

/-- Records a change of a member under a name, as a detail of the kind that its container has. -/
def recordMember (ledgers : LedgerStores) (container : Vertex) (op : SidedOperation) (change : MemberChange)
    (name : String) : Guarded String LedgerStores :=
  match container.kind with
  | .type .object => ledgers.append .object name (.member .object change) op
  | .type .interface => ledgers.append .interface name (.member .interface change) op
  | _ => .error (.broken (.notContainer container))

/-- The report of the ledgers' records. -/
def freeze (ledgers : LedgerStores) : Guarded String Report := do
  let object ← ledgers.object.freeze
  let interface ← ledgers.interface.freeze
  let union ← ledgers.union.freeze
  let enum ← ledgers.enum.freeze
  let inputObject ← ledgers.inputObject.freeze
  let scalar ← ledgers.scalar.freeze
  .ok ⟨object, interface, union, enum, inputObject, scalar⟩

end LedgerStores

namespace Script

open LedgerStores

def inconsistent {α : Type} (cause : Cause) (op : Option SidedOperation) : Guarded String α := .raise (cause.text op)

def containerOf (s : GraphStore) (field : Vertex) : Guarded String Vertex :=
  .plain ((s.containerOf field).mapError fun e => (Cause.owner e).text none)

def argumentOwner (s : GraphStore) (argument : Vertex) : Guarded String Vertex :=
  .plain ((s.argumentOwner argument).mapError fun e => (Cause.owner e).text none)

def readLabel (label : String) : Guarded String TypeLabel :=
  match TypeLabel.decode? label with
  | some info => .ok info
  | none => inconsistent (.notTypeLabel label) none

variable (script : Script) (ledgers : LedgerStores) (op : SidedOperation)

def typeVertexInserted : Guarded String LedgerStores := do
  let vertex ← op.demandTargetVertex
  if vertex.kind.isNamedType = false then .ok ledgers
  else if vertex.kind = .type .scalar ∧ isBuiltInScalar vertex.name then .ok ledgers
  else ledgers.seed vertex.kind vertex.name .added op

def typeVertexDeleted : Guarded String LedgerStores := do
  let vertex ← op.demandSourceVertex
  if vertex.kind.isNamedType then ledgers.seed vertex.kind vertex.name .removed op else .ok ledgers

def typeVertexChanged : Guarded String LedgerStores := do
  let vertex ← op.demandTargetVertex
  if vertex.kind.isNamedType = false then .ok ledgers
  else do
    let source ← op.demandSourceVertex
    if source.kind = vertex.kind then ledgers.seed vertex.kind vertex.name (.modified []) op
    else inconsistent .kindChanged (some op)

def typeVertex : Guarded String LedgerStores :=
  match op.kind with
  | .insertVertex => typeVertexInserted ledgers op
  | .deleteVertex => typeVertexDeleted ledgers op
  | .changeVertex => typeVertexChanged ledgers op
  | _ => .ok ledgers

def fieldChanged : Guarded String LedgerStores := do
  let field ← op.demandTargetVertex
  let source ← op.demandSourceVertex
  if source.name = field.name then .ok ledgers
  else do
    let container ← containerOf script.newGraph field
    if ← ledgers.containerWasAdded container then .ok ledgers
    else ledgers.recordMember container op (.fieldRenamed source.name field.name) container.name

def fieldAdded : Guarded String LedgerStores := do
  let field ← op.demandTargetVertex
  let container ← containerOf script.newGraph field
  if ← ledgers.containerWasAdded container then .ok ledgers
  else ledgers.recordMember container op (.fieldAdded field.name) container.name

def fieldDeleted : Guarded String LedgerStores := do
  let field ← op.demandSourceVertex
  let container ← containerOf script.oldGraph field
  if ← ledgers.containerWasRemoved container then .ok ledgers
  else ledgers.recordMember container op (.fieldRemoved field.name) (script.matching.currentName container)

def argumentDeleted : Guarded String LedgerStores := do
  let argument ← op.demandSourceVertex
  let owner ← argumentOwner script.oldGraph argument
  if owner.kind = .directive then .ok ledgers
  else
    match script.matching.target? owner with
    | none => .ok ledgers
    | some newField => do
      let container ← containerOf script.oldGraph owner
      if ← ledgers.containerWasRemoved container then .ok ledgers
      else
        ledgers.recordMember container op (.argumentRemoved newField.name argument.name)
          (script.matching.currentName container)

def fieldVertex : Guarded String LedgerStores :=
  match op.kind with
  | .changeVertex => do
    let target ← op.demandTargetVertex
    if target.kind = .field then script.fieldChanged ledgers op else .ok ledgers
  | .insertVertex => do
    let target ← op.demandTargetVertex
    if target.kind = .field then script.fieldAdded ledgers op else .ok ledgers
  | .deleteVertex => do
    let removed ← op.demandSourceVertex
    if removed.kind = .field then script.fieldDeleted ledgers op
    else if removed.kind = .argument then script.argumentDeleted ledgers op
    else .ok ledgers
  | _ => .ok ledgers

/-- The first operation that deletes a type edge of an old vertex. -/
def deletedTypeEdge? (old : Vertex) : List SidedOperation → Guarded String (Option SidedOperation)
  | [] => .ok none
  | candidate :: rest =>
    if candidate.kind ≠ .deleteEdge then deletedTypeEdge? old rest
    else do
      let edge ← candidate.demandSourceEdge
      if edge.source = old ∧ isTypeLabel edge.label then .ok (some candidate) else deletedTypeEdge? old rest

def findDeletedTypeEdge (vertex : Vertex) : Guarded String SidedOperation :=
  match script.matching.source? vertex with
  | none => inconsistent (.noPreimage vertex) (some op)
  | some old => do
    match ← deletedTypeEdge? old script.operations with
    | some candidate => .ok candidate
    | none => inconsistent (.noDeletedTypeEdge vertex) (some op)

def recordRetyped (container owner argument : Vertex) (old new : TypeLabel) : Guarded String LedgerStores :=
  if old.type = new.type then .ok ledgers
  else ledgers.recordMember container op (.argumentRetyped owner.name argument.name old.type new.type) container.name

def recordDefault (container owner argument : Vertex) (old new : TypeLabel) : Guarded String LedgerStores :=
  if old.default = new.default then .ok ledgers
  else ledgers.recordMember container op (.defaultChanged owner.name argument.name old.default new.default)
    container.name

/-- Records what differs between the old and the new type edge of an argument. -/
def recordArgumentChange (container owner argument : Vertex) (source target : Edge) : Guarded String LedgerStores := do
  let old ← readLabel source.label
  let new ← readLabel target.label
  let retyped ← recordRetyped ledgers op container owner argument old new
  recordDefault retyped op container owner argument old new

def argumentTypeInserted : Guarded String LedgerStores := do
  let edge ← op.demandTargetEdge
  let argument := edge.source
  let owner ← argumentOwner script.newGraph argument
  if owner.kind = .directive then .ok ledgers
  else do
    let container ← containerOf script.newGraph owner
    if ← ledgers.containerWasAdded container then .ok ledgers
    else if ← ledgers.fieldWasAdded container owner.name then .ok ledgers
    else if (script.matching.source? argument).isNone then .ok ledgers
    else do
      let deleted ← script.findDeletedTypeEdge op argument
      let removed ← deleted.demandSourceEdge
      recordArgumentChange ledgers op container owner argument removed edge

def typeEdgeInserted : Guarded String LedgerStores := do
  let edge ← op.demandTargetEdge
  let field := edge.source
  if field.kind = .argument then script.argumentTypeInserted ledgers op
  else if field.kind ≠ .field then .ok ledgers
  else do
    let container ← containerOf script.newGraph field
    if ← ledgers.containerWasAdded container then .ok ledgers
    else if ← ledgers.fieldWasAdded container field.name then .ok ledgers
    else do
      let new ← readLabel edge.label
      let deleted ← script.findDeletedTypeEdge op field
      let removed ← deleted.demandSourceEdge
      let old ← readLabel removed.label
      ledgers.recordMember container op (.fieldRetyped field.name old.type new.type) container.name

def fieldTypeChanged : Guarded String LedgerStores := do
  let source ← op.demandSourceEdge
  let target ← op.demandTargetEdge
  let field := target.source
  let container ← containerOf script.newGraph field
  if ← ledgers.containerWasAdded container then .ok ledgers
  else do
    let old ← readLabel source.label
    let new ← readLabel target.label
    ledgers.recordMember container op (.fieldRetyped field.name old.type new.type) container.name

def argumentTypeChanged : Guarded String LedgerStores := do
  let source ← op.demandSourceEdge
  let target ← op.demandTargetEdge
  let argument := target.source
  let owner ← argumentOwner script.newGraph argument
  if owner.kind = .directive then .ok ledgers
  else do
    let container ← containerOf script.newGraph owner
    if ← ledgers.containerWasAdded container then .ok ledgers
    else recordArgumentChange ledgers op container owner argument source target

def typeEdgeChanged : Guarded String LedgerStores := do
  let edge ← op.demandTargetEdge
  if edge.source.kind = .field then script.fieldTypeChanged ledgers op
  else if edge.source.kind = .argument then script.argumentTypeChanged ledgers op
  else .ok ledgers

def typeEdge : Guarded String LedgerStores :=
  match op.kind with
  | .insertEdge => do
    let edge ← op.demandTargetEdge
    if isTypeLabel edge.label then script.typeEdgeInserted ledgers op else .ok ledgers
  | .changeEdge => do
    let edge ← op.demandTargetEdge
    if isTypeLabel edge.label then script.typeEdgeChanged ledgers op else .ok ledgers
  | _ => .ok ledgers

def assertImplementer (vertex : Vertex) : Guarded String Unit :=
  if vertex.kind = .type .object ∨ vertex.kind = .type .interface then .ok ()
  else inconsistent .notImplementer (some op)

def implementationAdded : Guarded String LedgerStores := do
  let edge ← op.demandTargetEdge
  assertImplementer op edge.source
  if ← ledgers.containerWasAdded edge.source then .ok ledgers
  else ledgers.recordMember edge.source op (.implementsAdded edge.target.name) edge.source.name

def implementationDeleted : Guarded String LedgerStores := do
  let edge ← op.demandSourceEdge
  assertImplementer op edge.source
  if ← ledgers.containerWasRemoved edge.source then .ok ledgers
  else
    ledgers.recordMember edge.source op (.implementsRemoved edge.target.name)
      (script.matching.currentName edge.source)

def implementsEdge : Guarded String LedgerStores :=
  match op.kind with
  | .insertEdge => do
    let edge ← op.demandTargetEdge
    if isImplementsLabel edge.label then implementationAdded ledgers op else .ok ledgers
  | .deleteEdge => do
    let edge ← op.demandSourceEdge
    if isImplementsLabel edge.label then script.implementationDeleted ledgers op else .ok ledgers
  | _ => .ok ledgers

def unionMemberAdded : Guarded String LedgerStores := do
  let edge ← op.demandTargetEdge
  if ← ledgers.containerWasAdded edge.source then .ok ledgers
  else ledgers.append .union edge.source.name (.unionMemberAdded edge.target.name) op

def unionMemberDeleted : Guarded String LedgerStores := do
  let edge ← op.demandSourceEdge
  if ← ledgers.containerWasRemoved edge.source then .ok ledgers
  else ledgers.append .union (script.matching.currentName edge.source) (.unionMemberRemoved edge.target.name) op

def unionMember : Guarded String LedgerStores :=
  match op.kind with
  | .insertEdge => do
    let edge ← op.demandTargetEdge
    if edge.source.kind = .type .union then unionMemberAdded ledgers op else .ok ledgers
  | .deleteEdge => do
    let edge ← op.demandSourceEdge
    if edge.source.kind = .type .union then script.unionMemberDeleted ledgers op else .ok ledgers
  | _ => .ok ledgers

def step : Pass → Guarded String LedgerStores
  | .typeVertices => typeVertex ledgers op
  | .fieldVertices => script.fieldVertex ledgers op
  | .typeEdges => script.typeEdge ledgers op
  | .implementsEdges => script.implementsEdge ledgers op
  | .unionMembers => script.unionMember ledgers op

def pass (pass : Pass) : Guarded String LedgerStores :=
  script.operations.foldlM (fun ledgers op => script.step ledgers op pass) ledgers

def analyze : Guarded String Report := do
  let ledgers ← Pass.all.foldlM script.pass LedgerStores.empty
  ledgers.freeze

end Script

end SchemaChange
