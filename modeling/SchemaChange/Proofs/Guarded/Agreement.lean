import SchemaChange.Proofs.Guarded.Passes

/-! # Guarded passes agree with the passes

On stores made from graphs and ledgers, a guarded judgement enters what the judgement finds and tells the failures that
it fails with. It breaks nowhere, since an operation has the sides of its kind, an owner is a container, and the tables
of a ledger have the keys that are asked for.
-/
namespace SchemaChange

theorem Cause.text_ofOperation (cause : Cause) (op : Option EditOperation) :
    cause.text (op.map .ofOperation) = Failure.message ⟨cause, op⟩ := by
  cases op with
  | none => simp only [Option.map_none, text, Failure.message]
  | some op => simp only [Option.map_some, text, SidedOperation.describe_ofOperation, Failure.message]

theorem LedgerError.message_cause_bare (kind : TypeKind) (name : String) (e : LedgerError) :
    (e.bare.cause kind name).message = (e.cause kind name).message := by
  unfold Cause.message
  cases e with
  | alreadyRecorded existing new => simp only [bare, cause, Change.className_bare]
  | notModified found => simp only [bare, cause, Change.className_bare]

/-- A computation with the texts of its failures. -/
def told {α : Type} (x : Except Failure α) : Guarded String α := .plain (x.mapError (·.message))

theorem told_bind {α β : Type} (x : Except Failure α) (f : α → Except Failure β) :
    told (x >>= f) = told x >>= fun a => told (f a) := by
  cases x <;> rfl

/-- Changes of members are entered together as they are one after the other. -/
theorem Ledgers.enter_members_append (ledgers : Ledgers) (op : EditOperation) (c : Container) (name : String)
    (first second : List MemberChange) : ledgers.enter op (.members c name (first ++ second)) =
      ledgers.enter op (.members c name first) >>= fun after => after.enter op (.members c name second) := by
  -- An empty part enters nothing; only two parts with changes meet in the same record.
  cases first with
  | nil => rfl
  | cons change first =>
    cases second with
    | nil =>
      rw [List.append_nil]
      cases ledgers.enter op (.members c name (change :: first)) <;> rfl
    | cons next second =>
      simp only [Finding.members, List.cons_append, List.isEmpty_cons, Bool.false_eq_true, if_false, enter]
      rw [← List.cons_append, List.map_append, Ledger.amend_append]
      cases (ledgers.get c.kind.toTypeKind).amend name ((change :: first).map (.member c.kind)) with
      | error e => rfl
      | ok ledger => simp only [bind, Except.bind, ByKind.get_set, if_true, ByKind.set_set]

namespace LedgerStores

def ofLedgers (ledgers : Ledgers) : LedgerStores := ByKind.ofFn fun kind => .ofLedger kind (ledgers.get kind)

variable {ledgers : Ledgers} {op : EditOperation} {kind : TypeKind} {name : String}

theorem ofLedgers_empty : ofLedgers Ledgers.empty = empty := rfl

@[simp] theorem get_ofLedgers : (ofLedgers ledgers).get kind = .ofLedger kind (ledgers.get kind) := by
  rw [ofLedgers, ByKind.get_ofFn]

theorem ofLedgers_set (ledger : Ledger) :
    ofLedgers (ledgers.set kind ledger) = (ofLedgers ledgers).set kind (.ofLedger kind ledger) := by
  ext k
  simp only [get_ofLedgers, ByKind.get_set]
  split
  · rename_i hSame
    rw [hSame]
  · rfl

/-- The stores after a judgement's finding has been entered. -/
def settled (ledgers : Ledgers) (op : EditOperation) (judged : Except Failure Finding) : Guarded String LedgerStores :=
  (told (judged >>= fun finding => ledgers.enter op finding)).map ofLedgers

@[simp] theorem settled_bind {α : Type} (x : Except Failure α) (judge : α → Except Failure Finding) :
    settled ledgers op (x >>= judge) = told x >>= fun a => settled ledgers op (judge a) := by
  cases x <;> rfl

@[simp] theorem settled_nothing : settled ledgers op (.ok .nothing) = .ok (ofLedgers ledgers) := rfl

@[simp] theorem settled_skipped (reason : SkipReason) :
    settled ledgers op (.ok (.skipped reason)) = .ok (ofLedgers ledgers) := rfl

@[simp] theorem settled_ite {p : Prop} [Decidable p] (x y : Except Failure Finding) :
    settled ledgers op (if p then x else y) = if p then settled ledgers op x else settled ledgers op y := by
  split <;> rfl

theorem enter_ofLedgers {entry : LedgerStore → Guarded LedgerError LedgerStore} {entered : Except LedgerError Ledger}
    (h : entry (.ofLedger kind (ledgers.get kind)) = (Guarded.plain (entered.mapError (·.bare))).map (.ofLedger kind)) :
    (ofLedgers ledgers).enter kind name (.ofOperation op) entry =
      (told (match entered with
        | .ok ledger => .ok (ledgers.set kind ledger)
        | .error e => .error (Ledgers.failure kind name op e))).map ofLedgers := by
  rw [enter, get_ofLedgers, h]
  cases entered with
  | ok ledger => exact congrArg Except.ok (ofLedgers_set ledger).symm
  | error e =>
    have hText : (e.bare.cause kind name).text (some (.ofOperation op)) = (Ledgers.failure kind name op e).message := by
      refine (Cause.text_ofOperation _ (some op)).trans ?_
      rw [Failure.message, LedgerError.message_cause_bare]
      cases e <;> rfl
    exact congrArg Guarded.raise hText

theorem settled_change {change : Change} (hBare : change.bare = change) :
    settled ledgers op (.ok (.change kind name change)) =
      (ofLedgers ledgers).seed (.type kind) name change (.ofOperation op) := by
  have hKind : byVertexKind.get? (.type kind) = some kind := by cases kind <;> decide
  rw [seed, hKind, Guarded.demand_some, Guarded.ok_bind, enter_ofLedgers (LedgerStore.seed_ofLedger hBare)]
  rfl

theorem settled_detail (detail : Detail) : settled ledgers op (.ok (.details kind name [detail])) =
    (ofLedgers ledgers).append kind name detail (.ofOperation op) := by
  rw [append, enter_ofLedgers (LedgerStore.append_ofLedger detail)]
  rfl

@[simp] theorem settled_member {c : Container} (change : MemberChange) : settled ledgers op (.ok (.members c name [change])) =
    (ofLedgers ledgers).recordMember c.vertex (.ofOperation op) change name := by
  obtain ⟨v, kind, hKind⟩ := c
  refine (settled_detail (.member kind change)).trans ?_
  cases kind with
  | object =>
    change v.kind = .type .object at hKind
    rw [recordMember, hKind]
    rfl
  | interface =>
    change v.kind = .type .interface at hKind
    rw [recordMember, hKind]
    rfl

/-- Changes of members are recorded together as they are one after the other. -/
theorem settled_members_append {c : Container} {name : String} (first second : List MemberChange) :
    settled ledgers op (.ok (.members c name (first ++ second))) =
      told (ledgers.enter op (.members c name first)) >>= fun after =>
        settled after op (.ok (.members c name second)) := by
  change (told (ledgers.enter op _)).map _ = _
  rw [Ledgers.enter_members_append, told_bind]
  cases ledgers.enter op (.members c name first) <;> rfl

theorem containerLedger_eq (c : Container) : containerLedger c.vertex = .ok c.kind.toTypeKind := by
  rw [containerLedger, c.kind_eq]
  cases c.kind <;> rfl

theorem containerLedger_union {v : Vertex} (h : v.kind = .type .union) : containerLedger v = .ok .union := by
  rw [containerLedger, h]

@[simp] theorem containerWasAdded_ofLedgers (c : Container) :
    (ofLedgers ledgers).containerWasAdded c.vertex = .ok (ledgers.containerAdded c) := by
  rw [containerWasAdded, containerLedger_eq, Guarded.ok_bind, get_ofLedgers, LedgerStore.wasAdded_ofLedger]
  rfl

@[simp] theorem containerWasRemoved_ofLedgers (c : Container) :
    (ofLedgers ledgers).containerWasRemoved c.vertex = .ok (ledgers.containerRemoved c) := by
  rw [containerWasRemoved, containerLedger_eq, Guarded.ok_bind, get_ofLedgers, LedgerStore.wasRemoved_ofLedger]
  rfl

theorem containerWasAdded_union {v : Vertex} (h : v.kind = .type .union) :
    (ofLedgers ledgers).containerWasAdded v = .ok (ledgers.union.wasAdded v.name) := by
  rw [containerWasAdded, containerLedger_union h, Guarded.ok_bind, get_ofLedgers, LedgerStore.wasAdded_ofLedger]
  rfl

theorem containerWasRemoved_union {v : Vertex} (h : v.kind = .type .union) :
    (ofLedgers ledgers).containerWasRemoved v = .ok (ledgers.union.wasRemoved v.name) := by
  rw [containerWasRemoved, containerLedger_union h, Guarded.ok_bind, get_ofLedgers, LedgerStore.wasRemoved_ofLedger]
  rfl

@[simp] theorem fieldWasAdded_ofLedgers (c : Container) (field : String) :
    (ofLedgers ledgers).fieldWasAdded c.vertex field = .ok (ledgers.fieldAdded c field) := by
  have hScope : (if c.vertex.kind = .type .object then ContainerKind.object else .interface) = c.kind := by
    rw [c.kind_eq]
    cases c.kind <;> rfl
  rw [fieldWasAdded, hScope, containerLedger_eq, Guarded.ok_bind, get_ofLedgers, LedgerStore.recordedDetails_ofLedger]
  rfl

theorem freeze_ofLedgers (ledgers : Ledgers) : (ofLedgers ledgers).freeze = .ok ledgers.toReport := by
  simp only [freeze, ofLedgers, ByKind.ofFn, LedgerStore.freeze_ofLedger, Guarded.ok_bind]
  rfl

end LedgerStores

namespace Script

open LedgerStores

variable {inputs : Inputs} {ledgers : Ledgers} {op : EditOperation}

theorem inconsistent_eq {α : Type} (cause : Cause) (op : Option EditOperation) :
    (inconsistent cause (op.map .ofOperation) : Guarded String α) = told (.error ⟨cause, op⟩) :=
  congrArg Guarded.raise (Cause.text_ofOperation cause op)

@[simp] theorem settled_error (cause : Cause) : settled ledgers op (.error ⟨cause, some op⟩) =
    inconsistent cause (some (.ofOperation op)) :=
  (inconsistent_eq cause (some op)).symm

theorem containerOf_ofGraph (g : SchemaGraph) (field : Vertex) :
    containerOf (.ofGraph g) field = (told (Inputs.container g field)).map (·.vertex) := by
  rw [containerOf, GraphStore.containerOf_ofGraph, Inputs.container]
  cases g.containerOf field <;> rfl

@[simp] theorem containerOf_bind {α : Type} (g : SchemaGraph) (field : Vertex) (k : Vertex → Guarded String α) :
    (containerOf (.ofGraph g) field >>= k) = told (Inputs.container g field) >>= fun c => k c.vertex := by
  rw [containerOf_ofGraph, Guarded.map_bind]

theorem argumentOwner_ofGraph (g : SchemaGraph) (argument : Vertex) :
    argumentOwner (.ofGraph g) argument = (told (Inputs.argumentOwner g argument)).map (·.vertex) := by
  rw [argumentOwner, GraphStore.argumentOwner_ofGraph, Inputs.argumentOwner]
  cases g.argumentOwner argument <;> rfl

/-- Each of the two kinds of owners is judged on its own. -/
theorem argumentOwner_bind {α : Type} (g : SchemaGraph) (argument : Vertex) {k : Vertex → Guarded String α}
    {judged : ArgumentOwner → Guarded String α}
    (hDirective : ∀ v : Vertex, v.kind = .directive → k v = judged (.directive v))
    (hField : ∀ v : Vertex, v.kind = .field → k v = judged (.field v)) :
    (argumentOwner (.ofGraph g) argument >>= k) = told (Inputs.argumentOwner g argument) >>= judged := by
  rw [argumentOwner_ofGraph, Guarded.map_bind, Inputs.argumentOwner]
  cases h : g.argumentOwner argument with
  | error e => rfl
  | ok owner =>
    have hKind := (SchemaGraph.mem_and_kind_of_argumentOwner h).2
    cases owner with
    | directive v => exact hDirective v hKind
    | field v => exact hField v hKind

@[simp] theorem readLabel_eq (label : String) : readLabel label = told (TypeLabel.read label) := by
  rw [readLabel, TypeLabel.read]
  cases TypeLabel.decode? label <;> rfl

end Script

end SchemaChange
