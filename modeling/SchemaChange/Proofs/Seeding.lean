import SchemaChange.Proofs.Walk

/-! # What the first pass records

Each operation on the vertex of a named type asks for one record, and the first pass enters these records in the order
of the operations. It gets to the end exactly if no operation changes the kind of a type and no name of a kind is asked
for twice.
-/
namespace SchemaChange

namespace EditOperation

/-- The record that an operation asks for among those of a kind: an inserted type is added, unless it is a built-in
scalar, a deleted one removed, and a changed one modified under its new name. -/
def seed? (kind : TypeKind) : EditOperation → Option (String × Change)
  | insertVertex v =>
    if v.kind = .type kind ∧ ¬ (kind = .scalar ∧ isBuiltInScalar v.name = true) then some (v.name, .added) else none
  | deleteVertex v => if v.kind = .type kind then some (v.name, .removed) else none
  | changeVertex _ target => if target.kind = .type kind then some (target.name, .modified []) else none
  | _ => none

def KeepsTypeKind : EditOperation → Prop
  | changeVertex source target => target.kind.isNamedType = true → source.kind = target.kind
  | _ => True

end EditOperation

/-- The records of a kind that a list of operations asks for, in order. -/
def seeds (kind : TypeKind) (operations : List EditOperation) : List (String × Change) :=
  operations.filterMap (·.seed? kind)

def seedNames (kind : TypeKind) (operations : List EditOperation) : List String :=
  (seeds kind operations).map Prod.fst

section

variable {kind : TypeKind} {name : String} {operations : List EditOperation} {op : EditOperation}

theorem seeds_cons (kind : TypeKind) (op : EditOperation) (operations : List EditOperation) :
    seeds kind (op :: operations) = (op.seed? kind).toList ++ seeds kind operations := by
  rw [seeds, List.filterMap_cons]
  cases op.seed? kind <;> rfl

theorem mem_seeds_added_iff : (name, .added) ∈ seeds kind operations ↔
    ∃ v, .insertVertex v ∈ operations ∧ v.kind = .type kind ∧ v.name = name ∧
      ¬ (kind = .scalar ∧ isBuiltInScalar name = true) := by
  simp only [seeds, List.mem_filterMap]
  constructor
  · rintro ⟨op, hOp, hSeed⟩
    cases op with
    | insertVertex v =>
      obtain ⟨⟨hKind, hScalar⟩, hEq⟩ := Option.ite_none_right_eq_some.mp hSeed
      cases hEq
      exact ⟨v, hOp, hKind, rfl, hScalar⟩
    | deleteVertex | changeVertex => simp [EditOperation.seed?] at hSeed
    | insertEdge | deleteEdge | changeEdge => cases hSeed
  · rintro ⟨v, hOp, hKind, rfl, hScalar⟩
    exact ⟨_, hOp, if_pos ⟨hKind, hScalar⟩⟩

theorem mem_seeds_removed_iff : (name, .removed) ∈ seeds kind operations ↔
    ∃ v, .deleteVertex v ∈ operations ∧ v.kind = .type kind ∧ v.name = name := by
  simp only [seeds, List.mem_filterMap]
  constructor
  · rintro ⟨op, hOp, hSeed⟩
    cases op with
    | deleteVertex v =>
      obtain ⟨hKind, hEq⟩ := Option.ite_none_right_eq_some.mp hSeed
      cases hEq
      exact ⟨v, hOp, hKind, rfl⟩
    | insertVertex | changeVertex => simp [EditOperation.seed?] at hSeed
    | insertEdge | deleteEdge | changeEdge => cases hSeed
  · rintro ⟨v, hOp, hKind, rfl⟩
    exact ⟨_, hOp, if_pos hKind⟩

theorem mem_seeds_modified_iff {details : List Detail} : (name, .modified details) ∈ seeds kind operations ↔
    details = [] ∧ ∃ source target, .changeVertex source target ∈ operations ∧ target.kind = .type kind ∧
      target.name = name := by
  simp only [seeds, List.mem_filterMap]
  constructor
  · rintro ⟨op, hOp, hSeed⟩
    cases op with
    | changeVertex source target =>
      obtain ⟨hKind, hEq⟩ := Option.ite_none_right_eq_some.mp hSeed
      cases hEq
      exact ⟨rfl, source, target, hOp, hKind, rfl⟩
    | insertVertex | deleteVertex => simp [EditOperation.seed?] at hSeed
    | insertEdge | deleteEdge | changeEdge => cases hSeed
  · rintro ⟨rfl, source, target, hOp, hKind, rfl⟩
    exact ⟨_, hOp, if_pos hKind⟩

/-- A finding about an operation that asks for no record changes none; otherwise it is the record asked for. -/
def Seeds (op : EditOperation) (finding : Finding) : Prop :=
  ((finding = .nothing ∨ finding = .skipped .builtInScalar) ∧ ∀ kind, op.seed? kind = none) ∨
  ∃ k n c, finding = .change k n c ∧ ∀ kind, op.seed? kind = if k = kind then some (n, c) else none

theorem exists_judgeTypeVertex (h : op.KeepsTypeKind) : ∃ finding, Inputs.judgeTypeVertex op = .ok finding := by
  unfold Inputs.judgeTypeVertex
  repeat' split
  all_goals first | exact ⟨_, rfl⟩ | skip
  rename_i source target kind hKind hKept
  exact absurd (h (by simp [hKind, VertexKind.isNamedType])) hKept

theorem keepsTypeKind_of_judge {finding : Finding} (h : Inputs.judgeTypeVertex op = .ok finding) : op.KeepsTypeKind := by
  cases op with
  | changeVertex source target =>
    intro hNamed
    cases hKind : target.kind with
    | type kind =>
      simp only [Inputs.judgeTypeVertex, hKind] at h
      split at h
      · assumption
      · cases h
    | field | argument | directive => simp [hKind, VertexKind.isNamedType] at hNamed
  | _ => trivial

theorem kindChanged_of_judge {failure : Failure} (h : Inputs.judgeTypeVertex op = .error failure) :
    ¬ op.KeepsTypeKind ∧ failure = ⟨.kindChanged, some op⟩ := by
  refine ⟨?_, ?_⟩
  · intro hKept
    obtain ⟨finding, hJudge⟩ := exists_judgeTypeVertex hKept
    cases hJudge.symm.trans h
  · unfold Inputs.judgeTypeVertex at h
    repeat' split at h
    all_goals cases h
    rfl

theorem seeds_of_judge {finding : Finding} (h : Inputs.judgeTypeVertex op = .ok finding) : Seeds op finding := by
  cases op with
  | insertVertex v =>
    cases hKind : v.kind with
    | type k =>
      simp only [Inputs.judgeTypeVertex, hKind] at h
      split at h
      · rename_i hScalar
        cases h
        refine .inl ⟨.inr rfl, fun kind => if_neg ?_⟩
        rintro ⟨hEq, hNot⟩
        rw [hKind, VertexKind.type.injEq] at hEq
        exact hNot (hEq ▸ hScalar)
      · rename_i hScalar
        cases h
        refine .inr ⟨_, _, _, rfl, fun kind => ?_⟩
        simp only [EditOperation.seed?, hKind, VertexKind.type.injEq]
        by_cases hEq : k = kind
        · subst hEq
          simp [hScalar]
        · simp [hEq]
    | field | argument | directive =>
      simp only [Inputs.judgeTypeVertex, hKind] at h
      cases h
      exact .inl ⟨.inl rfl, by simp [EditOperation.seed?, hKind]⟩
  | deleteVertex v =>
    cases hKind : v.kind with
    | type k =>
      simp only [Inputs.judgeTypeVertex, hKind] at h
      cases h
      exact .inr ⟨_, _, _, rfl, by simp [EditOperation.seed?, hKind]⟩
    | field | argument | directive =>
      simp only [Inputs.judgeTypeVertex, hKind] at h
      cases h
      exact .inl ⟨.inl rfl, by simp [EditOperation.seed?, hKind]⟩
  | changeVertex source target =>
    cases hKind : target.kind with
    | type k =>
      simp only [Inputs.judgeTypeVertex, hKind] at h
      split at h
      · cases h
        exact .inr ⟨_, _, _, rfl, by simp [EditOperation.seed?, hKind]⟩
      · cases h
    | field | argument | directive =>
      simp only [Inputs.judgeTypeVertex, hKind] at h
      cases h
      exact .inl ⟨.inl rfl, by simp [EditOperation.seed?, hKind]⟩
  | insertEdge | deleteEdge | changeEdge =>
    cases h
    exact .inl ⟨.inl rfl, fun _ => rfl⟩

end

section

variable {inputs : Inputs} {before after : Ledgers} {operations : List EditOperation} {op : EditOperation}
  {finding : Finding} {found : List Finding}

theorem entries_of_enter (hSeeds : Seeds op finding) (h : before.enter op finding = .ok after) (kind : TypeKind) :
    (after.get kind).entries = (before.get kind).entries ++ (op.seed? kind).toList := by
  obtain ⟨rfl | rfl, hNone⟩ | ⟨k, name, change, rfl, hSome⟩ := hSeeds
  · cases h
    simp [hNone]
  · cases h
    simp [hNone]
  · obtain ⟨hFresh, rfl⟩ := Ledgers.enter_change_eq_ok_iff.mp h
    rw [hSome kind, ByKind.get_set]
    by_cases hKind : kind = k
    · subst hKind
      simp [Ledger.insert]
    · simp [hKind, Ne.symm hKind]

theorem entries_of_walks (h : Pass.typeVertices.Walks inputs before operations found after) (kind : TypeKind) :
    (after.get kind).entries = (before.get kind).entries ++ seeds kind operations := by
  induction h with
  | nil => simp [seeds]
  | cons hJudge hEnter _ ih =>
    rw [ih, entries_of_enter (seeds_of_judge hJudge) hEnter, seeds_cons, List.append_assoc]

theorem keepsTypeKind_of_walks (h : Pass.typeVertices.Walks inputs before operations found after) :
    ∀ op ∈ operations, op.KeepsTypeKind := by
  induction h with
  | nil => simp
  | cons hJudge _ _ ih => exact List.forall_mem_cons.mpr ⟨keepsTypeKind_of_judge hJudge, ih⟩

theorem exists_enter_of_seeds (hSeeds : Seeds op finding)
    (hFresh : ∀ kind, ((before.get kind).names ++ (op.seed? kind).toList.map Prod.fst).Nodup) :
    ∃ after, before.enter op finding = .ok after := by
  obtain ⟨rfl | rfl, _⟩ | ⟨k, name, change, rfl, hSome⟩ := hSeeds
  · exact ⟨before, rfl⟩
  · exact ⟨before, rfl⟩
  · have hNodup := hFresh k
    rw [hSome k, if_pos rfl] at hNodup
    have hName : name ∉ (before.get k).names := by
      intro hMem
      exact (List.nodup_append.mp hNodup).2.2 name hMem name (by simp) rfl
    exact ⟨_, Ledgers.enter_change_eq_ok_iff.mpr ⟨Ledger.change?_eq_none_iff.mpr hName, rfl⟩⟩

/-- The first pass gets to the end if every type keeps its kind and no name of a kind is asked for twice. -/
theorem exists_walks_typeVertices (hKept : ∀ op ∈ operations, op.KeepsTypeKind)
    (hNodup : ∀ kind, ((before.get kind).names ++ seedNames kind operations).Nodup) :
    ∃ found after, Pass.typeVertices.Walks inputs before operations found after := by
  induction operations generalizing before with
  | nil => exact ⟨[], before, .nil⟩
  | cons op operations ih =>
    obtain ⟨hFirst, hRest⟩ := List.forall_mem_cons.mp hKept
    obtain ⟨finding, hJudge⟩ := exists_judgeTypeVertex hFirst
    have hSeeds := seeds_of_judge hJudge
    -- The names asked for are split after the first operation, which moves its own name to the ledgers.
    simp only [seedNames, seeds_cons, List.map_append, ← List.append_assoc] at hNodup
    obtain ⟨middle, hEnter⟩ := exists_enter_of_seeds hSeeds (fun kind => (List.nodup_append.mp (hNodup kind)).1)
    have hNames : ∀ kind, (middle.get kind).names = (before.get kind).names ++ (op.seed? kind).toList.map Prod.fst := by
      intro kind
      rw [Ledger.names, entries_of_enter hSeeds hEnter, List.map_append]
      rfl
    have hMiddle : ∀ kind, ((middle.get kind).names ++ seedNames kind operations).Nodup := by
      intro kind
      rw [hNames]
      exact hNodup kind
    obtain ⟨found, after, hWalks⟩ := ih hRest hMiddle
    exact ⟨finding :: found, after, .cons hJudge hEnter hWalks⟩

theorem alreadyRecorded_of_enter {failure : Failure} (hSeeds : Seeds op finding)
    (h : before.enter op finding = .error failure) : ∃ kind name existing new,
      (name, existing) ∈ (before.get kind).entries ∧ op.seed? kind = some (name, new) ∧
      failure = ⟨.alreadyRecorded kind name existing new, some op⟩ := by
  obtain ⟨rfl | rfl, _⟩ | ⟨k, name, change, rfl, hSome⟩ := hSeeds
  · cases h
  · cases h
  · simp only [Ledgers.enter] at h
    split at h
    · cases h
    · rename_i e hSeed
      obtain ⟨existing, hExisting, rfl⟩ := (Ledger.seed_eq_error_iff e).mp hSeed
      cases h
      exact ⟨k, name, existing, change, Ledger.change?_eq_some_iff.mp hExisting, by rw [hSome k, if_pos rfl], rfl⟩

/-- The first pass fails at a type that changed its kind, or at an operation that asks for a name which is recorded
already. -/
theorem kindChanged_or_alreadyRecorded_of_walk {failure : Failure}
    (h : (Pass.typeVertices.walk inputs before operations).2 = .error failure) :
    ∃ past op future, operations = past ++ op :: future ∧
      ((¬ op.KeepsTypeKind ∧ failure = ⟨.kindChanged, some op⟩) ∨
      ∃ kind name existing new, (name, existing) ∈ (before.get kind).entries ++ seeds kind past ∧
        op.seed? kind = some (name, new) ∧ failure = ⟨.alreadyRecorded kind name existing new, some op⟩) := by
  induction operations generalizing before with
  | nil => cases h
  | cons op operations ih =>
    cases hJudge : Inputs.judgeTypeVertex op with
    | error failure' =>
      have hStep : Pass.typeVertices.step inputs before op = .error failure' := by
        rw [Pass.step, Pass.judge, hJudge]
        rfl
      simp only [Pass.walk, hStep] at h
      cases h
      exact ⟨[], op, operations, rfl, .inl (kindChanged_of_judge hJudge)⟩
    | ok finding =>
      have hSeeds := seeds_of_judge hJudge
      cases hEnter : before.enter op finding with
      | error failure' =>
        have hStep : Pass.typeVertices.step inputs before op = .error failure' := by
          rw [Pass.step, Pass.judge, hJudge]
          change (before.enter op finding >>= _) = _
          rw [hEnter]
          rfl
        simp only [Pass.walk, hStep] at h
        cases h
        obtain ⟨kind, name, existing, new, hExisting, hSeed, rfl⟩ := alreadyRecorded_of_enter hSeeds hEnter
        have hEntries : (name, existing) ∈ (before.get kind).entries ++ seeds kind [] :=
          List.mem_append_left _ hExisting
        exact ⟨[], op, operations, rfl, .inr ⟨kind, name, existing, new, hEntries, hSeed, rfl⟩⟩
      | ok middle =>
        have hStep : Pass.typeVertices.step inputs before op = .ok (finding, middle) :=
          Pass.step_eq_ok_iff.mpr ⟨hJudge, hEnter⟩
        simp only [Pass.walk, hStep] at h
        obtain ⟨past, later, future, rfl, hFailure⟩ := ih h
        refine ⟨op :: past, later, future, rfl, hFailure.imp_right ?_⟩
        rintro ⟨kind, name, existing, new, hExisting, hSeed, rfl⟩
        refine ⟨kind, name, existing, new, ?_, hSeed, rfl⟩
        rwa [entries_of_enter hSeeds hEnter, List.append_assoc, ← seeds_cons] at hExisting

/-- If every type keeps its kind, the first pass fails only at an operation that asks for a name which is recorded
already. -/
theorem alreadyRecorded_of_walk {failure : Failure} (hKept : ∀ op ∈ operations, op.KeepsTypeKind)
    (h : (Pass.typeVertices.walk inputs before operations).2 = .error failure) :
    ∃ kind name existing new past op future, operations = past ++ op :: future ∧
      (name, existing) ∈ (before.get kind).entries ++ seeds kind past ∧ op.seed? kind = some (name, new) ∧
      failure = ⟨.alreadyRecorded kind name existing new, some op⟩ := by
  obtain ⟨past, op, future, rfl, ⟨hNot, _⟩ | ⟨kind, name, existing, new, hRecorded⟩⟩ :=
    kindChanged_or_alreadyRecorded_of_walk h
  · exact absurd (hKept op (by simp)) hNot
  · exact ⟨kind, name, existing, new, past, op, future, rfl, hRecorded⟩

end

namespace CompleteRun

variable {inputs : Inputs} (run : CompleteRun inputs)

theorem entries_seeded (kind : TypeKind) :
    ((run.left .typeVertices).get kind).entries = seeds kind inputs.operations := by
  have h := entries_of_walks (run.walks .typeVertices) kind
  simpa [Pass.start, Ledger.empty] using h

theorem names_seeded (kind : TypeKind) :
    ((run.left .typeVertices).get kind).names = seedNames kind inputs.operations := by
  rw [Ledger.names, run.entries_seeded]
  rfl

end CompleteRun

end SchemaChange
