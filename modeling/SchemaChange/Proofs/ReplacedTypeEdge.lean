import SchemaChange.Proofs.Reordering
import SchemaChange.Proofs.Schema
import SchemaChange.Proofs.TypeEdges

/-! # Two ways to tell of a new type

A type edge that takes the place of another one can be told as one changed edge, or as a deleted edge and an inserted
one. A run on operations with the one of them is, pass by pass, a run with the other: every pass holds the same ledgers
before and after, so the reports are equal.
-/
namespace SchemaChange

/-- One type edge takes the place of another: both leave a field, or both an argument, and the vertex that the old edge
leaves is matched with the one that the new edge leaves. -/
structure Inputs.TakesPlace (inputs : Inputs) (old new : Edge) : Prop where
  old_label : isTypeLabel old.label = true
  new_label : isTypeLabel new.label = true
  kinds : (old.source.kind = .field ∧ new.source.kind = .field) ∨
    (old.source.kind = .argument ∧ new.source.kind = .argument)
  matched : inputs.matching.target? old.source = some new.source

namespace Pass

variable {pass : Pass} {inputs inputs' : Inputs} {start after : Ledgers}
  {earlier segment segment' later : List EditOperation} {found : List Finding}

/-- A part of the operations can be replaced if from the ledgers reached before it the new part leads to the same
ledgers, and the other operations are judged alike. -/
theorem Walks.replace (h : pass.Walks inputs start (earlier ++ (segment ++ later)) found after)
    (hOthers : ∀ op ∈ earlier ++ later, ∀ ledgers finding, pass.judge inputs ledgers op = .ok finding →
      pass.judge inputs' ledgers op = .ok finding)
    (hSegment : ∀ before middle first found, pass.Walks inputs start earlier first before →
      pass.Walks inputs before segment found middle → ∃ found', pass.Walks inputs' before segment' found' middle) :
    ∃ found', pass.Walks inputs' start (earlier ++ (segment' ++ later)) found' after := by
  obtain ⟨first, before, rest, rfl, hFirst, hRest⟩ := walks_append_iff.mp h
  obtain ⟨replaced, middle, last, rfl, hReplaced, hLast⟩ := walks_append_iff.mp hRest
  obtain ⟨replaced', hReplaced'⟩ := hSegment before middle first replaced hFirst hReplaced
  have hFirst' := hFirst.of_judge fun op hOp => hOthers op (List.mem_append_left _ hOp)
  have hLast' := hLast.of_judge fun op hOp => hOthers op (List.mem_append_right _ hOp)
  exact ⟨_, walks_append_iff.mpr ⟨_, _, _, rfl, hFirst', walks_append_iff.mpr ⟨_, _, _, rfl, hReplaced', hLast'⟩⟩⟩

end Pass

namespace Inputs.TakesPlace

variable {inputs : Inputs} {old new : Edge} {ledgers : Ledgers} {finding : Finding}

theorem source?_eq (h : inputs.TakesPlace old new) : inputs.matching.source? new.source = some old.source :=
  Matching.source?_eq_some_iff.mpr (Matching.target?_eq_some_iff.mp h.matched)

/-- The deleted edge is nothing to any pass by itself: it counts where a pass looks for the edge that was removed. -/
theorem judge_deleteEdge (h : inputs.TakesPlace old new) (pass : Pass) (ledgers : Ledgers) :
    pass.judge inputs ledgers (.deleteEdge old) = .ok .nothing := by
  cases pass with
  | typeVertices | fieldVertices | typeEdges => rfl
  | implementsEdges =>
    have hLabel := isImplementsLabel_eq_false h.old_label
    simp [Pass.judge, judgeImplementsEdge, hLabel]
  | unionMembers =>
    have hKind : old.source.kind ≠ .type .union := by
      rcases h.kinds with ⟨hKind, _⟩ | ⟨hKind, _⟩ <;> simp [hKind]
    simp [Pass.judge, judgeUnionMember, hKind]

theorem judgeFieldType_iff (h : inputs.TakesPlace old new)
    (hPaired : inputs.pairedTypeEdge new.source (.insertEdge new) = .ok old)
    (hField : ∀ c, inputs.newGraph.containerOf new.source = .ok c → ledgers.fieldAdded c new.source.name = false) :
    inputs.judgeFieldTypeChanged ledgers old new = .ok finding ↔
      inputs.judgeFieldTypeInserted ledgers new (.insertEdge new) = .ok finding := by
  obtain ⟨before, hBefore⟩ := exists_decode? h.old_label
  obtain ⟨after, hAfter⟩ := exists_decode? h.new_label
  rw [judgeFieldTypeChanged_eq_ok_iff, judgeFieldTypeInserted_eq_ok_iff]
  apply exists_congr
  intro c
  apply and_congr_right
  intro hContainer
  simp [hField c hContainer, hPaired, hBefore, hAfter]

theorem judgeArgumentType_iff (h : inputs.TakesPlace old new)
    (hPaired : inputs.pairedTypeEdge new.source (.insertEdge new) = .ok old)
    (hField : ∀ field c, inputs.newGraph.argumentOwner new.source = .ok (.field field) →
      inputs.newGraph.containerOf field = .ok c → ledgers.fieldAdded c field.name = false) :
    inputs.judgeArgumentTypeChanged ledgers old new = .ok finding ↔
      inputs.judgeArgumentTypeInserted ledgers new (.insertEdge new) = .ok finding := by
  obtain ⟨before, hBefore⟩ := exists_decode? h.old_label
  obtain ⟨after, hAfter⟩ := exists_decode? h.new_label
  rw [judgeArgumentTypeChanged_eq_ok_iff, judgeArgumentTypeInserted_eq_ok_iff]
  apply or_congr_right
  apply exists_congr
  intro field
  apply and_congr_right
  intro hOwner
  apply exists_congr
  intro c
  apply and_congr_right
  intro hContainer
  simp [hField field c hOwner hContainer, hPaired, hBefore, hAfter, h.source?_eq]

/-- A changed edge is judged as the inserted edge is that is paired with the deleted one, unless the field was added. -/
theorem judge_iff (h : inputs.TakesPlace old new) (pass : Pass)
    (hPaired : inputs.pairedTypeEdge new.source (.insertEdge new) = .ok old)
    (hField : pass = .typeEdges →
      ∀ field c, inputs.Typed new.source field c → ledgers.fieldAdded c field.name = false) :
    pass.judge inputs ledgers (.changeEdge old new) = .ok finding ↔
      pass.judge inputs ledgers (.insertEdge new) = .ok finding := by
  cases pass with
  | typeVertices | fieldVertices => rfl
  | typeEdges =>
    rcases h.kinds with ⟨_, hKind⟩ | ⟨_, hKind⟩
    · simp only [Pass.judge, judgeTypeEdge, h.new_label, if_true, hKind]
      exact h.judgeFieldType_iff hPaired fun c hContainer => hField rfl _ c (.field hKind hContainer)
    · simp only [Pass.judge, judgeTypeEdge, h.new_label, if_true, hKind]
      exact h.judgeArgumentType_iff hPaired fun field c hOwner hContainer =>
        hField rfl field c (.argument hKind hOwner hContainer)
  | implementsEdges =>
    have hLabel := isImplementsLabel_eq_false h.new_label
    simp [Pass.judge, judgeImplementsEdge, hLabel]
  | unionMembers =>
    have hKind : new.source.kind ≠ .type .union := by
      rcases h.kinds with ⟨_, hKind⟩ | ⟨_, hKind⟩ <;> simp [hKind]
    simp [Pass.judge, judgeUnionMember, hKind]

end Inputs.TakesPlace

namespace Inputs

variable {inputs : Inputs} {old new : Edge} {earlier later : List EditOperation} {v : Vertex}

/-- No operation of a list deletes a type edge of a vertex. -/
def KeepsTypeOf (v : Vertex) (operations : List EditOperation) : Prop :=
  ∀ e, .deleteEdge e ∈ operations → isTypeLabel e.label = true → e.source ≠ v

theorem removedTypeEdges_append (first second : List EditOperation) :
    removedTypeEdges (first ++ second) = removedTypeEdges first ++ removedTypeEdges second :=
  List.filterMap_append

theorem removedTypeEdges_cons (op : EditOperation) (operations : List EditOperation) :
    removedTypeEdges (op :: operations) = op.removedTypeEdge?.toList ++ removedTypeEdges operations := by
  rw [removedTypeEdges, List.filterMap_cons]
  cases op.removedTypeEdge? <;> rfl

theorem KeepsTypeOf.find?_eq_none {operations : List EditOperation} (h : KeepsTypeOf v operations) :
    (removedTypeEdges operations).find? (·.source = v) = none := by
  rw [List.find?_eq_none]
  intro e he
  obtain ⟨op, hOp, hRemoved⟩ := List.mem_filterMap.mp he
  cases op with
  | deleteEdge deleted =>
    obtain ⟨hLabel, hEq⟩ := Option.ite_none_right_eq_some.mp hRemoved
    cases hEq
    simpa using h _ hOp hLabel
  | _ => cases hRemoved

/-- An operation that removes no type edge of a vertex makes no difference to which one is removed first. -/
theorem removedTypeEdge?_append_cons {op : EditOperation} (h : ∀ e, op.removedTypeEdge? = some e → e.source ≠ v) :
    removedTypeEdge? (earlier ++ op :: later) v = removedTypeEdge? (earlier ++ later) v := by
  have hOp : op.removedTypeEdge?.toList.find? (·.source = v) = none := by
    rw [List.find?_eq_none]
    intro e hRemoved
    simpa using h e (Option.mem_toList.mp hRemoved)
  rw [removedTypeEdge?_eq_find?, removedTypeEdge?_eq_find?, removedTypeEdges_append, removedTypeEdges_append,
    removedTypeEdges_cons, List.find?_append, List.find?_append, List.find?_append, hOp, Option.none_or]

theorem removedTypeEdge?_changeEdge (v : Vertex) :
    removedTypeEdge? (earlier ++ .changeEdge old new :: later) v = removedTypeEdge? (earlier ++ later) v :=
  removedTypeEdge?_append_cons fun _ hNone => by cases hNone

section

variable (hLabel : isTypeLabel old.label = true)

include hLabel in
theorem removedTypeEdges_deleteEdge : removedTypeEdges (earlier ++ .deleteEdge old :: .insertEdge new :: later) =
    removedTypeEdges earlier ++ old :: removedTypeEdges later := by
  rw [removedTypeEdges_append]
  simp [removedTypeEdges, EditOperation.removedTypeEdge?, hLabel]

include hLabel in
theorem removedTypeEdge?_deleteEdge_self (h : KeepsTypeOf old.source (earlier ++ later)) :
    removedTypeEdge? (earlier ++ .deleteEdge old :: .insertEdge new :: later) old.source = some old := by
  have hEarlier : KeepsTypeOf old.source earlier := fun e he => h e (List.mem_append_left _ he)
  rw [removedTypeEdge?_eq_find?, removedTypeEdges_deleteEdge hLabel, List.find?_append, hEarlier.find?_eq_none]
  simp

include hLabel in
theorem removedTypeEdge?_deleteEdge_of_ne (h : v ≠ old.source) :
    removedTypeEdge? (earlier ++ .deleteEdge old :: .insertEdge new :: later) v =
      removedTypeEdge? (earlier ++ later) v := by
  rw [removedTypeEdge?_eq_find?, removedTypeEdge?_eq_find?, removedTypeEdges_deleteEdge hLabel, removedTypeEdges_append,
    List.find?_append, List.find?_append, List.find?_cons_of_neg (by simpa using Ne.symm h)]

end

section

variable {ledgers : Ledgers} {op : EditOperation} {finding : Finding} {edge : Edge}
  {operations operations' : List EditOperation}

theorem judgeFieldTypeInserted_of_paired
    (hPaired : ∀ removed, (inputs.withOperations operations).pairedTypeEdge edge.source op = .ok removed →
      (inputs.withOperations operations').pairedTypeEdge edge.source op = .ok removed)
    (h : (inputs.withOperations operations).judgeFieldTypeInserted ledgers edge op = .ok finding) :
    (inputs.withOperations operations').judgeFieldTypeInserted ledgers edge op = .ok finding := by
  rw [judgeFieldTypeInserted_eq_ok_iff] at h ⊢
  obtain ⟨c, hContainer, hAdded | ⟨hOpen, hField | ⟨hField, after, hAfter, removed, hRemoved, hFound⟩⟩⟩ := h
  · exact ⟨c, hContainer, .inl hAdded⟩
  · exact ⟨c, hContainer, .inr ⟨hOpen, .inl hField⟩⟩
  · exact ⟨c, hContainer, .inr ⟨hOpen, .inr ⟨hField, after, hAfter, removed, hPaired removed hRemoved, hFound⟩⟩⟩

theorem judgeArgumentTypeInserted_of_paired
    (hPaired : ∀ removed, (inputs.withOperations operations).pairedTypeEdge edge.source op = .ok removed →
      (inputs.withOperations operations').pairedTypeEdge edge.source op = .ok removed)
    (h : (inputs.withOperations operations).judgeArgumentTypeInserted ledgers edge op = .ok finding) :
    (inputs.withOperations operations').judgeArgumentTypeInserted ledgers edge op = .ok finding := by
  rw [judgeArgumentTypeInserted_eq_ok_iff] at h ⊢
  refine h.imp_right ?_
  rintro ⟨owner, hOwner, c, hContainer, hFound⟩
  refine ⟨owner, hOwner, c, hContainer, hFound.imp_right (And.imp_right (Or.imp_right (And.imp_right ?_)))⟩
  rintro (hNone | ⟨hSome, removed, hRemoved, hFound⟩)
  · exact .inl hNone
  · exact .inr ⟨hSome, removed, hPaired removed hRemoved, hFound⟩

/-- An operation is judged alike among other operations if these have the same edge for it to be paired with. -/
theorem judge_of_paired {pass : Pass}
    (hRemoved : ∀ edge v removed, op = .insertEdge edge → isTypeLabel edge.label = true →
      edge.source.kind = .field ∨ edge.source.kind = .argument → inputs.matching.source? edge.source = some v →
      removedTypeEdge? operations v = some removed → removedTypeEdge? operations' v = some removed)
    (h : pass.judge (inputs.withOperations operations) ledgers op = .ok finding) :
    pass.judge (inputs.withOperations operations') ledgers op = .ok finding := by
  cases pass with
  | typeVertices | fieldVertices | implementsEdges | unionMembers => exact h
  | typeEdges =>
    cases op with
    | insertVertex | deleteVertex | changeVertex | deleteEdge | changeEdge => exact h
    | insertEdge edge =>
      simp only [Pass.judge, judgeTypeEdge] at h ⊢
      split at h
      · rename_i hLabel
        have hPaired : edge.source.kind = .field ∨ edge.source.kind = .argument → ∀ removed,
            (inputs.withOperations operations).pairedTypeEdge edge.source (.insertEdge edge) = .ok removed →
            (inputs.withOperations operations').pairedTypeEdge edge.source (.insertEdge edge) = .ok removed := by
          intro hKind removed hPaired
          obtain ⟨v, hSource, hFirst⟩ := pairedTypeEdge_eq_ok_iff.mp hPaired
          exact pairedTypeEdge_eq_ok_iff.mpr ⟨v, hSource, hRemoved edge v removed rfl hLabel hKind hSource hFirst⟩
        rw [if_pos hLabel]
        split at h
        · exact judgeArgumentTypeInserted_of_paired (hPaired (.inr ‹_›)) h
        · exact judgeFieldTypeInserted_of_paired (hPaired (.inl ‹_›)) h
        · exact h
      · rename_i hLabel
        rw [if_neg hLabel]
        exact h

end

end Inputs

namespace Inputs.TakesPlace

variable {inputs : Inputs} {old new : Edge} {earlier later : List EditOperation} {pass : Pass}
  {before middle : Ledgers} {op : EditOperation} {finding : Finding}

/-- With the deleted edge in the list no operation loses the edge that it is paired with. -/
theorem judge_deleted (h : inputs.TakesPlace old new) (hKept : KeepsTypeOf old.source (earlier ++ later))
    (hJudge : pass.judge (inputs.withOperations (earlier ++ .changeEdge old new :: later)) before op = .ok finding) :
    pass.judge (inputs.withOperations (earlier ++ .deleteEdge old :: .insertEdge new :: later)) before op =
      .ok finding := by
  refine judge_of_paired ?_ hJudge
  intro _ v removed _ _ _ _ hRemoved
  rw [removedTypeEdge?_changeEdge] at hRemoved
  have hOther : v ≠ old.source := by
    rintro rfl
    rw [removedTypeEdge?_eq_find?, hKept.find?_eq_none] at hRemoved
    cases hRemoved
  exact (removedTypeEdge?_deleteEdge_of_ne h.old_label hOther).trans hRemoved

/-- Of the other operations only an edge inserted for the same vertex can be paired with the deleted one. -/
theorem judge_changed (h : inputs.TakesPlace old new)
    (hInserted : ∀ edge, op = .insertEdge edge → isTypeLabel edge.label = true → edge.source ≠ new.source)
    (hJudge : pass.judge (inputs.withOperations (earlier ++ .deleteEdge old :: .insertEdge new :: later)) before op =
      .ok finding) :
    pass.judge (inputs.withOperations (earlier ++ .changeEdge old new :: later)) before op = .ok finding := by
  refine judge_of_paired ?_ hJudge
  intro edge v removed hOp hLabel _ hSource hRemoved
  have hOther : v ≠ old.source := by
    rintro rfl
    have hTarget := Matching.target?_eq_some_iff.mpr (Matching.source?_eq_some_iff.mp hSource)
    exact hInserted edge hOp hLabel (Option.some.inj (hTarget.symm.trans h.matched))
  rw [removedTypeEdge?_changeEdge]
  exact (removedTypeEdge?_deleteEdge_of_ne h.old_label hOther).symm.trans hRemoved

theorem withOperations (h : inputs.TakesPlace old new) (operations : List EditOperation) :
    (inputs.withOperations operations).TakesPlace old new := ⟨h.old_label, h.new_label, h.kinds, h.matched⟩

theorem judge_changeEdge_iff (h : inputs.TakesPlace old new) (hKept : KeepsTypeOf old.source (earlier ++ later))
    (hField : pass = .typeEdges → ∀ field c, inputs.Typed new.source field c → before.fieldAdded c field.name = false) :
    pass.judge (inputs.withOperations (earlier ++ .changeEdge old new :: later)) before (.changeEdge old new) =
        .ok finding ↔
      pass.judge (inputs.withOperations (earlier ++ .deleteEdge old :: .insertEdge new :: later)) before
        (.insertEdge new) = .ok finding := by
  rw [← (h.withOperations _).judge_iff pass]
  · cases pass <;> rfl
  · exact pairedTypeEdge_eq_ok_iff.mpr ⟨old.source, h.source?_eq, removedTypeEdge?_deleteEdge_self h.old_label hKept⟩
  · rintro hPass field c (⟨hKind, hContainer⟩ | ⟨hKind, hOwner, hContainer⟩)
    · exact hField hPass _ c (.field hKind hContainer)
    · exact hField hPass field c (.argument hKind hOwner hContainer)

/-- From the same ledgers the changed edge leads to the same ledgers as the deleted and the inserted one. -/
theorem exists_walks_iff (h : inputs.TakesPlace old new) (hKept : KeepsTypeOf old.source (earlier ++ later))
    (hField : pass = .typeEdges → ∀ field c, inputs.Typed new.source field c → before.fieldAdded c field.name = false) :
    (∃ found, pass.Walks (inputs.withOperations (earlier ++ .changeEdge old new :: later)) before
        [.changeEdge old new] found middle) ↔
      ∃ found, pass.Walks (inputs.withOperations (earlier ++ .deleteEdge old :: .insertEdge new :: later)) before
        [.deleteEdge old, .insertEdge new] found middle := by
  have hDeleted :=
    (h.withOperations (earlier ++ .deleteEdge old :: .insertEdge new :: later)).judge_deleteEdge pass before
  constructor
  · rintro ⟨found, hWalks⟩
    cases hWalks with
    | cons hJudge hEnter hRest =>
      cases hRest
      have hInserted := (h.judge_changeEdge_iff hKept hField).mp hJudge
      exact ⟨_, .cons hDeleted rfl (.cons hInserted (Ledgers.enter_eq_ok_of_enter hEnter _) .nil)⟩
  · rintro ⟨found, hWalks⟩
    cases hWalks with
    | cons hJudge hEnter hRest =>
      cases hDeleted.symm.trans hJudge
      cases hEnter
      cases hRest with
      | cons hInserted hEnter hRest =>
        cases hRest
        have hChanged := (h.judge_changeEdge_iff hKept hField).mpr hInserted
        exact ⟨_, .cons hChanged (Ledgers.enter_eq_ok_of_enter hEnter _) .nil⟩

end Inputs.TakesPlace

/-- If each walk of a complete run is one of other inputs too, with findings of its own, these give the same report. -/
theorem CompleteRun.result_eq {inputs inputs' : Inputs} (run : CompleteRun inputs)
    (h : ∀ pass : Pass, ∃ found, pass.Walks inputs' (pass.start run.left) inputs'.operations found (run.left pass)) :
    inputs'.analyze.result = .ok run.report := by
  choose found hWalks using h
  exact Inputs.analyze_eq_ok_iff.mpr ⟨⟨found, run.left, hWalks⟩, rfl⟩

namespace Inputs

variable {inputs : Inputs} {old new : Edge} {earlier later : List EditOperation} {report : Report}

/-- At the third pass a field counts as added exactly if the report lists its addition. -/
theorem fieldAdded_of_walks (run : CompleteRun inputs) {pass : Pass} (hPass : pass = .typeEdges)
    {operations : List EditOperation} {found : List Finding} {before : Ledgers}
    (h : pass.Walks inputs (pass.start run.left) operations found before) (c : Container) (field : Vertex) :
    before.fieldAdded c field.name = true ↔ run.report.AddsField c field := by
  have hNotFirst : pass ≠ .typeVertices := by simp [hPass]
  have hAlike := (h.alike hNotFirst).symm.trans (run.alike_final hNotFirst)
  rw [hAlike.fields hPass, run.fieldAdded_final_iff]

/-- A changed type edge and a deleted one with an inserted one behind it lead to the same report. -/
theorem analyze_of_takesPlace (h : inputs.TakesPlace old new)
    (hKept : KeepsTypeOf old.source (earlier ++ later)) :
    (∀ report, (inputs.withOperations (earlier ++ .changeEdge old new :: later)).analyze.result = .ok report →
      (∀ field c, inputs.Typed new.source field c → ¬ report.AddsField c field) →
      (inputs.withOperations (earlier ++ .deleteEdge old :: .insertEdge new :: later)).analyze.result = .ok report) ∧
    ∀ report,
      (inputs.withOperations (earlier ++ .deleteEdge old :: .insertEdge new :: later)).analyze.result = .ok report →
      (∀ field c, inputs.Typed new.source field c → ¬ report.AddsField c field) →
      (∀ e, .insertEdge e ∈ earlier ++ later → isTypeLabel e.label = true → e.source ≠ new.source) →
      (inputs.withOperations (earlier ++ .changeEdge old new :: later)).analyze.result = .ok report := by
  constructor
  · intro report hReport hNotAdded
    obtain ⟨run, rfl⟩ := analyze_eq_ok_iff.mp hReport
    refine run.result_eq fun pass => ?_
    have hWalks : pass.Walks _ _ (earlier ++ ([.changeEdge old new] ++ later)) _ _ := run.walks pass
    change ∃ found, pass.Walks _ _ (earlier ++ ([.deleteEdge old, .insertEdge new] ++ later)) found _
    refine hWalks.replace (fun op _ ledgers finding => h.judge_deleted hKept) ?_
    intro before middle first found hFirst hChanged
    refine (h.exists_walks_iff hKept ?_).mp ⟨found, hChanged⟩
    intro hPass field c hTyped
    rw [← Bool.not_eq_true, fieldAdded_of_walks run hPass hFirst]
    exact hNotAdded field c hTyped
  · intro report hReport hNotAdded hInserted
    obtain ⟨run, rfl⟩ := analyze_eq_ok_iff.mp hReport
    refine run.result_eq fun pass => ?_
    have hWalks : pass.Walks _ _ (earlier ++ ([.deleteEdge old, .insertEdge new] ++ later)) _ _ := run.walks pass
    change ∃ found, pass.Walks _ _ (earlier ++ ([.changeEdge old new] ++ later)) found _
    refine hWalks.replace (fun op hOp ledgers finding => h.judge_changed fun edge hEq => hInserted edge (hEq ▸ hOp)) ?_
    intro before middle first found hFirst hParted
    refine (h.exists_walks_iff hKept ?_).mpr ⟨found, hParted⟩
    intro hPass field c hTyped
    rw [← Bool.not_eq_true, fieldAdded_of_walks run hPass hFirst]
    exact hNotAdded field c hTyped

end Inputs

theorem Inputs.analyze_of_takesPlace_sample :
    Sample.inputs.TakesPlace Sample.oldLimitType Sample.newLimitType ∧
    ∃ earlier later, Sample.inputs.operations = earlier ++ .changeEdge Sample.oldLimitType Sample.newLimitType :: later ∧
      (Sample.inputs.withOperations (earlier ++ .changeEdge Sample.oldLimitType Sample.newLimitType :: later)).analyze.result
        = .ok Sample.report ∧
      (Sample.inputs.withOperations (earlier ++ .deleteEdge Sample.oldLimitType ::
        .insertEdge Sample.newLimitType :: later)).analyze.result = .ok Sample.report := by
  have hPlace : Sample.inputs.TakesPlace Sample.oldLimitType Sample.newLimitType :=
    ⟨by decide, by decide, .inr ⟨rfl, rfl⟩, rfl⟩
  have hKept : KeepsTypeOf Sample.oldLimit (Sample.inputs.operations.take 4 ++ Sample.inputs.operations.drop 5) := by
    have hOps : ∀ op ∈ Sample.inputs.operations.take 4 ++ Sample.inputs.operations.drop 5,
        op.removedTypeEdge?.map (·.source) ≠ some Sample.oldLimit := by decide +kernel
    intro e he hLabel hSource
    exact hOps _ he (by simp [EditOperation.removedTypeEdge?, hLabel, hSource])
  have hInserted : ∀ e, .insertEdge e ∈ Sample.inputs.operations.take 4 ++ Sample.inputs.operations.drop 5 →
      isTypeLabel e.label = true → e.source ≠ Sample.newLimit := by
    have hOps : ∀ op ∈ Sample.inputs.operations.take 4 ++ Sample.inputs.operations.drop 5,
        op.typeEdge?.map (·.source) ≠ some Sample.newLimit := by decide +kernel
    intro e he hLabel hSource
    exact hOps _ he (by simp [EditOperation.typeEdge?, hLabel, hSource])
  have hNotAdded : ∀ field c, Sample.inputs.Typed Sample.newLimit field c → ¬ Sample.report.AddsField c field := by
    rintro field c (⟨hKind, _⟩ | ⟨_, hOwner, hContainer⟩)
    · cases hKind
    · have hField : Sample.inputs.newGraph.argumentOwner Sample.newLimit = .ok (.field Sample.newField) := rfl
      cases hField.symm.trans hOwner
      have hObject : Sample.inputs.newGraph.containerOf Sample.newField = .ok ⟨Sample.newA, .object, rfl⟩ := rfl
      cases hObject.symm.trans hContainer
      rw [Report.AddsField]
      decide +kernel
  obtain ⟨hParted, hChanged⟩ := analyze_of_takesPlace hPlace hKept
  have hPair := hParted Sample.report Sample.analyze_eq hNotAdded
  exact ⟨hPlace, _, _, rfl, hChanged Sample.report hPair hNotAdded hInserted, hPair⟩

end SchemaChange
