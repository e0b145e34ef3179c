import SchemaChange.Proofs.Accounts
import SchemaChange.Proofs.ReplacedTypeEdge

/-! # Skipped operations are inert

An operation that a pass skips is nothing to the other passes. It may be the removal of a type edge, but then of one that
leaves a union, which no field or argument is matched with. So a run without the operation holds, pass by pass, the same
ledgers before and after, and gives the same report.
-/
namespace SchemaChange

/-- A finding that leaves the ledgers as they are. -/
def Finding.IsIdle : Finding → Prop
  | nothing => True
  | skipped _ => True
  | _ => False

theorem Finding.eq_skipped_of_skip? {op : EditOperation} {finding : Finding} {skip : Skip}
    (h : finding.skip? op = some skip) : ∃ reason, finding = .skipped reason := by
  cases finding with
  | skipped reason => exact ⟨reason, rfl⟩
  | nothing | change | details => cases h

theorem Ledgers.eq_of_enter_idle {ledgers after : Ledgers} {op : EditOperation} {finding : Finding}
    (hIdle : finding.IsIdle) (h : ledgers.enter op finding = .ok after) : after = ledgers := by
  cases finding with
  | nothing | skipped =>
    cases h
    rfl
  | change | details => exact hIdle.elim

namespace Inputs

variable {inputs : Inputs} {ledgers : Ledgers} {op other : EditOperation} {finding : Finding} {pass : Pass}
  {earlier later : List EditOperation}

/-- An operation of a pass that removes a type edge removes one that leaves a union. -/
theorem source_kind_of_removedTypeEdge? {edge : Edge} (hTurn : op.turn? = some pass)
    (hRemoved : op.removedTypeEdge? = some edge) : edge.source.kind = .type .union := by
  cases op with
  | deleteEdge removed =>
    obtain ⟨hLabel, hEq⟩ := Option.ite_none_right_eq_some.mp hRemoved
    cases hEq
    by_contra hKind
    simp [EditOperation.turn?, isImplementsLabel_eq_false hLabel, hKind] at hTurn
  | insertVertex | deleteVertex | changeVertex | insertEdge | changeEdge => cases hRemoved

/-- If the matching pairs vertices of equal kind, then no operation is read against one of a pass's own. -/
theorem judge_erased (hKinds : ∀ pair ∈ inputs.matching.pairs, pair.1.kind = pair.2.kind)
    (hTurn : op.turn? = some pass) (judging : Pass)
    (h : judging.judge (inputs.withOperations (earlier ++ op :: later)) ledgers other = .ok finding) :
    judging.judge (inputs.withOperations (earlier ++ later)) ledgers other = .ok finding := by
  refine judge_of_paired ?_ h
  -- An edge is paired with one that leaves a field or an argument, for so does the edge itself.
  intro edge v removed _ _ hKind hSource hRemoved
  have hSame : v.kind = edge.source.kind := hKinds _ (Matching.source?_eq_some_iff.mp hSource)
  rw [← hRemoved, removedTypeEdge?_append_cons]
  rintro erased hErased rfl
  have hUnion := source_kind_of_removedTypeEdge? hTurn hErased
  rw [hSame] at hUnion
  rcases hKind with hField | hArgument
  · cases hField.symm.trans hUnion
  · cases hArgument.symm.trans hUnion

end Inputs

namespace CompleteRun

variable {inputs : Inputs} (run : CompleteRun inputs) {place : Nat} {op : EditOperation} {pass : Pass} {skip : Skip}
  {earlier later : List EditOperation}

include run in
/-- It is the turn of the pass that skips an operation. -/
theorem turn?_of_skipsAt (h : inputs.SkipsAt pass place skip) (hPlace : inputs.operations[place]? = some op) :
    op.turn? = some pass := by
  obtain ⟨_, _, _, hImplements⟩ := (run.walks .implementsEdges).exists_judge hPlace
  obtain ⟨_, ledgers, _, finding, _, _, _, hPlace', hStep, hSkip⟩ := h
  cases hPlace'.symm.trans hPlace
  by_contra hNot
  have hJudge := (Pass.step_eq_ok_iff.mp hStep).1
  rw [Inputs.judge_eq_nothing hNot hImplements] at hJudge
  cases hJudge
  cases hSkip

/-- Neither the pass that skips an operation nor any other finds something about it, where it stands, that is entered. -/
theorem isIdle_of_skipsAt (h : inputs.SkipsAt pass earlier.length skip)
    (hOperations : inputs.operations = earlier ++ op :: later) {walking : Pass} {first : List Finding} {before : Ledgers}
    {finding : Finding} (hFirst : walking.Walks inputs (walking.start run.left) earlier first before)
    (hJudge : walking.judge inputs before op = .ok finding) : finding.IsIdle := by
  have hPlace : inputs.operations[earlier.length]? = some op := by simp [hOperations]
  by_cases hWalking : walking = pass
  · subst hWalking
    obtain ⟨_, _, _, found, _, hStart, hWalk, hPlace', hStep, hSkip⟩ := h
    cases hPlace'.symm.trans hPlace
    cases (run.runAll_earlier walking).symm.trans hStart
    -- The pass comes to the operation with the ledgers with which it skipped it.
    have hTake : inputs.operations.take earlier.length = earlier := by simp [hOperations]
    rw [hTake, hFirst.walk_eq] at hWalk
    cases hWalk
    cases hJudge.symm.trans (Pass.step_eq_ok_iff.mp hStep).1
    obtain ⟨reason, rfl⟩ := Finding.eq_skipped_of_skip? hSkip
    trivial
  · have hNot : op.turn? ≠ some walking := by
      rw [run.turn?_of_skipsAt h hPlace]
      exact fun hSame => hWalking (Option.some.inj hSame).symm
    obtain ⟨_, _, _, hImplements⟩ := (run.walks .implementsEdges).exists_judge hPlace
    rw [Inputs.judge_eq_nothing hNot hImplements] at hJudge
    cases hJudge
    trivial

/-- Without an operation that is skipped a run gives the same report, if the matching pairs vertices of equal kind. -/
theorem result_of_skipsAt (hKinds : ∀ pair ∈ inputs.matching.pairs, pair.1.kind = pair.2.kind)
    (h : inputs.SkipsAt pass earlier.length skip) (hOperations : inputs.operations = earlier ++ op :: later) :
    (inputs.withOperations (earlier ++ later)).analyze.result = .ok run.report := by
  have hTurn : op.turn? = some pass := run.turn?_of_skipsAt h (by simp [hOperations])
  refine run.result_eq fun walking => ?_
  have hWalks := run.walks walking
  rw [hOperations, ← List.singleton_append] at hWalks
  change ∃ found, walking.Walks _ _ (earlier ++ ([] ++ later)) found _
  refine hWalks.replace ?_ ?_
  · intro other _ ledgers finding hJudge
    change walking.judge (inputs.withOperations inputs.operations) ledgers other = _ at hJudge
    rw [hOperations] at hJudge
    exact Inputs.judge_erased hKinds hTurn walking hJudge
  · intro before _ first _ hFirst hSkipped
    cases hSkipped with
    | cons hJudge hEnter hRest =>
      cases hRest
      cases Ledgers.eq_of_enter_idle (run.isIdle_of_skipsAt h hOperations hFirst hJudge) hEnter
      exact ⟨[], .nil⟩

end CompleteRun

/-- The log's skips are those of operations in their places, and without an operation that was skipped the analysis gives
the same report. -/
theorem Inputs.analyze_eraseIdx_of_skipsAt {inputs : Inputs} {report : Report}
    (h : inputs.analyze.result = .ok report) (hKinds : ∀ pair ∈ inputs.matching.pairs, pair.1.kind = pair.2.kind) :
    (∀ title skip, .skipped title skip ∈ inputs.analyze.events ↔
      ∃ pass place, title = pass.title ∧ inputs.SkipsAt pass place skip) ∧
    ∀ pass place skip, inputs.SkipsAt pass place skip →
      (inputs.withOperations (inputs.operations.eraseIdx place)).analyze.result = .ok report := by
  obtain ⟨run, rfl⟩ := analyze_eq_ok_iff.mp h
  refine ⟨fun _ _ => run.skipped_mem_events_iff, fun pass place skip hSkips => ?_⟩
  obtain ⟨op, _, hPlace, _⟩ := run.skipsAt_iff.mp hSkips
  obtain ⟨hLess, rfl⟩ := List.getElem?_eq_some_iff.mp hPlace
  have hLength : (inputs.operations.take place).length = place := by simp [Nat.le_of_lt hLess]
  have hOperations := List.take_append_drop place inputs.operations
  rw [List.drop_eq_getElem_cons hLess] at hOperations
  rw [List.eraseIdx_eq_take_drop_succ]
  exact run.result_of_skipsAt hKinds (hLength.symm ▸ hSkips) hOperations.symm

theorem Inputs.analyze_eraseIdx_of_skipsAt_sample :
    Sample.inputs.SkipsAt .typeEdges 2 (SkipReason.toSkip (.fieldAdded "z") (.insertEdge Sample.insertedFieldType)) ∧
    .skipped "type_edges" (SkipReason.toSkip (.fieldAdded "z") (.insertEdge Sample.insertedFieldType)) ∈
      Sample.inputs.analyze.events ∧
    (Sample.inputs.withOperations (Sample.inputs.operations.eraseIdx 2)).analyze.result = .ok Sample.report := by
  have hSkips : Sample.inputs.SkipsAt .typeEdges 2
      (SkipReason.toSkip (.fieldAdded "z") (.insertEdge Sample.insertedFieldType)) :=
    ⟨_, _, _, _, _, rfl, rfl, rfl, rfl, rfl⟩
  obtain ⟨hLog, hErase⟩ := analyze_eraseIdx_of_skipsAt Sample.analyze_eq (by decide)
  exact ⟨hSkips, (hLog _ _).mpr ⟨_, _, rfl, hSkips⟩, hErase _ _ _ hSkips⟩

end SchemaChange
