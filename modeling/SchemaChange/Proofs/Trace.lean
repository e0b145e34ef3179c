import SchemaChange.Proofs.Recorded

/-! # Events of a run

The events of a run are those of its passes one after the other, each in brackets of a start and an ending. A run that
gives a report ends with the sizes of its records, a failing one in the middle of the pass that failed.
-/
namespace SchemaChange

/-- The skips that findings about the first of some operations log. -/
def skipsOf (operations : List EditOperation) (found : List Finding) : List Skip :=
  (operations.zip found).filterMap fun judged => judged.2.skip? judged.1

/-- The events of one pass: its start, what it skips, its ending. -/
def Pass.events (pass : Pass) (skips : List Skip) (ending : Event) : List Event :=
  .passStarted pass.title :: (skips.map (.skipped pass.title) ++ [ending])

def Inputs.eventsCompleted (inputs : Inputs) (found : Pass → List Finding) (pass : Pass) : List Event :=
  pass.events (skipsOf inputs.operations (found pass)) (.passCompleted pass.title)

def Inputs.eventsAborted (inputs : Inputs) (found : Pass → List Finding) (pass : Pass) (failure : Failure) : List Event :=
  pass.events (skipsOf inputs.operations (found pass))
    (.passAborted pass.title ⟨failure.message, "InternalConsistencyError"⟩)

/-- A pass fails at the operation in a place: the passes before it got to the end, and it went through the operations
before that place. -/
def Inputs.FailsAt (inputs : Inputs) (pass : Pass) (place : Nat) (failure : Failure) : Prop :=
  ∃ start ledgers op, (Pass.runAll inputs Ledgers.empty pass.earlier).2 = .ok start ∧
    (pass.walk inputs start (inputs.operations.take place)).2 = .ok ledgers ∧
    inputs.operations[place]? = some op ∧ pass.step inputs ledgers op = .error failure

/-- A pass logs a skip at the operation in a place: the passes before it got to the end, it went through the operations
before that place, and what it found about the operation is a skip. -/
def Inputs.SkipsAt (inputs : Inputs) (pass : Pass) (place : Nat) (skip : Skip) : Prop :=
  ∃ start ledgers op finding after, (Pass.runAll inputs Ledgers.empty pass.earlier).2 = .ok start ∧
    (pass.walk inputs start (inputs.operations.take place)).2 = .ok ledgers ∧
    inputs.operations[place]? = some op ∧ pass.step inputs ledgers op = .ok (finding, after) ∧
    finding.skip? op = some skip

/-- The runs of an analysis by what each pass found: all passes are completed and the sizes of the records follow, or one
pass is aborted behind its last finding and nothing follows. -/
inductive Inputs.Traced (inputs : Inputs) (found : Pass → List Finding) : Run → Prop
  | completed {report : Report} : Traced inputs found
    ⟨Pass.all.flatMap (inputs.eventsCompleted found) ++
      [.analysisCompleted inputs.operations.length (ByKind.ofFn fun kind => (report.get kind).length)], .ok report⟩
  | aborted {pass : Pass} {failure : Failure} : inputs.FailsAt pass (found pass).length failure →
    Traced inputs found
      ⟨pass.earlier.flatMap (inputs.eventsCompleted found) ++ inputs.eventsAborted found pass failure, .error failure⟩

theorem Inputs.flatMap_eventsCompleted_congr {inputs : Inputs} {found found' : Pass → List Finding} {passes : List Pass}
    (h : ∀ pass ∈ passes, found pass = found' pass) :
    passes.flatMap (inputs.eventsCompleted found) = passes.flatMap (inputs.eventsCompleted found') := by
  apply List.flatMap_congr
  intro pass hPass
  rw [eventsCompleted, eventsCompleted, h pass hPass]

theorem mem_skipsOf_iff {operations : List EditOperation} {found : List Finding} {skip : Skip} :
    skip ∈ skipsOf operations found ↔ ∃ (place : Nat) (op : EditOperation) (finding : Finding),
      operations[place]? = some op ∧ found[place]? = some finding ∧ finding.skip? op = some skip := by
  rw [skipsOf, List.mem_filterMap]
  simp only [List.mem_iff_getElem?, List.getElem?_zip_eq_some]
  constructor
  · rintro ⟨⟨op, finding⟩, ⟨place, hPlace, hFound⟩, hSkip⟩
    exact ⟨place, op, finding, hPlace, hFound, hSkip⟩
  · rintro ⟨place, op, finding, hPlace, hFound, hSkip⟩
    exact ⟨(op, finding), ⟨place, hPlace, hFound⟩, hSkip⟩

namespace Pass

variable {pass : Pass} {inputs : Inputs} {before after : Ledgers} {operations : List EditOperation} {found : List Finding}
  {failure : Failure} {passes : List Pass}

theorem walk_skips (pass : Pass) (inputs : Inputs) (before : Ledgers) (operations : List EditOperation) :
    (pass.walk inputs before operations).1 = skipsOf operations (pass.findings inputs before operations) := by
  induction operations generalizing before with
  | nil => rfl
  | cons op operations ih =>
    rw [walk, findings]
    cases hStep : pass.step inputs before op with
    | error failure => rfl
    | ok entered =>
      obtain ⟨finding, middle⟩ := entered
      simp only [ih, skipsOf, List.zip_cons_cons, List.filterMap_cons]
      cases finding.skip? op <;> rfl

/-- A walk that fails has a finding for each operation before the one at which it fails. -/
theorem exists_step_of_walk_eq_error (h : (pass.walk inputs before operations).2 = .error failure) :
    ∃ ledgers op, (pass.walk inputs before (operations.take (pass.findings inputs before operations).length)).2 =
        .ok ledgers ∧
      operations[(pass.findings inputs before operations).length]? = some op ∧
      pass.step inputs ledgers op = .error failure := by
  induction operations generalizing before with
  | nil => cases h
  | cons op operations ih =>
    rw [walk] at h
    rw [findings]
    cases hStep : pass.step inputs before op with
    | error stopped =>
      rw [hStep] at h
      cases h
      exact ⟨before, op, rfl, rfl, hStep⟩
    | ok entered =>
      obtain ⟨finding, middle⟩ := entered
      rw [hStep] at h
      obtain ⟨ledgers, failing, hWalk, hPlace, hFails⟩ := ih h
      refine ⟨ledgers, failing, ?_, hPlace, hFails⟩
      simp only [List.length_cons, List.take_succ_cons, walk, hStep]
      exact hWalk

/-- What a walk found in a place is the finding of its step there, which the operations before the place lead to. -/
theorem Walks.exists_step (h : pass.Walks inputs before operations found after) {place : Nat} {op : EditOperation}
    (hPlace : operations[place]? = some op) : ∃ ledgers finding next,
      (pass.walk inputs before (operations.take place)).2 = .ok ledgers ∧
      pass.step inputs ledgers op = .ok (finding, next) ∧ found[place]? = some finding := by
  induction h generalizing place with
  | nil => cases hPlace
  | @cons before middle _ _ _ finding _ hJudge hEnter _ ih =>
    have hStep := step_eq_ok_iff.mpr ⟨hJudge, hEnter⟩
    cases place with
    | zero =>
      cases hPlace
      exact ⟨before, finding, middle, rfl, hStep, rfl⟩
    | succ place =>
      obtain ⟨ledgers, finding, next, hWalk, hNext, hFound⟩ := ih hPlace
      refine ⟨ledgers, finding, next, ?_, hNext, hFound⟩
      simp only [List.take_succ_cons, walk, hStep]
      exact hWalk

theorem runAll_cons_of_walks (h : pass.Walks inputs before inputs.operations found after) :
    runAll inputs before (pass :: passes) =
      (pass.events (skipsOf inputs.operations found) (.passCompleted pass.title) ++ (runAll inputs after passes).1,
        (runAll inputs after passes).2) := by
  have hWalk : pass.walk inputs before inputs.operations = (skipsOf inputs.operations found, .ok after) := by
    rw [← h.findings_eq, ← walk_skips, ← h.walk_eq]
  simp [runAll, run, hWalk, fault?, PassLog.events, PassLog.ending, events]

theorem runAll_cons_of_error (h : (pass.walk inputs before inputs.operations).2 = .error failure) :
    runAll inputs before (pass :: passes) =
      (pass.events (skipsOf inputs.operations (pass.findings inputs before inputs.operations))
        (.passAborted pass.title ⟨failure.message, "InternalConsistencyError"⟩), .error failure) := by
  have hWalk : pass.walk inputs before inputs.operations =
      (skipsOf inputs.operations (pass.findings inputs before inputs.operations), .error failure) := by
    rw [← walk_skips, ← h]
  simp [runAll, run, hWalk, fault?, PassLog.events, PassLog.ending, events, Failure.type]

/-- Passes that end with a failure: one of them fails, and it is the last that logs events. -/
theorem exists_aborted (hNodup : passes.Nodup) (h : (runAll inputs before passes).2 = .error failure) :
    ∃ found earlier pass later start, passes = earlier ++ pass :: later ∧
      (runAll inputs before earlier).2 = .ok start ∧
      (pass.walk inputs start inputs.operations).2 = .error failure ∧
      found pass = pass.findings inputs start inputs.operations ∧
      (runAll inputs before passes).1 =
        earlier.flatMap (inputs.eventsCompleted found) ++ inputs.eventsAborted found pass failure := by
  induction passes generalizing before with
  | nil => cases h
  | cons pass passes ih =>
    obtain ⟨hPass, hRest⟩ := List.nodup_cons.mp hNodup
    cases hWalk : (pass.walk inputs before inputs.operations).2 with
    | error stopped =>
      rw [runAll_cons_of_error hWalk] at h ⊢
      cases h
      exact ⟨fun _ => pass.findings inputs before inputs.operations, [], pass, passes, before, rfl, rfl, hWalk, rfl, rfl⟩
    | ok middle =>
      have hWalks := walk_eq_ok_iff.mp hWalk
      rw [runAll_cons_of_walks hWalks] at h ⊢
      obtain ⟨found, earlier, failing, later, start, rfl, hStart, hFails, hFound, hEvents⟩ := ih hRest h
      -- The passes that follow find what they found; the pass in front is none of them.
      let updated := Function.update found pass (pass.findings inputs before inputs.operations)
      have hOther : ∀ other ∈ earlier ++ failing :: later, found other = updated other := by
        intro other hMem
        have hNe : other ≠ pass := ne_of_mem_of_not_mem hMem hPass
        exact (Function.update_of_ne hNe _ _).symm
      have hFailing : found failing = updated failing := hOther failing (by simp)
      have hEarlier : earlier.flatMap (inputs.eventsCompleted found) = earlier.flatMap (inputs.eventsCompleted updated) :=
        Inputs.flatMap_eventsCompleted_congr fun other hMem => hOther other (List.mem_append_left _ hMem)
      have hSelf : updated pass = pass.findings inputs before inputs.operations := Function.update_self _ _ _
      refine ⟨updated, pass :: earlier, failing, later, start, rfl, ?_, hFails, hFailing ▸ hFound, ?_⟩
      · rw [runAll_cons_of_walks hWalks]
        exact hStart
      · rw [hEvents, hEarlier, Inputs.eventsAborted, hFailing, List.flatMap_cons, List.append_assoc,
          Inputs.eventsCompleted, hSelf, Inputs.eventsAborted]

theorem nodup_all : all.Nodup := by decide

theorem earlier_eq_takeWhile (pass : Pass) : pass.earlier = all.takeWhile (· ≠ pass) := by
  cases pass <;> rfl

theorem eq_earlier {earlier later : List Pass} (h : all = earlier ++ pass :: later) : earlier = pass.earlier := by
  have hPass : ∀ other ∈ earlier, decide (other ≠ pass) = true := by
    intro other hOther
    have hNodup := List.nodup_middle.mp (h ▸ nodup_all)
    simpa using ne_of_mem_of_not_mem (List.mem_append_left later hOther) hNodup.notMem
  rw [earlier_eq_takeWhile, h, List.takeWhile_append_of_pos hPass]
  simp

end Pass

namespace CompleteRun

variable {inputs : Inputs} (run : CompleteRun inputs)

theorem runAll_all : Pass.runAll inputs Ledgers.empty Pass.all =
    (Pass.all.flatMap (inputs.eventsCompleted run.found), .ok run.final) := by
  have hTypes : Pass.typeVertices.Walks inputs Ledgers.empty _ _ _ := run.walks .typeVertices
  have hFields : Pass.fieldVertices.Walks inputs (run.left .typeVertices) _ _ _ := run.walks .fieldVertices
  have hEdges : Pass.typeEdges.Walks inputs (run.left .fieldVertices) _ _ _ := run.walks .typeEdges
  have hImplements : Pass.implementsEdges.Walks inputs (run.left .typeEdges) _ _ _ := run.walks .implementsEdges
  have hUnions : Pass.unionMembers.Walks inputs (run.left .implementsEdges) _ _ _ := run.walks .unionMembers
  rw [Pass.all, Pass.runAll_cons_of_walks hTypes, Pass.runAll_cons_of_walks hFields, Pass.runAll_cons_of_walks hEdges,
    Pass.runAll_cons_of_walks hImplements, Pass.runAll_cons_of_walks hUnions]
  rfl

theorem runAll_earlier (pass : Pass) :
    (Pass.runAll inputs Ledgers.empty pass.earlier).2 = .ok (pass.start run.left) := by
  cases pass with
  | typeVertices => rfl
  | fieldVertices =>
    simp only [Pass.earlier, Pass.runAll_cons_eq_ok_iff]
    exact ⟨_, run.walks_findings .typeVertices, rfl⟩
  | typeEdges =>
    simp only [Pass.earlier, Pass.runAll_cons_eq_ok_iff]
    exact ⟨_, run.walks_findings .typeVertices, _, run.walks_findings .fieldVertices, rfl⟩
  | implementsEdges =>
    simp only [Pass.earlier, Pass.runAll_cons_eq_ok_iff]
    exact ⟨_, run.walks_findings .typeVertices, _, run.walks_findings .fieldVertices, _, run.walks_findings .typeEdges,
      rfl⟩
  | unionMembers =>
    simp only [Pass.earlier, Pass.runAll_cons_eq_ok_iff]
    exact ⟨_, run.walks_findings .typeVertices, _, run.walks_findings .fieldVertices, _, run.walks_findings .typeEdges,
      _, run.walks_findings .implementsEdges, rfl⟩

/-- In a run that gets to the end a pass logs a skip in a place exactly if that is what it found there. -/
theorem skipsAt_iff {pass : Pass} {place : Nat} {skip : Skip} : inputs.SkipsAt pass place skip ↔
    ∃ op finding, inputs.operations[place]? = some op ∧ (run.found pass)[place]? = some finding ∧
      finding.skip? op = some skip := by
  constructor
  · rintro ⟨start, ledgers, op, finding, next, hStart, hWalk, hPlace, hStep, hSkip⟩
    obtain ⟨ledgers', finding', next', hWalk', hStep', hFound⟩ := (run.walks pass).exists_step hPlace
    cases (run.runAll_earlier pass).symm.trans hStart
    cases hWalk'.symm.trans hWalk
    cases hStep'.symm.trans hStep
    exact ⟨op, finding, hPlace, hFound, hSkip⟩
  · rintro ⟨op, finding, hPlace, hFound, hSkip⟩
    obtain ⟨ledgers, finding', next, hWalk, hStep, hFound'⟩ := (run.walks pass).exists_step hPlace
    cases hFound'.symm.trans hFound
    exact ⟨_, ledgers, op, finding, next, run.runAll_earlier pass, hWalk, hPlace, hStep, hSkip⟩

theorem sizes_final (kind : TypeKind) : (run.report.get kind).length = (run.final.get kind).size := by
  rw [report, Ledgers.get_toReport, Ledger.toRecords, List.length_map, Ledger.size]

theorem analyze_eq : inputs.analyze =
    ⟨Pass.all.flatMap (inputs.eventsCompleted run.found) ++ [.analysisCompleted inputs.operations.length
      (ByKind.ofFn fun kind => (run.report.get kind).length)], .ok run.report⟩ := by
  simp only [Inputs.analyze, run.runAll_all, run.sizes_final]
  rfl

include run in
/-- The skips in the log are those of the operations, each logged by a pass in its place. -/
theorem skipped_mem_events_iff {title : String} {skip : Skip} : .skipped title skip ∈ inputs.analyze.events ↔
    ∃ pass place, title = pass.title ∧ inputs.SkipsAt pass place skip := by
  have hPass : ∀ pass, .skipped title skip ∈ inputs.eventsCompleted run.found pass ↔
      title = pass.title ∧ ∃ place, inputs.SkipsAt pass place skip := by
    intro pass
    simp only [run.skipsAt_iff, ← mem_skipsOf_iff]
    simp [Inputs.eventsCompleted, Pass.events, eq_comm, and_comm]
  have hAll : ∀ pass, pass ∈ Pass.all := fun pass => by cases pass <;> decide
  simp [run.analyze_eq, hPass, hAll]

theorem traced : inputs.Traced run.found inputs.analyze := by
  rw [run.analyze_eq]
  exact .completed

end CompleteRun

/-- A failing analysis logs the events of its passes and nothing else. -/
theorem Inputs.analyze_eq_of_error {inputs : Inputs} {failure : Failure} (h : inputs.analyze.result = .error failure) :
    (Pass.runAll inputs Ledgers.empty Pass.all).2 = .error failure ∧
      inputs.analyze = ⟨(Pass.runAll inputs Ledgers.empty Pass.all).1, .error failure⟩ := by
  unfold analyze at h ⊢
  split at h
  · rename_i events stopped hRun
    cases h
    rw [hRun]
    exact ⟨rfl, rfl⟩
  · cases h

theorem Inputs.exists_traced_of_error {inputs : Inputs} {failure : Failure} (h : inputs.analyze.result = .error failure) :
    ∃ found, inputs.Traced found inputs.analyze := by
  obtain ⟨hError, hAnalyze⟩ := analyze_eq_of_error h
  obtain ⟨found, earlier, pass, later, start, hAll, hStart, hWalk, hFound, hEvents⟩ :=
    Pass.exists_aborted Pass.nodup_all hError
  obtain rfl := Pass.eq_earlier hAll
  obtain ⟨ledgers, op, hTaken, hPlace, hStep⟩ := Pass.exists_step_of_walk_eq_error hWalk
  rw [← hFound] at hTaken hPlace
  rw [hAnalyze, hEvents]
  exact ⟨found, .aborted ⟨start, ledgers, op, hStart, hTaken, hPlace, hStep⟩⟩

end SchemaChange
