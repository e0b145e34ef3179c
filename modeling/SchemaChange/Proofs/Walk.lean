import SchemaChange.Analysis.Run
import SchemaChange.Proofs.Ledger

/-! # Walks of a pass and complete runs

A walk that meets no failure has one finding for each operation, judged with what the ledgers hold at that moment and
then entered. A run is complete if all five passes walk to the end; exactly then the analysis gives a report.
-/
namespace SchemaChange

theorem bind_eq_ok_iff {ε α β : Type} {x : Except ε α} {f : α → Except ε β} {b : β} :
    (x >>= f) = .ok b ↔ ∃ a, x = .ok a ∧ f a = .ok b := by
  cases x with
  | error e => simp [bind, Except.bind]
  | ok a => simp [bind, Except.bind]

def Detail.recordedBy : Detail → Pass
  | member _ (.fieldAdded _) => .fieldVertices
  | member _ (.fieldRemoved _) => .fieldVertices
  | member _ (.fieldRenamed _ _) => .fieldVertices
  | member _ (.argumentRemoved _ _) => .fieldVertices
  | member _ (.fieldRetyped _ _ _) => .typeEdges
  | member _ (.argumentRetyped _ _ _ _) => .typeEdges
  | member _ (.defaultChanged _ _ _ _) => .typeEdges
  | member _ (.implementsAdded _) => .implementsEdges
  | member _ (.implementsRemoved _) => .implementsEdges
  | unionMemberAdded _ => .unionMembers
  | unionMemberRemoved _ => .unionMembers

theorem Detail.recordedBy_ne_typeVertices (detail : Detail) : detail.recordedBy ≠ .typeVertices := by
  cases detail with
  | member container change => cases change <;> simp [recordedBy]
  | unionMemberAdded | unionMemberRemoved => simp [recordedBy]

namespace Finding

def journal (kind : TypeKind) : Finding → Journal
  | details k name recorded => if k = kind then recorded.map (name, ·) else []
  | _ => []

/-- A finding that a pass may come to: only the first pass changes records, and the details that a later pass records,
at least one, belong to that pass and to the kind of type they are recorded for. -/
def Fits (pass : Pass) : Finding → Prop
  | change _ _ _ => pass = .typeVertices
  | details kind _ recorded => recorded ≠ [] ∧ ∀ detail ∈ recorded, detail.kind = kind ∧ detail.recordedBy = pass
  | _ => True

@[simp] theorem fits_nothing (pass : Pass) : nothing.Fits pass := trivial

@[simp] theorem fits_skipped (pass : Pass) (reason : SkipReason) : (skipped reason).Fits pass := trivial

theorem fits_members {pass : Pass} {c : Container} {name : String} {changes : List MemberChange}
    (h : ∀ change ∈ changes, (Detail.member c.kind change).recordedBy = pass) : (members c name changes).Fits pass := by
  cases changes with
  | nil => trivial
  | cons first rest =>
    refine ⟨by simp, fun detail hDetail => ?_⟩
    obtain ⟨change, hChange, rfl⟩ := List.mem_map.mp hDetail
    exact ⟨rfl, h change hChange⟩

theorem Fits.of_mem_journal {pass : Pass} {finding : Finding} (h : finding.Fits pass) {kind : TypeKind}
    {entry : String × Detail} (hEntry : entry ∈ finding.journal kind) :
    entry.2.kind = kind ∧ entry.2.recordedBy = pass := by
  cases finding with
  | details k name recorded =>
    simp only [journal] at hEntry
    split at hEntry
    · rename_i hKind
      obtain ⟨detail, hDetail, rfl⟩ := List.mem_map.mp hEntry
      exact hKind ▸ h.2 detail hDetail
    · exact absurd hEntry List.not_mem_nil
  | _ => exact absurd hEntry List.not_mem_nil

@[simp] theorem journal_nothing (kind : TypeKind) : nothing.journal kind = [] := rfl

@[simp] theorem journal_skipped (kind : TypeKind) (reason : SkipReason) : (skipped reason).journal kind = [] := rfl

@[simp] theorem journal_members (kind : TypeKind) (c : Container) (name : String) (changes : List MemberChange) :
    (members c name changes).journal kind =
      if c.kind.toTypeKind = kind then changes.map (fun change => (name, .member c.kind change)) else [] := by
  cases changes <;> simp [members, journal, Function.comp_def]

end Finding

namespace Ledgers

variable {ledgers after : Ledgers} {op : EditOperation} {finding : Finding}

@[simp] theorem get_empty (kind : TypeKind) : empty.get kind = Ledger.empty := by
  simp [empty]

theorem enter_change_eq_ok_iff {kind : TypeKind} {name : String} {change : Change} :
    ledgers.enter op (.change kind name change) = .ok after ↔
      ∃ h : (ledgers.get kind).change? name = none,
        after = ledgers.set kind ((ledgers.get kind).insert name change h) := by
  simp only [enter]
  split
  · rename_i ledger hSeed
    obtain ⟨hNone, rfl⟩ := Ledger.seed_eq_ok_iff.mp hSeed
    simp [hNone, eq_comm]
  · rename_i e hSeed
    obtain ⟨existing, hSome, _⟩ := (Ledger.seed_eq_error_iff e).mp hSeed
    simp [hSome]

theorem exists_enter_details_iff {kind : TypeKind} {name : String} {details : List Detail} :
    (∃ after, ledgers.enter op (.details kind name details) = .ok after) ↔ (ledgers.get kind).Open name := by
  have hAmend : (∃ ledger, (ledgers.get kind).amend name details = .ok ledger) ↔ (ledgers.get kind).Open name :=
    Ledger.exists_amend_iff
  rw [← hAmend]
  simp only [enter]
  split
  · rename_i ledger hAmend
    simp [hAmend]
  · rename_i e hAmend
    simp [hAmend]

/-- The ledgers take a finding: a change of a name without one, details of a name that is not added or removed. -/
def Takes (ledgers : Ledgers) : Finding → Prop
  | .change kind name _ => (ledgers.get kind).change? name = none
  | .details kind name _ => (ledgers.get kind).Open name
  | _ => True

theorem exists_enter_iff : (∃ after, ledgers.enter op finding = .ok after) ↔ ledgers.Takes finding := by
  cases finding with
  | change kind name change =>
    simp only [enter_change_eq_ok_iff, Takes]
    constructor
    · rintro ⟨_, hNone, _⟩
      exact hNone
    · intro hNone
      exact ⟨_, hNone, rfl⟩
  | details => exact exists_enter_details_iff
  | nothing | skipped => simp [enter, Takes]

/-- The operation at hand matters to a failure only. -/
theorem enter_eq_ok_of_enter (h : ledgers.enter op finding = .ok after) (op' : EditOperation) :
    ledgers.enter op' finding = .ok after := by
  cases finding with
  | nothing | skipped => exact h
  | change kind name change =>
    simp only [enter] at h ⊢
    split at h
    · exact h
    · cases h
  | details kind name details =>
    simp only [enter] at h ⊢
    split at h
    · exact h
    · cases h

/-- A finding of a later pass records its details and does nothing else. -/
theorem records_of_enter {pass : Pass} (h : ledgers.enter op finding = .ok after) (hPass : pass ≠ .typeVertices)
    (hFits : finding.Fits pass) (kind : TypeKind) :
    (ledgers.get kind).Records (finding.journal kind) (after.get kind) := by
  cases finding with
  | nothing =>
    cases h
    exact .refl _
  | skipped reason =>
    cases h
    exact .refl _
  | change => exact absurd hFits hPass
  | details k name details =>
    simp only [enter] at h
    split at h
    · rename_i ledger hAmend
      cases h
      by_cases hKind : kind = k
      · subst hKind
        simpa [Finding.journal] using Ledger.Records.of_amend hAmend hFits.1
      · simpa [Finding.journal, hKind, Ne.symm hKind] using Ledger.Records.refl (ledgers.get kind)
    · cases h

end Ledgers

namespace Pass

def findings (pass : Pass) (inputs : Inputs) : Ledgers → List EditOperation → List Finding
  | _, [] => []
  | ledgers, op :: rest =>
    match pass.step inputs ledgers op with
    | .error _ => []
    | .ok (finding, after) => finding :: pass.findings inputs after rest

/-- A pass that goes through all operations, with its findings and the ledgers before and after it. -/
inductive Walks (pass : Pass) (inputs : Inputs) : Ledgers → List EditOperation → List Finding → Ledgers → Prop
  | nil {ledgers : Ledgers} : Walks pass inputs ledgers [] [] ledgers
  | cons {before middle after : Ledgers} {op : EditOperation} {operations : List EditOperation} {finding : Finding}
    {found : List Finding} :
    pass.judge inputs before op = .ok finding → before.enter op finding = .ok middle →
    Walks pass inputs middle operations found after →
    Walks pass inputs before (op :: operations) (finding :: found) after

variable {pass : Pass} {inputs : Inputs} {ledgers before middle after : Ledgers} {op : EditOperation}
  {operations earlier later : List EditOperation} {finding : Finding} {found : List Finding}

theorem step_eq_ok_iff : pass.step inputs ledgers op = .ok (finding, after) ↔
    pass.judge inputs ledgers op = .ok finding ∧ ledgers.enter op finding = .ok after := by
  simp only [step, bind_eq_ok_iff]
  constructor
  · rintro ⟨found, hJudge, next, hEnter, hEq⟩
    cases hEq
    exact ⟨hJudge, hEnter⟩
  · rintro ⟨hJudge, hEnter⟩
    exact ⟨finding, hJudge, after, hEnter, rfl⟩

theorem walk_eq_ok_iff :
    (pass.walk inputs before operations).2 = .ok after ↔
      pass.Walks inputs before operations (pass.findings inputs before operations) after := by
  induction operations generalizing before with
  | nil =>
    constructor
    · intro h
      cases h
      exact .nil
    · intro h
      cases h
      rfl
  | cons op operations ih =>
    rw [walk, findings]
    cases hStep : pass.step inputs before op with
    | error failure =>
      constructor
      · intro h
        cases h
      · intro h
        cases h
    | ok entered =>
      obtain ⟨finding, middle⟩ := entered
      obtain ⟨hJudge, hEnter⟩ := step_eq_ok_iff.mp hStep
      constructor
      · intro h
        exact .cons hJudge hEnter (ih.mp h)
      · intro h
        cases h with
        | cons hJudge' hEnter' hRest =>
          rw [hEnter] at hEnter'
          cases hEnter'
          exact ih.mpr hRest

theorem Walks.findings_eq (h : pass.Walks inputs before operations found after) :
    pass.findings inputs before operations = found := by
  induction h with
  | nil => rfl
  | cons hJudge hEnter _ ih => simp only [Pass.findings, step_eq_ok_iff.mpr ⟨hJudge, hEnter⟩, ih]

theorem Walks.walk_eq (h : pass.Walks inputs before operations found after) :
    (pass.walk inputs before operations).2 = .ok after :=
  walk_eq_ok_iff.mpr (h.findings_eq ▸ h)

theorem walks_append_iff : pass.Walks inputs before (earlier ++ later) found after ↔
    ∃ first middle second, found = first ++ second ∧ pass.Walks inputs before earlier first middle ∧
      pass.Walks inputs middle later second after := by
  induction earlier generalizing before found with
  | nil =>
    constructor
    · intro h
      exact ⟨[], before, found, rfl, .nil, h⟩
    · rintro ⟨first, middle, second, rfl, hFirst, hSecond⟩
      cases hFirst
      exact hSecond
  | cons op earlier ih =>
    constructor
    · intro h
      cases h with
      | cons hJudge hEnter hRest =>
        obtain ⟨first, middle, second, rfl, hFirst, hSecond⟩ := ih.mp hRest
        exact ⟨_ :: first, middle, second, rfl, .cons hJudge hEnter hFirst, hSecond⟩
    · rintro ⟨first, middle, second, rfl, hFirst, hSecond⟩
      cases hFirst with
      | cons hJudge hEnter hRest => exact .cons hJudge hEnter (ih.mpr ⟨_, _, _, rfl, hRest, hSecond⟩)

/-- A walk is one of other inputs too if these have every operation judged alike. -/
theorem Walks.of_judge {inputs' : Inputs} (h : pass.Walks inputs before operations found after)
    (hJudge : ∀ op ∈ operations, ∀ ledgers finding, pass.judge inputs ledgers op = .ok finding →
      pass.judge inputs' ledgers op = .ok finding) : pass.Walks inputs' before operations found after := by
  induction h with
  | nil => exact .nil
  | cons hFinding hEnter _ ih =>
    obtain ⟨hOp, hRest⟩ := List.forall_mem_cons.mp hJudge
    exact .cons (hOp _ _ hFinding) hEnter (ih hRest)

/-- A pass goes through all operations if it can go on, and keeps an invariant, at each of them. -/
theorem exists_walks {Kept : Ledgers → Prop}
    (hStep : ∀ before, ∀ op ∈ operations, Kept before → ∃ finding after, pass.judge inputs before op = .ok finding ∧
      before.enter op finding = .ok after ∧ Kept after)
    (hBefore : Kept before) : ∃ found after, pass.Walks inputs before operations found after ∧ Kept after := by
  induction operations generalizing before with
  | nil => exact ⟨[], before, .nil, hBefore⟩
  | cons op operations ih =>
    obtain ⟨finding, middle, hJudge, hEnter, hMiddle⟩ := hStep before op List.mem_cons_self hBefore
    have hRest := fun before op hOp => hStep before op (List.mem_cons_of_mem _ hOp)
    obtain ⟨found, after, hWalks, hAfter⟩ := ih hRest hMiddle
    exact ⟨finding :: found, after, .cons hJudge hEnter hWalks, hAfter⟩

theorem Walks.records (hPass : pass ≠ .typeVertices)
    (hFits : ∀ ledgers op finding, pass.judge inputs ledgers op = .ok finding → finding.Fits pass)
    (h : pass.Walks inputs before operations found after) (kind : TypeKind) :
    (before.get kind).Records (found.flatMap (·.journal kind)) (after.get kind) := by
  induction h with
  | nil => exact .refl _
  | cons hJudge hEnter _ ih =>
    exact (Ledgers.records_of_enter hEnter hPass (hFits _ _ _ hJudge) kind).trans ih

/-- The findings of passes that run one after the other, up to the first failure. -/
def allFindings (inputs : Inputs) : Ledgers → List Pass → List Finding
  | _, [] => []
  | ledgers, pass :: rest =>
    pass.findings inputs ledgers inputs.operations ++
      match (pass.walk inputs ledgers inputs.operations).2 with
      | .error _ => []
      | .ok after => allFindings inputs after rest

theorem runAll_cons_eq_ok_iff {passes : List Pass} :
    (runAll inputs before (pass :: passes)).2 = .ok after ↔
      ∃ middle, pass.Walks inputs before inputs.operations (pass.findings inputs before inputs.operations) middle ∧
        (runAll inputs middle passes).2 = .ok after := by
  simp only [← walk_eq_ok_iff, runAll, run]
  cases hWalk : (pass.walk inputs before inputs.operations).2 with
  | error failure => simp
  | ok middle => simp

end Pass

def Pass.start (left : Pass → Ledgers) : Pass → Ledgers
  | typeVertices => Ledgers.empty
  | fieldVertices => left typeVertices
  | typeEdges => left fieldVertices
  | implementsEdges => left typeEdges
  | unionMembers => left implementsEdges

/-- A run in which every pass walks to the end: what each pass found, and the ledgers that it left. -/
structure CompleteRun (inputs : Inputs) where
  found : Pass → List Finding
  left : Pass → Ledgers
  walks : ∀ pass : Pass, pass.Walks inputs (pass.start left) inputs.operations (found pass) (left pass)

namespace CompleteRun

variable {inputs : Inputs}

def final (run : CompleteRun inputs) : Ledgers := run.left .unionMembers

def report (run : CompleteRun inputs) : Report := run.final.toReport

def journal (run : CompleteRun inputs) (pass : Pass) (kind : TypeKind) : Journal :=
  (run.found pass).flatMap (·.journal kind)

def ofWalks {f₁ f₂ f₃ f₄ f₅ : List Finding} {l₁ l₂ l₃ l₄ l₅ : Ledgers}
    (h₁ : Pass.typeVertices.Walks inputs Ledgers.empty inputs.operations f₁ l₁)
    (h₂ : Pass.fieldVertices.Walks inputs l₁ inputs.operations f₂ l₂)
    (h₃ : Pass.typeEdges.Walks inputs l₂ inputs.operations f₃ l₃)
    (h₄ : Pass.implementsEdges.Walks inputs l₃ inputs.operations f₄ l₄)
    (h₅ : Pass.unionMembers.Walks inputs l₄ inputs.operations f₅ l₅) : CompleteRun inputs where
  found
    | .typeVertices => f₁
    | .fieldVertices => f₂
    | .typeEdges => f₃
    | .implementsEdges => f₄
    | .unionMembers => f₅
  left
    | .typeVertices => l₁
    | .fieldVertices => l₂
    | .typeEdges => l₃
    | .implementsEdges => l₄
    | .unionMembers => l₅
  walks pass := by
    cases pass with
    | typeVertices => exact h₁
    | fieldVertices => exact h₂
    | typeEdges => exact h₃
    | implementsEdges => exact h₄
    | unionMembers => exact h₅

theorem findings_eq (run : CompleteRun inputs) (pass : Pass) :
    pass.findings inputs (pass.start run.left) inputs.operations = run.found pass :=
  (run.walks pass).findings_eq

theorem walks_findings (run : CompleteRun inputs) (pass : Pass) :
    pass.Walks inputs (pass.start run.left) inputs.operations
      (pass.findings inputs (pass.start run.left) inputs.operations) (run.left pass) := by
  rw [run.findings_eq]
  exact run.walks pass

theorem runAll_eq (run : CompleteRun inputs) : (Pass.runAll inputs Ledgers.empty Pass.all).2 = .ok run.final := by
  simp only [Pass.all, Pass.runAll_cons_eq_ok_iff]
  exact ⟨_, run.walks_findings .typeVertices, _, run.walks_findings .fieldVertices, _, run.walks_findings .typeEdges,
    _, run.walks_findings .implementsEdges, _, run.walks_findings .unionMembers, rfl⟩

end CompleteRun

/-- The analysis gives a report exactly if its run is complete, and then the report of that run. -/
theorem Inputs.analyze_eq_ok_iff {inputs : Inputs} {report : Report} :
    inputs.analyze.result = .ok report ↔ ∃ run : CompleteRun inputs, report = run.report := by
  constructor
  · intro h
    unfold analyze at h
    split at h
    · cases h
    · rename_i events ledgers hRun
      cases h
      have hOk : (Pass.runAll inputs Ledgers.empty Pass.all).2 = .ok ledgers := by rw [hRun]
      simp only [Pass.all, Pass.runAll_cons_eq_ok_iff] at hOk
      obtain ⟨l₁, h₁, l₂, h₂, l₃, h₃, l₄, h₄, l₅, h₅, hEnd⟩ := hOk
      cases hEnd
      exact ⟨.ofWalks h₁ h₂ h₃ h₄ h₅, rfl⟩
  · rintro ⟨run, rfl⟩
    have hRun := run.runAll_eq
    unfold analyze
    split
    · rename_i events failure hError
      rw [hError] at hRun
      cases hRun
    · rename_i events ledgers hOk
      rw [hOk] at hRun
      cases hRun
      rfl

theorem Inputs.analyze_eq_error_of_walk {inputs : Inputs} {failure : Failure}
    (h : (Pass.typeVertices.walk inputs Ledgers.empty inputs.operations).2 = .error failure) :
    inputs.analyze.result = .error failure := by
  have hRun : (Pass.runAll inputs Ledgers.empty Pass.all).2 = .error failure := by
    simp only [Pass.all, Pass.runAll, Pass.run, h]
  unfold analyze
  split
  · rename_i events failure' hError
    rw [hError] at hRun
    cases hRun
    rfl
  · rename_i events ledgers hOk
    rw [hOk] at hRun
    cases hRun

end SchemaChange
