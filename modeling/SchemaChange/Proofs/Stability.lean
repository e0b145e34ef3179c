import SchemaChange.Proofs.Judgement

/-! # What the passes read does not change

Past the first pass only details are recorded. So every container stays added, removed or neither, and past the second
pass the added fields stay the same too. A later pass therefore judges each operation as it would judge it with the
ledgers at the end of the run.
-/
namespace SchemaChange

namespace Ledgers

/-- Two ledgers on which a pass comes to the same judgements: they agree on the names that are added or removed as a
whole and, where the pass asks for added fields, on these. -/
structure Alike (pass : Pass) (a b : Ledgers) : Prop where
  added : ∀ kind name, (a.get kind).change? name = some .added ↔ (b.get kind).change? name = some .added
  removed : ∀ kind name, (a.get kind).change? name = some .removed ↔ (b.get kind).change? name = some .removed
  fields : pass = .typeEdges → ∀ c field, a.fieldAdded c field = b.fieldAdded c field

namespace Alike

variable {pass : Pass} {a b c : Ledgers}

theorem refl (pass : Pass) (a : Ledgers) : Alike pass a a := ⟨fun _ _ => .rfl, fun _ _ => .rfl, fun _ _ _ => rfl⟩

theorem trans (h₁ : Alike pass a b) (h₂ : Alike pass b c) : Alike pass a c where
  added kind name := (h₁.added kind name).trans (h₂.added kind name)
  removed kind name := (h₁.removed kind name).trans (h₂.removed kind name)
  fields hPass d field := (h₁.fields hPass d field).trans (h₂.fields hPass d field)

theorem symm (h : Alike pass a b) : Alike pass b a where
  added kind name := (h.added kind name).symm
  removed kind name := (h.removed kind name).symm
  fields hPass d field := (h.fields hPass d field).symm

theorem containerAdded_eq (h : Alike pass a b) : a.containerAdded = b.containerAdded := by
  funext d
  rw [containerAdded, containerAdded, Bool.eq_iff_iff, Ledger.wasAdded_iff, Ledger.wasAdded_iff]
  exact h.added d.kind.toTypeKind d.name

theorem containerRemoved_eq (h : Alike pass a b) : a.containerRemoved = b.containerRemoved := by
  funext d
  rw [containerRemoved, containerRemoved, Bool.eq_iff_iff, Ledger.wasRemoved_iff, Ledger.wasRemoved_iff]
  exact h.removed d.kind.toTypeKind d.name

/-- Recording details changes nothing that a pass reads, unless the pass reads added fields and these are recorded. -/
theorem of_records {journal : TypeKind → Journal} (h : ∀ kind, (a.get kind).Records (journal kind) (b.get kind))
    (hFields : pass = .typeEdges → ∀ kind, ∀ entry ∈ journal kind, entry.2.recordedBy ≠ .fieldVertices) :
    Alike pass a b where
  added kind name := ((h kind).change?_eq_added_iff name).symm
  removed kind name := ((h kind).change?_eq_removed_iff name).symm
  fields hPass d field := by
    -- Only the second pass adds fields, so the question has the same answer before and after the journal.
    have hNew : Detail.member d.kind (.fieldAdded field) ∉ (journal d.kind.toTypeKind).detailsOf d.name := by
      rw [Journal.mem_detailsOf_iff]
      exact fun hMem => hFields hPass _ _ hMem rfl
    rw [fieldAdded, fieldAdded, (h d.kind.toTypeKind).details_eq, Bool.eq_iff_iff]
    simp only [List.contains_iff_mem, List.mem_append, hNew, or_false]

theorem takes_iff {finding : Finding} (h : Alike pass a b) (hPass : pass ≠ .typeVertices) (hFits : finding.Fits pass) :
    a.Takes finding ↔ b.Takes finding := by
  cases finding with
  | change => exact absurd hFits hPass
  | details kind name => exact and_congr (not_congr (h.added kind name)) (not_congr (h.removed kind name))
  | nothing | skipped => exact .rfl

end Alike

end Ledgers

namespace Pass

variable {pass : Pass} {inputs : Inputs} {before after ledgers : Ledgers}

theorem judge_congr (hPass : pass ≠ .typeVertices) (h : Ledgers.Alike pass before after) (op : EditOperation) :
    pass.judge inputs before op = pass.judge inputs after op := by
  have hAdded := h.containerAdded_eq
  have hRemoved := h.containerRemoved_eq
  cases pass with
  | typeVertices => exact absurd rfl hPass
  | fieldVertices =>
    cases op <;> simp only [judge, Inputs.judgeFieldVertex, Inputs.judgeFieldChanged, Inputs.judgeFieldAdded,
      Inputs.judgeFieldRemoved, Inputs.judgeArgumentRemoved, hAdded, hRemoved]
  | typeEdges =>
    have hFields : before.fieldAdded = after.fieldAdded := by
      funext c field
      exact h.fields rfl c field
    cases op <;> simp only [judge, Inputs.judgeTypeEdge, Inputs.judgeArgumentTypeInserted,
      Inputs.judgeFieldTypeInserted, Inputs.judgeFieldTypeChanged, Inputs.judgeArgumentTypeChanged, hAdded, hFields]
  | implementsEdges => cases op <;> simp only [judge, Inputs.judgeImplementsEdge, hAdded, hRemoved]
  | unionMembers =>
    have hUnionAdded : before.union.wasAdded = after.union.wasAdded := by
      funext name
      rw [Bool.eq_iff_iff, Ledger.wasAdded_iff, Ledger.wasAdded_iff]
      exact h.added .union name
    have hUnionRemoved : before.union.wasRemoved = after.union.wasRemoved := by
      funext name
      rw [Bool.eq_iff_iff, Ledger.wasRemoved_iff, Ledger.wasRemoved_iff]
      exact h.removed .union name
    cases op <;> simp only [judge, Inputs.judgeUnionMember, hUnionAdded, hUnionRemoved]

theorem alike_of_enter {op : EditOperation} {finding : Finding} (hPass : pass ≠ .typeVertices)
    (hJudge : pass.judge inputs before op = .ok finding) (hEnter : before.enter op finding = .ok after) :
    Ledgers.Alike pass before after := by
  have hFits := fits_of_judge hJudge
  refine .of_records (Ledgers.records_of_enter hEnter hPass hFits) ?_
  rintro rfl kind entry hEntry hRecorded
  rw [(hFits.of_mem_journal hEntry).2] at hRecorded
  cases hRecorded

theorem Walks.alike {operations : List EditOperation} {found : List Finding} (hPass : pass ≠ .typeVertices)
    (h : pass.Walks inputs before operations found after) : Ledgers.Alike pass before after := by
  induction h with
  | nil => exact .refl _ _
  | cons hJudge hEnter _ ih => exact (alike_of_enter hPass hJudge hEnter).trans ih

/-- All along a walk the judgements are those with any ledgers that are alike to the first ones. -/
theorem Walks.map_judge_eq {operations : List EditOperation} {found : List Finding} (hPass : pass ≠ .typeVertices)
    (h : pass.Walks inputs before operations found after) (hAlike : Ledgers.Alike pass before ledgers) :
    operations.map (pass.judge inputs ledgers) = found.map .ok := by
  induction h with
  | nil => rfl
  | cons hJudge hEnter _ ih =>
    rw [List.map_cons, List.map_cons, ← judge_congr hPass hAlike, hJudge,
      ih ((alike_of_enter hPass hJudge hEnter).symm.trans hAlike)]

theorem Walks.fits {operations : List EditOperation} {found : List Finding}
    (h : pass.Walks inputs before operations found after) : ∀ finding ∈ found, finding.Fits pass := by
  induction h with
  | nil => simp
  | cons hJudge _ _ ih => exact List.forall_mem_cons.mpr ⟨fits_of_judge hJudge, ih⟩

/-- A later pass gets to the end if the ledgers that it starts from take its finding about every operation. -/
theorem exists_walks_of_takes (pass : Pass) {start : Ledgers} {operations : List EditOperation} (hPass : pass ≠ .typeVertices)
    (h : ∀ op ∈ operations, ∃ finding, pass.judge inputs start op = .ok finding ∧ start.Takes finding) :
    ∃ found after, pass.Walks inputs start operations found after := by
  -- The ledgers stay alike to the first ones, and ledgers that are alike take the same findings.
  have hStep : ∀ before, ∀ op ∈ operations, Ledgers.Alike pass start before → ∃ finding after,
      pass.judge inputs before op = .ok finding ∧ before.enter op finding = .ok after ∧
        Ledgers.Alike pass start after := by
    intro before op hOp hAlike
    obtain ⟨finding, hJudge, hTakes⟩ := h op hOp
    rw [judge_congr hPass hAlike op] at hJudge
    obtain ⟨after, hEnter⟩ :=
      Ledgers.exists_enter_iff.mpr ((hAlike.takes_iff hPass (fits_of_judge hJudge)).mp hTakes)
    exact ⟨finding, after, hJudge, hEnter, hAlike.trans (alike_of_enter hPass hJudge hEnter)⟩
  obtain ⟨found, after, hWalks, _⟩ := exists_walks hStep (.refl pass start)
  exact ⟨found, after, hWalks⟩

def onward : Pass → List Pass
  | typeVertices => all
  | fieldVertices => [fieldVertices, typeEdges, implementsEdges, unionMembers]
  | typeEdges => [typeEdges, implementsEdges, unionMembers]
  | implementsEdges => [implementsEdges, unionMembers]
  | unionMembers => [unionMembers]

end Pass

namespace CompleteRun

variable {inputs : Inputs} (run : CompleteRun inputs)

theorem kind_and_pass_of_mem {pass : Pass} {kind : TypeKind} {entry : String × Detail}
    (h : entry ∈ run.journal pass kind) : entry.2.kind = kind ∧ entry.2.recordedBy = pass := by
  obtain ⟨finding, hFinding, hEntry⟩ := List.mem_flatMap.mp h
  exact ((run.walks pass).fits finding hFinding).of_mem_journal hEntry

theorem records_left (pass : Pass) (hPass : pass ≠ .typeVertices) (kind : TypeKind) :
    ((pass.start run.left).get kind).Records (run.journal pass kind) ((run.left pass).get kind) :=
  (run.walks pass).records hPass (fun _ _ _ => Pass.fits_of_judge) kind

/-- From a later pass on, the details of the passes to come are all that is recorded. -/
theorem records_final (pass : Pass) (hPass : pass ≠ .typeVertices) (kind : TypeKind) :
    ((pass.start run.left).get kind).Records (pass.onward.flatMap (run.journal · kind)) (run.final.get kind) := by
  have hUnion := run.records_left .unionMembers (by decide) kind
  have hImplements := (run.records_left .implementsEdges (by decide) kind).trans hUnion
  have hEdges := (run.records_left .typeEdges (by decide) kind).trans hImplements
  have hFields := (run.records_left .fieldVertices (by decide) kind).trans hEdges
  cases pass with
  | typeVertices => exact absurd rfl hPass
  | fieldVertices => simpa [Pass.onward, final] using hFields
  | typeEdges => simpa [Pass.onward, final] using hEdges
  | implementsEdges => simpa [Pass.onward, final] using hImplements
  | unionMembers => simpa [Pass.onward, final] using hUnion

/-- The ledgers at the end of the run are alike to those at the start of any later pass. -/
theorem alike_final {pass : Pass} (hPass : pass ≠ .typeVertices) :
    Ledgers.Alike pass (pass.start run.left) run.final := by
  refine .of_records (run.records_final pass hPass) ?_
  rintro rfl kind entry hEntry hRecorded
  obtain ⟨later, hLater, hMem⟩ := List.mem_flatMap.mp hEntry
  rw [(run.kind_and_pass_of_mem hMem).2] at hRecorded
  subst hRecorded
  exact absurd hLater (by decide)

/-- A later pass judges each operation as the ledgers at the end of the run would have it. -/
theorem map_judge_eq {pass : Pass} (hPass : pass ≠ .typeVertices) :
    inputs.operations.map (pass.judge inputs run.final) = (run.found pass).map .ok :=
  (run.walks pass).map_judge_eq hPass (run.alike_final hPass)

end CompleteRun

end SchemaChange
