import SchemaChange.Proofs.Seeding
import SchemaChange.Proofs.Stability

/-! # Reports, journals and moments of a run

The report of a complete run shows the final ledgers: the seeded records, and the details of the run's journal on top
of them. The same holds at every moment of a run past the first pass, whether or not the run gets to a report.
-/
namespace SchemaChange

namespace Report

def change? (report : Report) (kind : TypeKind) (name : String) : Option Change :=
  ((report.get kind).find? (·.1 = name)).map (·.2.change)

/-- The details that a report lists for a name of a kind; none unless it is reported as modified. -/
def details (report : Report) (kind : TypeKind) (name : String) : List Detail :=
  ((report.change? kind name).map (·.details)).getD []

end Report

namespace Ledgers

@[simp] theorem get_toReport (ledgers : Ledgers) (kind : TypeKind) :
    ledgers.toReport.get kind = (ledgers.get kind).toRecords kind := by
  simp [toReport]

@[simp] theorem change?_toReport (ledgers : Ledgers) (kind : TypeKind) (name : String) :
    ledgers.toReport.change? kind name = (ledgers.get kind).change? name := by
  simp [Report.change?, Ledger.change?, Ledger.toRecords, List.find?_map, Function.comp_def]

@[simp] theorem details_toReport (ledgers : Ledgers) (kind : TypeKind) (name : String) :
    ledgers.toReport.details kind name = (ledgers.get kind).details name := by
  rw [Report.details, change?_toReport]
  rfl

theorem keys_toReport (ledgers : Ledgers) (kind : TypeKind) :
    (ledgers.toReport.get kind).map Prod.fst = (ledgers.get kind).names := by
  simp [Ledger.toRecords, Ledger.names]

end Ledgers

/-- The details that an analysis records for types of a kind, in the order of recording. -/
def Inputs.journal (inputs : Inputs) (kind : TypeKind) : Journal :=
  (Pass.allFindings inputs Ledgers.empty Pass.all).flatMap (·.journal kind)

theorem Pass.allFindings_cons {pass : Pass} {inputs : Inputs} {before after : Ledgers} {found : List Finding}
    (h : pass.Walks inputs before inputs.operations found after) (passes : List Pass) :
    allFindings inputs before (pass :: passes) = found ++ allFindings inputs after passes := by
  rw [allFindings, h.findings_eq, h.walk_eq]

theorem change?_seeded_iff {inputs : Inputs} {seeded : Ledgers} {found : List Finding}
    (h : Pass.typeVertices.Walks inputs Ledgers.empty inputs.operations found seeded) {kind : TypeKind} {name : String}
    {change : Change} :
    (seeded.get kind).change? name = some change ↔ (name, change) ∈ seeds kind inputs.operations := by
  rw [Ledger.change?_eq_some_iff, entries_of_walks h]
  simp [Ledger.empty]

/-- The first pass seeds modifications without details. -/
theorem details_seeded {inputs : Inputs} {seeded : Ledgers} {found : List Finding}
    (h : Pass.typeVertices.Walks inputs Ledgers.empty inputs.operations found seeded) (kind : TypeKind) (name : String) :
    (seeded.get kind).details name = [] := by
  rw [Ledger.details]
  cases hChange : (seeded.get kind).change? name with
  | none => rfl
  | some change =>
    cases change with
    | modified details => exact (mem_seeds_modified_iff.mp ((change?_seeded_iff h).mp hChange)).1
    | added | removed => rfl

namespace CompleteRun

variable {inputs : Inputs} (run : CompleteRun inputs)

theorem allFindings_eq : Pass.allFindings inputs Ledgers.empty Pass.all = Pass.all.flatMap run.found := by
  have hTypes : Pass.typeVertices.Walks inputs Ledgers.empty _ _ _ := run.walks .typeVertices
  have hFields : Pass.fieldVertices.Walks inputs (run.left .typeVertices) _ _ _ := run.walks .fieldVertices
  have hEdges : Pass.typeEdges.Walks inputs (run.left .fieldVertices) _ _ _ := run.walks .typeEdges
  have hImplements : Pass.implementsEdges.Walks inputs (run.left .typeEdges) _ _ _ := run.walks .implementsEdges
  have hUnions : Pass.unionMembers.Walks inputs (run.left .implementsEdges) _ _ _ := run.walks .unionMembers
  rw [Pass.all, Pass.allFindings_cons hTypes, Pass.allFindings_cons hFields, Pass.allFindings_cons hEdges,
    Pass.allFindings_cons hImplements, Pass.allFindings_cons hUnions]
  rfl

theorem journal_typeVertices (kind : TypeKind) : run.journal .typeVertices kind = [] := by
  apply List.eq_nil_iff_forall_not_mem.mpr
  intro entry hEntry
  exact entry.2.recordedBy_ne_typeVertices (run.kind_and_pass_of_mem hEntry).2

theorem journal_eq (kind : TypeKind) :
    inputs.journal kind = Pass.fieldVertices.onward.flatMap (run.journal · kind) := by
  rw [Inputs.journal, run.allFindings_eq, List.flatMap_assoc]
  change (run.journal .typeVertices kind ++ _ : Journal) = _
  rw [run.journal_typeVertices]
  rfl

/-- The final records are the seeded ones with the details of the journal. -/
theorem records_journal (kind : TypeKind) :
    ((run.left .typeVertices).get kind).Records (inputs.journal kind) (run.final.get kind) := by
  rw [run.journal_eq]
  exact run.records_final .fieldVertices (by decide) kind

theorem change?_report (kind : TypeKind) (name : String) :
    run.report.change? kind name =
      Change.extend? (((run.left .typeVertices).get kind).change? name) ((inputs.journal kind).detailsOf name) := by
  rw [report, Ledgers.change?_toReport, (run.records_journal kind).change?_eq]

theorem details_report (kind : TypeKind) (name : String) :
    run.report.details kind name = (inputs.journal kind).detailsOf name := by
  have hSeeded : ((run.left .typeVertices).get kind).details name = [] :=
    details_seeded (run.walks .typeVertices) kind name
  rw [report, Ledgers.details_toReport, (run.records_journal kind).details_eq, hSeeded, List.nil_append]

end CompleteRun

/-- Going through some operations once gives a list: what each operation gives, if it gives anything, in their order. -/
inductive GivenInOrder {α : Type} (Gives : EditOperation → List α → Prop) : List EditOperation → List α → Prop
  | nil : GivenInOrder Gives [] []
  | gives {op : EditOperation} {operations : List EditOperation} {first rest : List α} :
    Gives op first → GivenInOrder Gives operations rest → GivenInOrder Gives (op :: operations) (first ++ rest)
  | silent {op : EditOperation} {operations : List EditOperation} {rest : List α} :
    (∀ first, ¬ Gives op first) → GivenInOrder Gives operations rest → GivenInOrder Gives (op :: operations) rest

theorem GivenInOrder.of_silent {α : Type} {Gives : EditOperation → List α → Prop} {operations : List EditOperation}
    (h : ∀ op first, ¬ Gives op first) : GivenInOrder Gives operations [] := by
  induction operations with
  | nil => exact .nil
  | cons op operations ih => exact .silent (h op) ih

theorem GivenInOrder.of_map_judge {α : Type} {Gives : EditOperation → List α → Prop} {view : Finding → List α}
    {judge : EditOperation → Except Failure Finding} {operations : List EditOperation} {found : List Finding}
    (hGives : ∀ op ∈ operations, ∀ finding, judge op = .ok finding →
      Gives op (view finding) ∨ ((∀ first, ¬ Gives op first) ∧ view finding = []))
    (h : operations.map judge = found.map .ok) : GivenInOrder Gives operations (found.flatMap view) := by
  induction operations generalizing found with
  | nil =>
    cases found with
    | nil => exact .nil
    | cons finding found => cases h
  | cons op operations ih =>
    cases found with
    | nil => cases h
    | cons finding found =>
      obtain ⟨hJudge, hRest⟩ := List.cons_eq_cons.mp h
      obtain ⟨hFirst, hOthers⟩ := List.forall_mem_cons.mp hGives
      rw [List.flatMap_cons]
      obtain hOp | ⟨hOp, hNil⟩ := hFirst finding hJudge
      · exact .gives hOp (ih hOthers hRest)
      · rw [hNil]
        exact .silent hOp (ih hOthers hRest)

/-- If an operation gives one list at most, then what is given in order is what some operation gives. -/
theorem GivenInOrder.mem_iff {α : Type} {Gives : EditOperation → List α → Prop} {operations : List EditOperation}
    {given : List α} (h : GivenInOrder Gives operations given)
    (hUnique : ∀ op first first', Gives op first → Gives op first' → first' = first) {x : α} :
    x ∈ given ↔ ∃ op ∈ operations, ∃ first, Gives op first ∧ x ∈ first := by
  induction h with
  | nil => simp
  | @gives op operations first rest hGives _ ih =>
    have hFirst : (∃ first, Gives op first ∧ x ∈ first) ↔ x ∈ first := by
      constructor
      · rintro ⟨first', hGives', hMem⟩
        rwa [← hUnique _ _ _ hGives hGives']
      · exact fun hMem => ⟨first, hGives, hMem⟩
    rw [List.mem_append, ih, List.exists_mem_cons_iff, hFirst]
  | @silent op operations rest hSilent _ ih =>
    rw [ih, List.exists_mem_cons_iff]
    constructor
    · exact .inr
    · rintro (⟨first, hGives, _⟩ | hRest)
      · exact absurd hGives (hSilent first)
      · exact hRest

/-- What an operation files under the name of a kind, by a relation that says which changes of which container's members
it gives, and under which name. -/
def Files (Gives : EditOperation → Container → String → List MemberChange → Prop) (kind : TypeKind) (name : String)
    (op : EditOperation) (details : List Detail) : Prop :=
  ∃ c changes, Gives op c name changes ∧ c.kind.toTypeKind = kind ∧ details = changes.map (.member c.kind)

/-- A finding about an operation is what the operation gives, or records nothing if the operation gives nothing. -/
def FindsGiven (Gives : EditOperation → Container → String → List MemberChange → Prop) (op : EditOperation)
    (finding : Finding) : Prop :=
  (∃ c name changes, Gives op c name changes ∧ finding = .members c name changes) ∨
  ((∀ c name changes, ¬ Gives op c name changes) ∧ ∀ kind, finding.journal kind = [])

theorem FindsGiven.files {Gives : EditOperation → Container → String → List MemberChange → Prop} {op : EditOperation}
    {finding : Finding} (h : FindsGiven Gives op finding)
    (hUnique : ∀ {c name changes c' name' changes'}, Gives op c name changes → Gives op c' name' changes' →
      c' = c ∧ name' = name ∧ changes' = changes) (kind : TypeKind) (name : String) :
    Files Gives kind name op ((finding.journal kind).detailsOf name) ∨
      ((∀ details, ¬ Files Gives kind name op details) ∧ (finding.journal kind).detailsOf name = []) := by
  obtain ⟨c, filed, changes, hGives, rfl⟩ | ⟨hNot, hJournal⟩ := h
  · have hJournal : ((Finding.members c filed changes).journal kind).detailsOf name =
        if c.kind.toTypeKind = kind ∧ filed = name then changes.map (.member c.kind) else [] := by
      rw [Finding.journal_members]
      by_cases hKind : c.kind.toTypeKind = kind
      · have hMap : changes.map (fun change => (filed, Detail.member c.kind change)) =
            (changes.map (.member c.kind)).map (filed, ·) := by rw [List.map_map]; rfl
        rw [if_pos hKind, hMap, Journal.detailsOf_map_mk]
        simp only [hKind, true_and]
      · simp [hKind]
    rw [hJournal]
    by_cases hHere : c.kind.toTypeKind = kind ∧ filed = name
    · rw [if_pos hHere]
      exact .inl ⟨c, changes, hHere.2 ▸ hGives, hHere.1, rfl⟩
    · refine .inr ⟨?_, if_neg hHere⟩
      rintro details ⟨c', changes', hGives', hKind, _⟩
      obtain ⟨rfl, rfl, _⟩ := hUnique hGives hGives'
      exact hHere ⟨hKind, rfl⟩
  · refine .inr ⟨?_, by rw [hJournal, Journal.detailsOf_nil]⟩
    rintro details ⟨c, changes, hGives, _⟩
    exact hNot _ _ _ hGives

theorem Journal.detailsOf_flatMap {α : Type} (xs : List α) (f : α → Journal) (name : String) :
    Journal.detailsOf (xs.flatMap f) name = xs.flatMap fun x => (f x).detailsOf name := by
  induction xs with
  | nil => rfl
  | cons x xs ih => rw [List.flatMap_cons, List.flatMap_cons, Journal.detailsOf_append, ih]

namespace CompleteRun

variable {inputs : Inputs} (run : CompleteRun inputs)

theorem givenInOrder {pass : Pass} (hPass : pass ≠ .typeVertices) {kind : TypeKind} {name : String}
    {Gives : EditOperation → List Detail → Prop}
    (hGives : ∀ op ∈ inputs.operations, ∀ finding, pass.judge inputs run.final op = .ok finding →
      Gives op ((finding.journal kind).detailsOf name) ∨
        ((∀ details, ¬ Gives op details) ∧ (finding.journal kind).detailsOf name = [])) :
    GivenInOrder Gives inputs.operations ((run.journal pass kind).detailsOf name) := by
  rw [journal, Journal.detailsOf_flatMap]
  exact .of_map_judge hGives (run.map_judge_eq hPass)

theorem exists_judge (pass : Pass) (hPass : pass ≠ .typeVertices) {op : EditOperation} (hOp : op ∈ inputs.operations) :
    ∃ finding, pass.judge inputs run.final op = .ok finding := by
  have hMem : pass.judge inputs run.final op ∈ (run.found pass).map .ok := by
    rw [← run.map_judge_eq hPass]
    exact List.mem_map_of_mem hOp
  obtain ⟨finding, _, hFinding⟩ := List.mem_map.mp hMem
  exact ⟨finding, hFinding.symm⟩

theorem exists_op_of_mem_found {pass : Pass} (hPass : pass ≠ .typeVertices) {finding : Finding}
    (h : finding ∈ run.found pass) : ∃ op ∈ inputs.operations, pass.judge inputs run.final op = .ok finding := by
  have hMem : (.ok finding : Except Failure Finding) ∈ inputs.operations.map (pass.judge inputs run.final) := by
    rw [run.map_judge_eq hPass]
    exact List.mem_map_of_mem h
  exact List.mem_map.mp hMem

theorem recordedBy_of_mem_detailsOf {pass : Pass} {kind : TypeKind} {name : String} {detail : Detail}
    (h : detail ∈ (run.journal pass kind).detailsOf name) : detail.recordedBy = pass :=
  (run.kind_and_pass_of_mem (Journal.mem_detailsOf_iff.mp h)).2

theorem filter_detailsOf_journal (pass other : Pass) (kind : TypeKind) (name : String) :
    ((run.journal other kind).detailsOf name).filter (·.recordedBy = pass) =
      if other = pass then (run.journal other kind).detailsOf name else [] := by
  split
  · rename_i hEq
    apply List.filter_eq_self.mpr
    intro detail hDetail
    simp [run.recordedBy_of_mem_detailsOf hDetail, hEq]
  · rename_i hNe
    apply List.filter_eq_nil_iff.mpr
    intro detail hDetail
    simp [run.recordedBy_of_mem_detailsOf hDetail, hNe]

theorem filter_detailsOf {pass : Pass} (hPass : pass ≠ .typeVertices) (kind : TypeKind) (name : String) :
    ((inputs.journal kind).detailsOf name).filter (·.recordedBy = pass) = (run.journal pass kind).detailsOf name := by
  -- Of the passes that the journal is made of, one alone has details of the pass.
  rw [run.journal_eq, Journal.detailsOf_flatMap, List.filter_flatMap]
  simp only [run.filter_detailsOf_journal]
  cases pass with
  | typeVertices => exact absurd rfl hPass
  | _ => simp [Pass.onward]

/-- If a pass finds about each operation what the operation gives, then the details of the pass in a record are those
that the operations file there, in their order. -/
theorem files_inOrder (pass : Pass) (hPass : pass ≠ .typeVertices)
    {Gives : EditOperation → Container → String → List MemberChange → Prop}
    (hGives : ∀ op finding, pass.judge inputs run.final op = .ok finding → FindsGiven Gives op finding)
    (hUnique : ∀ op c name changes c' name' changes', Gives op c name changes → Gives op c' name' changes' →
      c' = c ∧ name' = name ∧ changes' = changes) (kind : TypeKind) (name : String) :
    GivenInOrder (Files Gives kind name) inputs.operations
      ((run.report.details kind name).filter (·.recordedBy = pass)) := by
  rw [run.details_report, run.filter_detailsOf hPass]
  apply run.givenInOrder hPass
  intro op _ finding hJudge
  exact (hGives op finding hJudge).files (hUnique _ _ _ _ _ _ _) kind name

/-- If a pass finds about each operation what the operation gives, then the details of the pass in a record are the
changes that some operation gives to it. -/
theorem mem_details_iff (pass : Pass) (hPass : pass ≠ .typeVertices)
    {Gives : EditOperation → Container → String → List MemberChange → Prop}
    (hGives : ∀ op finding, pass.judge inputs run.final op = .ok finding → FindsGiven Gives op finding)
    (hUnique : ∀ op c name changes c' name' changes', Gives op c name changes → Gives op c' name' changes' →
      c' = c ∧ name' = name ∧ changes' = changes) {kind : TypeKind} {name : String} {detail : Detail} :
    (detail ∈ run.report.details kind name ∧ detail.recordedBy = pass) ↔
      ∃ op ∈ inputs.operations, ∃ c changes, Gives op c name changes ∧ c.kind.toTypeKind = kind ∧
        ∃ change ∈ changes, .member c.kind change = detail := by
  have hFiles : ∀ op details details', Files Gives kind name op details → Files Gives kind name op details' →
      details' = details := by
    rintro op _ _ ⟨c, changes, hOp, _, rfl⟩ ⟨c', changes', hOp', _, rfl⟩
    obtain ⟨rfl, _, rfl⟩ := hUnique _ _ _ _ _ _ _ hOp hOp'
    rfl
  have hMem := (run.files_inOrder pass hPass hGives hUnique kind name).mem_iff hFiles (x := detail)
  rw [List.mem_filter, decide_eq_true_iff] at hMem
  rw [hMem]
  refine exists_congr fun op => and_congr_right fun _ => ?_
  constructor
  · rintro ⟨_, ⟨c, changes, hOp, hKind, rfl⟩, hDetail⟩
    exact ⟨c, changes, hOp, hKind, List.mem_map.mp hDetail⟩
  · rintro ⟨c, changes, hOp, hKind, hDetail⟩
    exact ⟨_, ⟨c, changes, hOp, hKind, rfl⟩, List.mem_map.mpr hDetail⟩

/-- The details of the first passes stand before those of the passes that follow. -/
theorem details_split {earlier later : List Pass} (h : earlier ++ later = Pass.fieldVertices.onward) (kind : TypeKind)
    (name : String) : run.report.details kind name =
    (run.report.details kind name).filter (·.recordedBy ∈ earlier) ++
      (run.report.details kind name).filter (·.recordedBy ∈ later) := by
  have hDisjoint : earlier.Disjoint later := by
    apply List.disjoint_of_nodup_append
    rw [h]
    decide
  have hPass : ∀ passes : List Pass, ∀ detail ∈ passes.flatMap fun pass => (run.journal pass kind).detailsOf name,
      detail.recordedBy ∈ passes := by
    intro passes detail hDetail
    obtain ⟨pass, hPass, hMem⟩ := List.mem_flatMap.mp hDetail
    rwa [run.recordedBy_of_mem_detailsOf hMem]
  rw [run.details_report, run.journal_eq, Journal.detailsOf_flatMap, ← h, List.flatMap_append, List.filter_append,
    List.filter_append, List.filter_eq_self.mpr, List.filter_eq_nil_iff.mpr, List.filter_eq_nil_iff.mpr,
    List.filter_eq_self.mpr, List.append_nil, List.nil_append]
  · intro detail hDetail
    simpa using hPass later detail hDetail
  · intro detail hDetail
    simpa using fun hLater => hDisjoint (hPass earlier detail hDetail) hLater
  · intro detail hDetail
    simpa using fun hEarlier => hDisjoint hEarlier (hPass later detail hDetail)
  · intro detail hDetail
    simpa using hPass earlier detail hDetail

theorem details_fieldVertices_first (kind : TypeKind) (name : String) : run.report.details kind name =
    (run.report.details kind name).filter (·.recordedBy = .fieldVertices) ++
      (run.report.details kind name).filter (·.recordedBy ≠ .fieldVertices) := by
  have hLater : ∀ detail : Detail, detail.recordedBy ∈ [Pass.typeEdges, .implementsEdges, .unionMembers] ↔
      detail.recordedBy ≠ .fieldVertices := by
    intro detail
    have hTypes := detail.recordedBy_ne_typeVertices
    cases hPass : detail.recordedBy <;> simp_all
  have hOnward : [Pass.fieldVertices] ++ [.typeEdges, .implementsEdges, .unionMembers] = Pass.fieldVertices.onward := rfl
  have hSplit := run.details_split hOnward kind name
  simpa only [List.mem_singleton, hLater] using hSplit

end CompleteRun

def Pass.earlier : Pass → List Pass
  | typeVertices => []
  | fieldVertices => [typeVertices]
  | typeEdges => [typeVertices, fieldVertices]
  | implementsEdges => [typeVertices, fieldVertices, typeEdges]
  | unionMembers => [typeVertices, fieldVertices, typeEdges, implementsEdges]

/-- What an analysis holds at a moment of a pass: the earlier passes got to the end, and the pass has gone through some
of the operations, perhaps none or all. -/
def Inputs.Holds (inputs : Inputs) (pass : Pass) (ledgers : Ledgers) : Prop :=
  ∃ start past future, (Pass.runAll inputs Ledgers.empty pass.earlier).2 = .ok start ∧
    inputs.operations = past ++ future ∧ (pass.walk inputs start past).2 = .ok ledgers

theorem Pass.records_of_runAll {inputs : Inputs} {passes : List Pass} (hPasses : typeVertices ∉ passes)
    {before after : Ledgers} (h : (runAll inputs before passes).2 = .ok after) (kind : TypeKind) :
    ∃ journal, (before.get kind).Records journal (after.get kind) := by
  induction passes generalizing before with
  | nil =>
    cases h
    exact ⟨[], .refl _⟩
  | cons pass passes ih =>
    obtain ⟨hPass, hRest⟩ := not_or.mp (fun h => hPasses (List.mem_cons.mpr h))
    obtain ⟨middle, hWalks, hAfter⟩ := runAll_cons_eq_ok_iff.mp h
    obtain ⟨journal, hJournal⟩ := ih hRest hAfter
    exact ⟨_, (hWalks.records (Ne.symm hPass) (fun _ _ _ => fits_of_judge) kind).trans hJournal⟩

/-- At every moment past the first pass the ledgers are the seeded ones with some details recorded. -/
theorem Inputs.Holds.exists_records {inputs : Inputs} {pass : Pass} {ledgers : Ledgers} (h : inputs.Holds pass ledgers)
    (hPass : pass ≠ .typeVertices) :
    ∃ seeded, (∃ found, Pass.typeVertices.Walks inputs Ledgers.empty inputs.operations found seeded) ∧
      ∀ kind, ∃ journal, (seeded.get kind).Records journal (ledgers.get kind) := by
  obtain ⟨start, past, future, hStart, _, hWalk⟩ := h
  have hEarlier : pass.earlier = .typeVertices :: pass.earlier.tail ∧ .typeVertices ∉ pass.earlier.tail := by
    cases pass with
    | typeVertices => exact absurd rfl hPass
    | _ => exact ⟨rfl, by decide⟩
  rw [hEarlier.1] at hStart
  obtain ⟨seeded, hSeeded, hRest⟩ := Pass.runAll_cons_eq_ok_iff.mp hStart
  refine ⟨seeded, ⟨_, hSeeded⟩, fun kind => ?_⟩
  obtain ⟨journal, hJournal⟩ := Pass.records_of_runAll hEarlier.2 hRest kind
  have hPast := (Pass.walk_eq_ok_iff.mp hWalk).records hPass (fun _ _ _ => Pass.fits_of_judge) kind
  exact ⟨_, hJournal.trans hPast⟩

namespace Sample

def oldA : Vertex := ⟨0, "A", .type .object, "A"⟩
def oldB : Vertex := ⟨1, "B", .type .object, "B"⟩
def oldField : Vertex := ⟨2, "A.x", .field, "x"⟩
def oldLimit : Vertex := ⟨3, "A.x.limit", .argument, "limit"⟩
def oldOffset : Vertex := ⟨4, "A.x.offset", .argument, "offset"⟩
def deletedField : Vertex := ⟨5, "B.y", .field, "y"⟩
def oldInt : Vertex := ⟨6, "Int", .type .scalar, "Int"⟩
def oldString : Vertex := ⟨7, "String", .type .scalar, "String"⟩

def newA : Vertex := ⟨8, "A", .type .object, "B"⟩
def newB : Vertex := ⟨9, "B", .type .object, "A"⟩
def newField : Vertex := ⟨10, "A.x", .field, "w"⟩
def newLimit : Vertex := ⟨11, "A.x.limit", .argument, "limit"⟩
def insertedField : Vertex := ⟨12, "B.z", .field, "z"⟩
def newInt : Vertex := ⟨13, "Int", .type .scalar, "Int"⟩
def newString : Vertex := ⟨14, "String", .type .scalar, "String"⟩

def oldFieldType : Edge := ⟨0, oldField, oldInt, "type=Int;defaultValue="⟩
def oldLimitType : Edge := ⟨1, oldLimit, oldInt, "type=Int;defaultValue=1"⟩
def oldOffsetType : Edge := ⟨2, oldOffset, oldInt, "type=Int;defaultValue="⟩
def deletedFieldType : Edge := ⟨3, deletedField, oldInt, "type=Int;defaultValue="⟩
def oldHasOffset : Edge := ⟨4, oldField, oldOffset, ""⟩
def oldHasDeleted : Edge := ⟨5, oldB, deletedField, ""⟩

def newFieldType : Edge := ⟨6, newField, newString, "type=String;defaultValue="⟩
def newLimitType : Edge := ⟨7, newLimit, newInt, "type=Int;defaultValue=2"⟩
def insertedFieldType : Edge := ⟨8, insertedField, newInt, "type=Int;defaultValue="⟩
def newHasInserted : Edge := ⟨9, newB, insertedField, ""⟩

/-- Two objects swap their names. The field of the first is renamed and gets another type, one of its arguments another
default value, and the other argument goes; the second object has one field for another. -/
def inputs : Inputs where
  oldGraph := {
    vertices := [oldA, oldB, oldField, oldLimit, oldOffset, deletedField, oldInt, oldString]
    edges := [⟨10, oldA, oldField, ""⟩, ⟨11, oldField, oldLimit, ""⟩, oldHasOffset, oldHasDeleted, oldFieldType,
      oldLimitType, oldOffsetType, deletedFieldType]
    ids_nodup := by decide
    ends_nodup := by decide
    ends_mem := by decide }
  newGraph := {
    vertices := [newA, newB, newField, newLimit, insertedField, newInt, newString]
    edges := [⟨12, newA, newField, ""⟩, ⟨13, newField, newLimit, ""⟩, newHasInserted, newFieldType, newLimitType,
      insertedFieldType]
    ids_nodup := by decide
    ends_nodup := by decide
    ends_mem := by decide }
  matching := {
    pairs := [(oldA, newA), (oldB, newB), (oldField, newField), (oldLimit, newLimit), (oldInt, newInt),
      (oldString, newString)]
    sources_nodup := by decide
    targets_nodup := by decide }
  operations := [.insertEdge newFieldType, .changeVertex oldField newField, .insertEdge insertedFieldType,
    .deleteVertex oldOffset, .changeEdge oldLimitType newLimitType, .changeVertex oldB newB, .insertVertex insertedField,
    .deleteEdge oldFieldType, .deleteVertex deletedField, .changeVertex oldA newA, .deleteEdge oldOffsetType,
    .deleteEdge deletedFieldType, .deleteEdge oldHasOffset, .deleteEdge oldHasDeleted, .insertEdge newHasInserted]

def report : Report where
  object := [
    ("A", ⟨.object, "A", .modified [.member .object (.fieldAdded "z"), .member .object (.fieldRemoved "y")]⟩),
    ("B", ⟨.object, "B", .modified [.member .object (.fieldRenamed "x" "w"),
      .member .object (.argumentRemoved "w" "offset"), .member .object (.fieldRetyped "w" "Int" "String"),
      .member .object (.defaultChanged "w" "limit" (some "1") (some "2"))]⟩)]
  interface := []
  union := []
  enum := []
  inputObject := []
  scalar := []

theorem analyze_eq : inputs.analyze.result = .ok report := rfl

end Sample

namespace Sample.Scalars

def float : Vertex := ⟨0, "Float", .type .scalar, "Float"⟩
def date : Vertex := ⟨1, "Date", .type .scalar, "Date"⟩

/-- Two scalars come in, of which the first is built in. -/
def inputs : Inputs where
  oldGraph := .empty
  newGraph := {
    vertices := [float, date]
    edges := []
    ids_nodup := by decide
    ends_nodup := SchemaGraph.empty.ends_nodup
    ends_mem := nofun }
  matching := .empty
  operations := [.insertVertex float, .insertVertex date]

def report : Report where
  object := []
  interface := []
  union := []
  enum := []
  inputObject := []
  scalar := [("Date", ⟨.scalar, "Date", .added⟩)]

theorem analyze_eq : inputs.analyze.result = .ok report := rfl

end Sample.Scalars

end SchemaChange
