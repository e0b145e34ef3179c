import SchemaChange.Proofs.Recorded

/-! # How types are classified

A report says of a type that it was added, removed or modified exactly as the operations on type vertices and the
journal have it. Its keys are the seeded names in the order of their operations, then the names that only details
brought in, in the order of their first detail.
-/
namespace SchemaChange

def InsertsType (operations : List EditOperation) (kind : TypeKind) (name : String) : Prop :=
  ∃ v, .insertVertex v ∈ operations ∧ v.kind = .type kind ∧ v.name = name ∧
    ¬ (kind = .scalar ∧ isBuiltInScalar name = true)

def DeletesType (operations : List EditOperation) (kind : TypeKind) (name : String) : Prop :=
  ∃ v, .deleteVertex v ∈ operations ∧ v.kind = .type kind ∧ v.name = name

def ChangesType (operations : List EditOperation) (kind : TypeKind) (name : String) : Prop :=
  ∃ source target, .changeVertex source target ∈ operations ∧ target.kind = .type kind ∧ target.name = name

/-- The records of a kind are those that the operations and the journal of an analysis call for. -/
structure Report.Classifies (report : Report) (inputs : Inputs) (kind : TypeKind) : Prop where
  added_iff : ∀ name, report.change? kind name = some .added ↔ InsertsType inputs.operations kind name
  removed_iff : ∀ name, report.change? kind name = some .removed ↔ DeletesType inputs.operations kind name
  modified_iff : ∀ name, (∃ details, report.change? kind name = some (.modified details)) ↔
    ¬ InsertsType inputs.operations kind name ∧ ¬ DeletesType inputs.operations kind name ∧
      (ChangesType inputs.operations kind name ∨ ∃ detail, (name, detail) ∈ inputs.journal kind)
  modified_nil_iff : ∀ name, report.change? kind name = some (.modified []) ↔
    ChangesType inputs.operations kind name ∧ ∀ detail, (name, detail) ∉ inputs.journal kind
  details_eq : ∀ name, report.details kind name = (inputs.journal kind).detailsOf name
  /-- The seeded names come first, then the other names of the journal. -/
  keys_eq : (report.get kind).map Prod.fst = seedNames kind inputs.operations ++
    (((inputs.journal kind).map Prod.fst).filter (!(seedNames kind inputs.operations).contains ·)).eraseDups
  named : ∀ entry ∈ report.get kind, entry.2.kind = kind ∧ entry.2.name = entry.1
  /-- At no moment past the first pass is a seeded record removed, moved or of another class. -/
  seeds_kept : ∀ pass ledgers, pass ≠ .typeVertices → inputs.Holds pass ledgers →
    (∃ created, (ledgers.get kind).names = seedNames kind inputs.operations ++ created) ∧
    ∀ seed ∈ seeds kind inputs.operations, ∃ more, (ledgers.get kind).change? seed.1 = some (seed.2.extend more)
  /-- At no moment past the first pass has a record without details come from anything but a changed vertex. -/
  nil_of_changes : ∀ pass ledgers, pass ≠ .typeVertices → inputs.Holds pass ledgers →
    ∀ name, (ledgers.get kind).change? name = some (.modified []) → ChangesType inputs.operations kind name

section

variable {inputs : Inputs} {kind : TypeKind} {name : String}

theorem seeds_kept_of_holds {pass : Pass} {ledgers : Ledgers} (hPass : pass ≠ .typeVertices)
    (h : inputs.Holds pass ledgers) (kind : TypeKind) :
    (∃ created, (ledgers.get kind).names = seedNames kind inputs.operations ++ created) ∧
    ∀ seed ∈ seeds kind inputs.operations, ∃ more, (ledgers.get kind).change? seed.1 = some (seed.2.extend more) := by
  obtain ⟨seeded, ⟨found, hSeeded⟩, hRecords⟩ := h.exists_records hPass
  obtain ⟨journal, hJournal⟩ := hRecords kind
  have hNames : (seeded.get kind).names = seedNames kind inputs.operations := by
    rw [Ledger.names, entries_of_walks hSeeded]
    simp [Ledger.empty, seedNames]
  constructor
  · rw [hJournal.names_eq, eraseDups_append_of_nodup (Ledger.nodup_names _), hNames]
    exact ⟨_, rfl⟩
  · intro seed hSeed
    have hChange := (change?_seeded_iff hSeeded).mpr hSeed
    exact ⟨journal.detailsOf seed.1, by rw [hJournal.change?_eq, hChange]; rfl⟩

theorem changesType_of_holds {pass : Pass} {ledgers : Ledgers} (hPass : pass ≠ .typeVertices)
    (h : inputs.Holds pass ledgers) (hChange : (ledgers.get kind).change? name = some (.modified [])) :
    ChangesType inputs.operations kind name := by
  obtain ⟨seeded, ⟨found, hSeeded⟩, hRecords⟩ := h.exists_records hPass
  obtain ⟨journal, hJournal⟩ := hRecords kind
  rw [hJournal.change?_eq] at hChange
  cases hEarlier : (seeded.get kind).change? name with
  | none =>
    rw [hEarlier] at hChange
    cases hDetails : journal.detailsOf name <;> simp [hDetails, Change.extend?] at hChange
  | some change =>
    have hSeed := (change?_seeded_iff hSeeded).mp hEarlier
    cases change with
    | added => simp [hEarlier, Change.extend?, Change.extend] at hChange
    | removed => simp [hEarlier, Change.extend?, Change.extend] at hChange
    | modified details => exact (mem_seeds_modified_iff.mp hSeed).2

namespace CompleteRun

variable (run : CompleteRun inputs)

theorem seeded_cases (kind : TypeKind) (name : String) :
    (((run.left .typeVertices).get kind).change? name = some .added ∧ InsertsType inputs.operations kind name) ∨
    (((run.left .typeVertices).get kind).change? name = some .removed ∧ DeletesType inputs.operations kind name) ∨
    (((run.left .typeVertices).get kind).change? name = some (.modified []) ∧
      ChangesType inputs.operations kind name) ∨
    ((run.left .typeVertices).get kind).change? name = none := by
  cases hChange : ((run.left .typeVertices).get kind).change? name with
  | none => exact .inr (.inr (.inr rfl))
  | some change =>
    have hSeed := (change?_seeded_iff (run.walks _)).mp hChange
    cases change with
    | added => exact .inl ⟨rfl, mem_seeds_added_iff.mp hSeed⟩
    | removed => exact .inr (.inl ⟨rfl, mem_seeds_removed_iff.mp hSeed⟩)
    | modified details =>
      obtain ⟨rfl, hChanges⟩ := mem_seeds_modified_iff.mp hSeed
      exact .inr (.inr (.inl ⟨rfl, hChanges⟩))

theorem seeded_added_iff : ((run.left .typeVertices).get kind).change? name = some .added ↔
    InsertsType inputs.operations kind name :=
  (change?_seeded_iff (run.walks _)).trans mem_seeds_added_iff

theorem seeded_removed_iff : ((run.left .typeVertices).get kind).change? name = some .removed ↔
    DeletesType inputs.operations kind name :=
  (change?_seeded_iff (run.walks _)).trans mem_seeds_removed_iff

theorem seeded_modified_iff : ((run.left .typeVertices).get kind).change? name = some (.modified []) ↔
    ChangesType inputs.operations kind name := by
  refine (change?_seeded_iff (run.walks _)).trans (mem_seeds_modified_iff.trans ?_)
  exact and_iff_right rfl

theorem report_added_iff : run.report.change? kind name = some .added ↔ InsertsType inputs.operations kind name := by
  rw [run.change?_report, Change.extend?_eq_added_iff, run.seeded_added_iff]

theorem report_removed_iff :
    run.report.change? kind name = some .removed ↔ DeletesType inputs.operations kind name := by
  rw [run.change?_report, Change.extend?_eq_removed_iff, run.seeded_removed_iff]

theorem report_modified_iff : (∃ details, run.report.change? kind name = some (.modified details)) ↔
    ¬ InsertsType inputs.operations kind name ∧ ¬ DeletesType inputs.operations kind name ∧
      (ChangesType inputs.operations kind name ∨ ∃ detail, (name, detail) ∈ inputs.journal kind) := by
  simp only [← run.seeded_added_iff, ← run.seeded_removed_iff, ← run.seeded_modified_iff, ← Journal.detailsOf_ne_nil_iff,
    run.change?_report]
  obtain ⟨hChange, _⟩ | ⟨hChange, _⟩ | ⟨hChange, _⟩ | hChange := run.seeded_cases kind name
  · simp [hChange, Change.extend?, Change.extend]
  · simp [hChange, Change.extend?, Change.extend]
  · simp [hChange, Change.extend?, Change.extend]
  · cases hDetails : (inputs.journal kind).detailsOf name with
    | nil => simp [hChange, Change.extend?]
    | cons detail details => simp [hChange, Change.extend?]

theorem report_modified_nil_iff : run.report.change? kind name = some (.modified []) ↔
    ChangesType inputs.operations kind name ∧ ∀ detail, (name, detail) ∉ inputs.journal kind := by
  rw [← not_exists, ← Journal.detailsOf_ne_nil_iff, ← run.seeded_modified_iff, run.change?_report]
  obtain ⟨hChange, _⟩ | ⟨hChange, _⟩ | ⟨hChange, _⟩ | hChange := run.seeded_cases kind name
  · simp [hChange, Change.extend?, Change.extend]
  · simp [hChange, Change.extend?, Change.extend]
  · simp [hChange, Change.extend?, Change.extend]
  · cases hDetails : (inputs.journal kind).detailsOf name with
    | nil => simp [hChange, Change.extend?]
    | cons detail details => simp [hChange, Change.extend?]

theorem keys_report (kind : TypeKind) : (run.report.get kind).map Prod.fst = seedNames kind inputs.operations ++
    (((inputs.journal kind).map Prod.fst).filter (!(seedNames kind inputs.operations).contains ·)).eraseDups := by
  rw [report, Ledgers.keys_toReport, (run.records_journal kind).names_eq,
    eraseDups_append_of_nodup (Ledger.nodup_names _), run.names_seeded]

end CompleteRun

/-- Types are added, removed and modified in a report as the operations and the journal have it; the seeded records stay
what they are, in front, and no record is a modification without cause. -/
theorem classifies_of_analyze {report : Report} (h : inputs.analyze.result = .ok report) (kind : TypeKind) :
    report.Classifies inputs kind := by
  obtain ⟨run, rfl⟩ := Inputs.analyze_eq_ok_iff.mp h
  exact {
    added_iff := fun _ => run.report_added_iff
    removed_iff := fun _ => run.report_removed_iff
    modified_iff := fun _ => run.report_modified_iff
    modified_nil_iff := fun _ => run.report_modified_nil_iff
    details_eq := run.details_report kind
    keys_eq := run.keys_report kind
    named := by
      intro entry hEntry
      rw [CompleteRun.report, Ledgers.get_toReport] at hEntry
      obtain ⟨_, _, rfl⟩ := List.mem_map.mp hEntry
      exact ⟨rfl, rfl⟩
    seeds_kept := fun _ _ hPass hHolds => seeds_kept_of_holds hPass hHolds kind
    nil_of_changes := fun _ _ hPass hHolds _ hChange => changesType_of_holds hPass hHolds hChange }

end

theorem classifies_of_analyze_sample :
    (Sample.inputs.analyze.result = .ok Sample.report ∧ Sample.report.Classifies Sample.inputs .object) ∧
    Sample.Scalars.inputs.analyze.result = .ok Sample.Scalars.report ∧
    Sample.Scalars.report.Classifies Sample.Scalars.inputs .scalar ∧
    Sample.Scalars.report.change? .scalar "Float" = none ∧ Sample.Scalars.report.change? .scalar "Date" = some .added :=
  ⟨⟨Sample.analyze_eq, classifies_of_analyze Sample.analyze_eq .object⟩, Sample.Scalars.analyze_eq,
    classifies_of_analyze Sample.Scalars.analyze_eq .scalar, by decide, by decide⟩

end SchemaChange
