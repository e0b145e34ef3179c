import SchemaChange.Proofs.Recorded

/-! # The kinds of records and details

A report keeps the records of a kind in the part of the kind, and in a record only details of its kind. Objects,
interfaces and unions have details; the records of the other kinds have none.
-/
namespace SchemaChange

structure Report.WellKinded (report : Report) : Prop where
  record_kind : ∀ kind, ∀ entry ∈ report.get kind, entry.2.kind = kind
  detail_kind : ∀ kind, ∀ entry ∈ report.get kind, ∀ detail ∈ entry.2.change.details, detail.kind = kind
  no_details : ∀ kind, kind = .enum ∨ kind = .inputObject ∨ kind = .scalar →
    ∀ entry ∈ report.get kind, entry.2.change.details = []

/-- Every record is kept under its name among the records of its kind, and no name twice. -/
structure Report.Filed (report : Report) : Prop where
  kind_eq : ∀ kind, ∀ entry ∈ report.get kind, entry.2.kind = kind
  name_eq : ∀ kind, ∀ entry ∈ report.get kind, entry.2.name = entry.1
  keys_nodup : ∀ kind, ((report.get kind).map Prod.fst).Nodup

theorem Ledgers.filed_toReport (ledgers : Ledgers) : ledgers.toReport.Filed where
  kind_eq kind entry hEntry := by
    rw [get_toReport] at hEntry
    obtain ⟨recorded, -, rfl⟩ := List.mem_map.mp hEntry
    rfl
  name_eq kind entry hEntry := by
    rw [get_toReport] at hEntry
    obtain ⟨recorded, -, rfl⟩ := List.mem_map.mp hEntry
    rfl
  keys_nodup kind := by
    rw [keys_toReport]
    exact Ledger.nodup_names _

theorem Detail.kind_eq (detail : Detail) :
    detail.kind = .object ∨ detail.kind = .interface ∨ detail.kind = .union := by
  cases detail with
  | member container change => cases container <;> simp [kind, ContainerKind.toTypeKind]
  | unionMemberAdded | unionMemberRemoved => simp [kind]

theorem Report.wellKinded_of_kinds {report : Report}
    (hRecords : ∀ kind, ∀ entry ∈ report.get kind, entry.2.kind = kind)
    (hDetails : ∀ kind, ∀ entry ∈ report.get kind, ∀ detail ∈ entry.2.change.details, detail.kind = kind) :
    report.WellKinded where
  record_kind := hRecords
  detail_kind := hDetails
  no_details kind hKind entry hEntry := by
    apply List.eq_nil_iff_forall_not_mem.mpr
    intro detail hDetail
    have hDetailKind := detail.kind_eq
    rw [hDetails kind entry hEntry detail hDetail] at hDetailKind
    obtain rfl | rfl | rfl := hKind <;> simp at hDetailKind

namespace CompleteRun

variable {inputs : Inputs}

theorem kind_of_mem_journal (run : CompleteRun inputs) {kind : TypeKind} {entry : String × Detail}
    (h : entry ∈ inputs.journal kind) : entry.2.kind = kind := by
  rw [run.journal_eq] at h
  obtain ⟨pass, _, hEntry⟩ := List.mem_flatMap.mp h
  exact (run.kind_and_pass_of_mem hEntry).1

theorem kind_of_mem_details (run : CompleteRun inputs) {kind : TypeKind} {name : String} {detail : Detail}
    (h : detail ∈ (run.final.get kind).details name) : detail.kind = kind := by
  rw [← Ledgers.details_toReport, ← report, run.details_report, Journal.mem_detailsOf_iff] at h
  exact run.kind_of_mem_journal h

theorem wellKinded (run : CompleteRun inputs) : run.report.WellKinded := by
  apply Report.wellKinded_of_kinds
  · exact run.final.filed_toReport.kind_eq
  · intro kind entry hEntry detail hDetail
    rw [report, Ledgers.get_toReport] at hEntry
    obtain ⟨⟨name, change⟩, hRecorded, rfl⟩ := List.mem_map.mp hEntry
    have hMem : detail ∈ (run.final.get kind).details name := by
      rw [Ledger.details, Ledger.change?_eq_some_iff.mpr hRecorded]
      exact hDetail
    exact run.kind_of_mem_details hMem

end CompleteRun

theorem Inputs.wellKinded_of_analyze {inputs : Inputs} {report : Report} (h : inputs.analyze.result = .ok report) :
    report.WellKinded := by
  obtain ⟨run, rfl⟩ := analyze_eq_ok_iff.mp h
  exact run.wellKinded

end SchemaChange
