import SchemaChange.Proofs.Guarded.Judgements
import SchemaChange.Proofs.Guarded.Views
import SchemaChange.Proofs.Resolution
import SchemaChange.Proofs.WellKinded

/-! # Containment of errors

From a value to the views of its report, the guarded pipeline ends in a result or in an error that was raised: loading
raises errors of loading only, the analysis only texts of inconsistencies, and the views none.
-/
namespace SchemaChange

/-- The views have a case for each record and each detail of a report, and show what the report itself shows. -/
structure Report.Viewable (report : Report) : Prop where
  status_eq : ∀ kind, ∀ entry ∈ report.get kind,
    (RecordObject.ofDifference entry.2).status = (.ok entry.2.change.status : Guarded String String)
  describe_eq : ∀ kind, ∀ entry ∈ report.get kind, ∀ detail ∈ entry.2.change.details,
    (DetailObject.ofDetail detail).describe = (.ok detail.describe : Guarded String String)
  toJson_eq : ∀ kind, ∀ entry ∈ report.get kind,
    (RecordObject.ofDifference entry.2).toJson = (.ok entry.2.toJson : Guarded String JsonValue)
  view_eq : report.view = (.ok report.toJson : Guarded String JsonValue)

theorem Report.viewable (report : Report) : report.Viewable where
  status_eq _ entry _ := RecordObject.status_ofDifference entry.2
  describe_eq _ _ _ detail _ := DetailObject.describe_ofDetail detail
  toJson_eq _ entry _ := RecordObject.toJson_ofDifference entry.2
  view_eq := view_eq report

theorem contained_told {α : Type} (x : Except Failure α) : (told x).Contained := Guarded.contained_plain _

theorem told_eq_ok_iff {α : Type} {x : Except Failure α} {a : α} : told x = .ok a ↔ x = .ok a := by
  cases x <;> simp [told, Except.mapError, Guarded.raise]

namespace Script

theorem exists_inputs_of_load {value : Value} {script : Script} (h : load value = .ok script) :
    ∃ inputs, Inputs.ofValue value = .ok inputs ∧ script = ofInputs inputs := by
  rw [load_eq] at h
  cases hValue : Inputs.ofValue value with
  | error e =>
    rw [hValue] at h
    cases h
  | ok inputs =>
    rw [hValue] at h
    cases h
    exact ⟨inputs, rfl, rfl⟩

/-- No value makes the pipeline break: loading it gives a script or raises an error of loading, the analysis of a loaded
script gives a report or raises an inconsistency, and a report has its records and details under their kinds and in
cases of the views. -/
theorem pipeline_contained (value : Value) :
    (load value).Contained ∧ load value = (Guarded.plain (Inputs.ofValue value)).map ofInputs ∧
      ∀ script, load value = .ok script →
        script.analyze.Contained ∧
        (∃ inputs, Inputs.ofValue value = .ok inputs ∧ script.analyze = told inputs.analyze.result) ∧
        ∀ report, script.analyze = .ok report → report.WellKinded ∧ report.Viewable := by
  have hLoad : (load value).Contained := by
    rw [load_eq]
    exact (Guarded.contained_plain _).map _
  refine ⟨hLoad, load_eq value, fun script hScript => ?_⟩
  obtain ⟨inputs, hInputs, rfl⟩ := exists_inputs_of_load hScript
  refine ⟨?_, ⟨inputs, hInputs, analyze_eq inputs⟩, fun report hReport => ?_⟩
  · rw [analyze_eq]
    exact contained_told _
  · rw [analyze_eq, told_eq_ok_iff] at hReport
    exact ⟨Inputs.wellKinded_of_analyze hReport, report.viewable⟩

theorem pipeline_contained_sample : ∃ script report, load (.map Sample.entries) = .ok script ∧
    script.analyze = .ok report ∧ report.object = [("Query", ⟨.object, "Query", .modified
      [.member .object (.fieldRenamed "a" "b"), .member .object (.fieldRetyped "b" "Int" "Int!")]⟩)] ∧
    report.WellKinded ∧ report.Viewable := by
  have hObjects : (match Inputs.ofValue (.map Sample.entries) with
      | .ok inputs => inputs.analyze.result.toOption.map (·.object)
      | .error _ => none) = some [("Query", ⟨.object, "Query", .modified
        [.member .object (.fieldRenamed "a" "b"), .member .object (.fieldRetyped "b" "Int" "Int!")]⟩)] := by
    decide +kernel
  cases hInputs : Inputs.ofValue (.map Sample.entries) with
  | error e =>
    rw [hInputs] at hObjects
    cases hObjects
  | ok inputs =>
    rw [hInputs] at hObjects
    cases hResult : inputs.analyze.result with
    | error failure =>
      simp only [hResult] at hObjects
      cases hObjects
    | ok report =>
      simp only [hResult] at hObjects
      have hLoad : load (.map Sample.entries) = .ok (ofInputs inputs) := by
        rw [load_eq, hInputs]
        rfl
      have hReport : (ofInputs inputs).analyze = .ok report := by
        rw [analyze_eq, hResult]
        rfl
      obtain ⟨_, _, hScripts⟩ := pipeline_contained (.map Sample.entries)
      obtain ⟨hKinded, hViewable⟩ := (hScripts _ hLoad).2.2 _ hReport
      exact ⟨_, report, hLoad, hReport, Option.some.inj hObjects, hKinded, hViewable⟩

end Script

end SchemaChange
