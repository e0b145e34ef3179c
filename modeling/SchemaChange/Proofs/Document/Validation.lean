import SchemaChange.Proofs.Document.Validators
import SchemaChange.Proofs.Document.Variants

/-! # Validation of edit scripts

Loading gets past the checks of a value exactly if the grammar writes the value, and else has all its problems. Keys that
are ignored change nothing, and neither does the name under which an end of an edge is written.
-/
namespace SchemaChange

namespace Value

def WellFormed (value : Value) : Prop := ∃ document, Writing.document value document

/-- The checks of the shape pass; what may fail is that the parts fit each other. -/
def Passes (validator : Validator) (value : Value) : Prop :=
  ∀ error, Inputs.parse validator.document value = .error error → ∃ cause, error = .unresolved cause

/-- How loading with a validator judges a value. -/
structure Judged (validator : Validator) (value : Value) : Prop where
  passes_iff : value.Passes validator ↔ value.WellFormed
  parse_eq : ∀ document, Writing.document value document →
    Inputs.parse validator.document value = Inputs.ofDocument document
  notMapping_iff : Inputs.parse validator.document value = .error .notMapping ↔ ∀ entries, value ≠ .map entries
  /-- A mapping that is no edit script has all problems of its parts, in order. -/
  invalid_iff : ∀ problems, Inputs.parse validator.document value = .error (.invalid problems) ↔
    (∃ entries, value = .map entries) ∧ ¬ value.WellFormed ∧ problems = Problems.document value
  ignored : ∀ other : Value, other.IsJson → other.withoutIgnored = value.withoutIgnored →
    Inputs.parse validator.document other = Inputs.parse validator.document value
  respelled : value.WellFormed → ∀ source target : Value → String, (∀ edge, source edge ∈ ["from", "from_id"]) →
    (∀ edge, target edge ∈ ["to", "to_id"]) → (value.respellEnds source target).WellFormed ∧
      Inputs.parse validator.document (value.respellEnds source target) = Inputs.parse validator.document value

variable {validator : Validator} {value : Value}

theorem exists_of_ofDocument {document : Document} {error : LoadError (List Problem)}
    (h : Inputs.ofDocument document = .error error) : ∃ cause, error = .unresolved cause := by
  rw [Inputs.ofDocument] at h
  cases hResolve : document.resolve with
  | ok inputs =>
    rw [hResolve] at h
    cases h
  | error cause =>
    rw [hResolve] at h
    cases h
    exact ⟨cause, rfl⟩

theorem ofValue_of_document (hJson : value.IsJson) {document : Document} (h : Writing.document value document) :
    Inputs.ofValue value = Inputs.ofDocument document := by
  obtain ⟨entries, rfl, _⟩ := id h
  rw [Inputs.ofValue, Inputs.parse, (Document.decides_ofEntries hJson).eq_ok_iff.mpr h]

theorem ofValue_eq_invalid_iff (hJson : value.IsJson) {problems : List Problem} :
    Inputs.ofValue value = .error (.invalid problems) ↔
      (∃ entries, value = .map entries) ∧ ¬ value.WellFormed ∧ problems = Problems.document value := by
  cases value with
  | map entries =>
    have hChecked : Inputs.ofValue (.map entries) = .error (.invalid problems) ↔
        Document.ofEntries entries = .error problems := by
      rw [Inputs.ofValue, Inputs.parse]
      cases Document.ofEntries entries with
      | error found => simp
      | ok document =>
        constructor
        · intro h
          obtain ⟨_, ⟨⟩⟩ := exists_of_ofDocument h
        · intro h
          cases h
    rw [hChecked, (Document.decides_ofEntries hJson).eq_error_iff]
    simp [WellFormed, and_comm]
  | _ => simp [Inputs.ofValue, Inputs.parse]

theorem ofValue_eq_notMapping_iff : Inputs.ofValue value = .error .notMapping ↔ ∀ entries, value ≠ .map entries := by
  cases value with
  | map entries =>
    refine ⟨fun h => ?_, fun h => absurd rfl (h entries)⟩
    rw [Inputs.ofValue, Inputs.parse] at h
    cases hChecked : Document.ofEntries entries with
    | error problems =>
      rw [hChecked] at h
      cases h
    | ok document =>
      rw [hChecked] at h
      obtain ⟨_, ⟨⟩⟩ := exists_of_ofDocument h
  | _ => simp [Inputs.ofValue, Inputs.parse]

theorem parse_eq_ofValue (h : validator.Documented) (hJson : value.IsJson) :
    Inputs.parse validator.document value = Inputs.ofValue value := by
  cases value with
  | map entries =>
    rw [Inputs.ofValue, Inputs.parse, Inputs.parse, Validator.document, h.check_eq _ hJson, Document.ofEntries]
  | _ => rfl

theorem passes_iff (h : validator.Documented) (hJson : value.IsJson) : value.Passes validator ↔ value.WellFormed := by
  rw [Passes, parse_eq_ofValue h hJson]
  constructor
  · intro hPasses
    by_contra hNone
    by_cases hMap : ∃ entries, value = .map entries
    · obtain ⟨_, ⟨⟩⟩ := hPasses _ ((ofValue_eq_invalid_iff hJson).mpr ⟨hMap, hNone, rfl⟩)
    · obtain ⟨_, ⟨⟩⟩ := hPasses _ (ofValue_eq_notMapping_iff.mpr (not_exists.mp hMap))
  · rintro ⟨document, hDocument⟩ error hError
    rw [ofValue_of_document hJson hDocument] at hError
    exact exists_of_ofDocument hError

/-- Loading accepts the values of the grammar, and of the others it reports all problems. -/
theorem judged_of_isJson (h : validator.Documented) (hJson : value.IsJson) : value.Judged validator where
  passes_iff := passes_iff h hJson
  parse_eq _ hDocument := (parse_eq_ofValue h hJson).trans (ofValue_of_document hJson hDocument)
  notMapping_iff := by rw [parse_eq_ofValue h hJson, ofValue_eq_notMapping_iff]
  invalid_iff _ := by rw [parse_eq_ofValue h hJson, ofValue_eq_invalid_iff hJson]
  ignored other hOther hSame := by
    rw [parse_eq_ofValue h hJson, parse_eq_ofValue h hOther, ← Document.ofValue_withoutIgnored other, hSame,
      Document.ofValue_withoutIgnored]
  respelled hWellFormed source target hSource hTarget := by
    obtain ⟨document, hDocument⟩ := hWellFormed
    have hRespelled := Writing.document_respellEnds hSource hTarget hDocument
    have hJson' := hJson.respellEnds source target
    refine ⟨⟨document, hRespelled⟩, ?_⟩
    rw [parse_eq_ofValue h hJson, parse_eq_ofValue h hJson', ofValue_of_document hJson hDocument,
      ofValue_of_document hJson' hRespelled]

end Value

namespace Sample.Shapes

open Value

/-- Its edge has one end under each sort of name, and its label is no text. -/
def unlabelled : Value := .map [
  (.string "old_graph", .map []),
  (.string "new_graph", .map [(.string "edges", .list [.map [
    (.string "from_id", .string "a"), (.string "to", .string "b"), (.string "label", .null)]])])]

theorem isJson_unlabelled : unlabelled.IsJson := by
  simp [unlabelled, isJson_map_iff, isJson_list_iff, IsJson.null, IsJson.string]

theorem judged_unlabelled : Validator.standard.Documented ∧ unlabelled.IsJson ∧ unlabelled.Judged .standard :=
  ⟨Validator.documented_standard, isJson_unlabelled, judged_of_isJson Validator.documented_standard isJson_unlabelled⟩

example : Problems.document unlabelled =
    [⟨[.key "new_graph", .key "edges", .index 0, .key "label"], .notText⟩] := by
  decide +kernel

/-- A vertex whose only key is no proper text. -/
def halfKeyed : Entries := [(.string (String.ofList (Text.charsOf 0xD800)), .int 1)]

/-- A vertex whose kind is no proper text. -/
def halfKinded : Entries :=
  [(.string "id", .string "a"), (.string "kind", .string (String.ofList (Text.charsOf 0xD800))), (.string "name", .string "A")]

def scriptWith (vertex : Entries) : Entries := [
  (.string "old_graph", .map [(.string "vertices", .list [.map vertex])]),
  (.string "new_graph", .map [])]

/-- All fields of the first vertex are missing, and no problem says so; the kind of the second one is none of the kinds, and
the problem is another. -/
theorem ofValue_halfKeyedScript :
    ((Value.map (scriptWith halfKeyed)).IsJson ∧ (∀ name ∈ ["id", "kind", "name"], lookup? halfKeyed name = none) ∧
      Inputs.ofValue (.map (scriptWith halfKeyed)) =
        .error (.invalid [⟨[.key "old_graph", .key "vertices", .index 0], .brokenText⟩])) ∧
    (Value.map (scriptWith halfKinded)).IsJson ∧
      Inputs.ofValue (.map (scriptWith halfKinded)) =
        .error (.invalid [⟨[.key "old_graph", .key "vertices", .index 0, .key "kind"], .brokenText⟩]) := by
  have hKeyed : Document.ofEntries (scriptWith halfKeyed) =
      .error [⟨[.key "old_graph", .key "vertices", .index 0], .brokenText⟩] := by
    decide +kernel
  have hKinded : Document.ofEntries (scriptWith halfKinded) =
      .error [⟨[.key "old_graph", .key "vertices", .index 0, .key "kind"], .brokenText⟩] := by
    decide +kernel
  refine ⟨⟨?_, ?_, ?_⟩, ?_, ?_⟩
  · simp [scriptWith, halfKeyed, isJson_map_iff, isJson_list_iff, IsJson.int]
  · intro name hName
    rw [← Option.isNone_iff_eq_none]
    revert name
    decide +kernel
  · rw [Inputs.ofValue, Inputs.parse, hKeyed]
  · simp [scriptWith, halfKinded, isJson_map_iff, isJson_list_iff, IsJson.string]
  · rw [Inputs.ofValue, Inputs.parse, hKinded]

end Sample.Shapes

end SchemaChange
