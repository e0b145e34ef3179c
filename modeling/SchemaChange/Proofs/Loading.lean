import SchemaChange.Yaml.Reader

/-! # How loading ends

Loading ends in inputs, in an error of its own or in a fault that it passes on. Which of them it is is said for any way
to open and decode a file, to read its text as a value and to validate the entries of a mapping.
-/
namespace SchemaChange

namespace Inputs

section

variable {ι : Type} (readValue : String → Except ReadFault Value) (validate : Entries → Except ι Document)
  (opened : Except ReadFault String)

def Reads (value : Value) : Prop := ∃ text, opened = .ok text ∧ readValue text = .ok value

/-- A file is not opened or decoded, or its text is not read. -/
def Faults (fault : ReadFault) : Prop := opened = .error fault ∨ ∃ text, opened = .ok text ∧ readValue text = .error fault

/-- A mapping is read, and it is a document whose parts fit each other. -/
def Gives (inputs : Inputs) : Prop := ∃ entries document, Reads readValue opened (.map entries) ∧
  validate entries = .ok document ∧ document.resolve = .ok inputs

inductive Refuses (path : String) : LoadError ι → Prop where
  | unreadable {fault : ReadFault} (hFault : Faults readValue opened fault)
      (hKind : fault.kind = .system ∨ fault.kind = .format) : Refuses path (.unreadable (pathText path) fault.text)
  | notMapping {value : Value} (hValue : Reads readValue opened value) (hOther : ∀ entries, value ≠ .map entries) :
      Refuses path .notMapping
  | invalid {entries : Entries} {error : ι} (hEntries : Reads readValue opened (.map entries))
      (hInvalid : validate entries = .error error) : Refuses path (.invalid error)
  | unresolved {entries : Entries} {document : Document} {error : ResolveError}
      (hEntries : Reads readValue opened (.map entries)) (hDocument : validate entries = .ok document)
      (hResolve : document.resolve = .error error) : Refuses path (.unresolved error)

def Escapes (fault : ReadFault) : Prop :=
  Faults readValue opened fault ∧ fault.kind ≠ .system ∧ fault.kind ≠ .format

/-- How the loading of a file ends. -/
structure LoadEnds (path : String) : Prop where
  loaded_iff : ∀ inputs, load readValue validate path opened = .ok inputs ↔ Gives readValue validate opened inputs
  refused_iff : ∀ error, load readValue validate path opened = .error (.load error) ↔
    Refuses readValue validate opened path error
  escaped_iff : ∀ fault, load readValue validate path opened = .error (.fault fault) ↔ Escapes readValue opened fault

end

variable {ι : Type} {readValue : String → Except ReadFault Value} {validate : Entries → Except ι Document}
  {opened : Except ReadFault String} {path : String}

theorem reads_or_faults (readValue : String → Except ReadFault Value) (opened : Except ReadFault String) :
    (∃ value, Reads readValue opened value) ∨ ∃ fault, Faults readValue opened fault := by
  cases opened with
  | error fault => exact .inr ⟨fault, .inl rfl⟩
  | ok text =>
    cases hRead : readValue text with
    | ok value => exact .inl ⟨value, text, rfl, hRead⟩
    | error fault => exact .inr ⟨fault, .inr ⟨text, rfl, hRead⟩⟩

theorem load_of_reads {value : Value} (h : Reads readValue opened value) :
    load readValue validate path opened = (parse validate value).mapError .load := by
  obtain ⟨text, rfl, hRead⟩ := h
  have hValue : (Except.ok text >>= readValue) = .ok value := hRead
  rw [load, hValue]

theorem load_of_faults {fault : ReadFault} (h : Faults readValue opened fault) :
    load readValue validate path opened =
      .error (if fault.isLoadError then .load (.unreadable (pathText path) fault.text) else .fault fault) := by
  have hFault : (opened >>= readValue) = .error fault := by
    obtain rfl | ⟨text, rfl, hRead⟩ := h
    · rfl
    · exact hRead
  rw [load, hFault]

theorem parse_map_of_ok {entries : Entries} {document : Document} (h : validate entries = .ok document) :
    parse validate (.map entries) = document.resolve.mapError .unresolved := by
  rw [parse, h]
  rfl

theorem parse_map_of_error {entries : Entries} {error : ι} (h : validate entries = .error error) :
    parse validate (.map entries) = .error (.invalid error) := by
  rw [parse, h]

theorem parse_of_ne_map {value : Value} (h : ∀ entries, value ≠ .map entries) :
    parse validate value = .error .notMapping := by
  cases value with
  | map entries => exact absurd rfl (h entries)
  | _ => rfl

theorem load_of_refuses {error : LoadError ι} (h : Refuses readValue validate opened path error) :
    load readValue validate path opened = .error (.load error) := by
  cases h with
  | unreadable hFault hKind => rw [load_of_faults hFault, if_pos (ReadFault.isLoadError_iff.mpr hKind)]
  | notMapping hValue hOther =>
    rw [load_of_reads hValue, parse_of_ne_map hOther]
    rfl
  | invalid hEntries hInvalid =>
    rw [load_of_reads hEntries, parse_map_of_error hInvalid]
    rfl
  | unresolved hEntries hDocument hResolve =>
    rw [load_of_reads hEntries, parse_map_of_ok hDocument, hResolve]
    rfl

theorem load_of_gives {inputs : Inputs} (h : Gives readValue validate opened inputs) :
    load readValue validate path opened = .ok inputs := by
  obtain ⟨entries, document, hEntries, hDocument, hResolve⟩ := h
  rw [load_of_reads hEntries, parse_map_of_ok hDocument, hResolve]
  rfl

theorem load_of_escapes {fault : ReadFault} (h : Escapes readValue opened fault) :
    load readValue validate path opened = .error (.fault fault) := by
  obtain ⟨hFault, hSystem, hFormat⟩ := h
  rw [load_of_faults hFault, if_neg (by simp [ReadFault.isLoadError_iff, hSystem, hFormat])]

theorem gives_or_refuses_or_escapes (readValue : String → Except ReadFault Value)
    (validate : Entries → Except ι Document) (opened : Except ReadFault String) (path : String) :
    (∃ inputs, Gives readValue validate opened inputs) ∨ (∃ error, Refuses readValue validate opened path error) ∨
      ∃ fault, Escapes readValue opened fault := by
  obtain ⟨value, hValue⟩ | ⟨fault, hFault⟩ := reads_or_faults readValue opened
  · by_cases hMap : ∃ entries, value = .map entries
    · obtain ⟨entries, rfl⟩ := hMap
      cases hDocument : validate entries with
      | error error => exact .inr (.inl ⟨_, .invalid hValue hDocument⟩)
      | ok document =>
        cases hResolve : document.resolve with
        | error error => exact .inr (.inl ⟨_, .unresolved hValue hDocument hResolve⟩)
        | ok inputs => exact .inl ⟨inputs, entries, document, hValue, hDocument, hResolve⟩
    · exact .inr (.inl ⟨_, .notMapping hValue (not_exists.mp hMap)⟩)
  · by_cases hKind : fault.kind = .system ∨ fault.kind = .format
    · exact .inr (.inl ⟨_, .unreadable hFault hKind⟩)
    · exact .inr (.inr ⟨fault, hFault, not_or.mp hKind⟩)

/-- Loading gives the inputs of a document that validates and resolves. Its errors have one of four causes, and every
other fault of opening, decoding and reading escapes. -/
theorem load_ends (readValue : String → Except ReadFault Value) (validate : Entries → Except ι Document)
    (opened : Except ReadFault String) (path : String) : LoadEnds readValue validate opened path := by
  refine ⟨fun inputs => ⟨fun h => ?_, load_of_gives⟩, fun error => ⟨fun h => ?_, load_of_refuses⟩,
    fun fault => ⟨fun h => ?_, load_of_escapes⟩⟩
  -- One of three things is the case, and only one of them has the end that is given.
  all_goals
    obtain ⟨inputs', hGives⟩ | ⟨error', hRefuses⟩ | ⟨fault', hEscapes⟩ :=
      gives_or_refuses_or_escapes readValue validate opened path
  · cases (load_of_gives hGives).symm.trans h
    exact hGives
  · cases (load_of_refuses hRefuses).symm.trans h
  · cases (load_of_escapes hEscapes).symm.trans h
  · cases (load_of_gives hGives).symm.trans h
  · cases (load_of_refuses hRefuses).symm.trans h
    exact hRefuses
  · cases (load_of_escapes hEscapes).symm.trans h
  · cases (load_of_gives hGives).symm.trans h
  · cases (load_of_refuses hRefuses).symm.trans h
  · cases (load_of_escapes hEscapes).symm.trans h
    exact hEscapes

end Inputs

namespace Sample

open Yaml (Node)

def datedText : String := "released: 2024-13-45\n"

def datedNode : Node := .mapping .mapping [(.scalar .string "released", .scalar .timestamp "2024-13-45")]

def isDated : Except Yaml.ReadError (Option Node) → Bool
  | .ok (some (.mapping .mapping [(.scalar .string key, .scalar .timestamp value)])) =>
    key = "released" ∧ value = "2024-13-45"
  | _ => false

theorem ofTokens_datedText : Node.ofTokens (Yaml.tokens datedText) = .ok (some datedNode) := by
  have hDated : isDated (Node.ofTokens (Yaml.tokens datedText)) = true := by decide +kernel
  rw [isDated.eq_def] at hDated
  split at hDated
  · rename_i hNode
    obtain ⟨rfl, rfl⟩ := of_decide_eq_true hDated
    exact hNode
  · cases hDated

theorem toValue_datedNode (size : Nat) :
    datedNode.toValue (size + 2) = .error (.noValue "month must be in 1..12") := by
  have hDepth : Node.depthWithin (size + 2) datedNode = 2 := rfl
  have hKey (level : Nat) : Node.buildWithin 2 level (.scalar .string "released") = .ok (.string "released") := by
    rw [Node.buildWithin.eq_def]
    rfl
  have hDate (level : Nat) : Node.buildWithin 2 level (.scalar .timestamp "2024-13-45") =
      .fail level (.noValue "month must be in 1..12") := by
    rw [Node.buildWithin.eq_def]
    rfl
  have hBuilt : Node.buildWithin 3 0 datedNode =
      ⟨.map [(.string "released", .null)], some (1, .noValue "month must be in 1..12")⟩ := by
    rw [Node.buildWithin.eq_def, datedNode]
    simp [Node.tag, Node.mergedWithin, Node.isMergeKey, Node.plainKey, hKey, hDate, Node.addEntry,
      Yaml.Built.firstFault, Yaml.Built.ok, Yaml.Built.fail, Yaml.isKey, Yaml.setEntry]
  rw [Node.toValue, hDepth, hBuilt]

/-- The month of the date is no month, which is no error of loading. -/
theorem load_datedText : Inputs.load Yaml.load Document.ofEntries "edits.yaml" (.ok datedText) =
    .error (.fault ⟨.value, "month must be in 1..12"⟩) := by
  have hLength : (Yaml.tokens datedText).length = 6 := by decide +kernel
  have hRead : Yaml.read datedText = .error (.noValue "month must be in 1..12") := by
    rw [Yaml.read, ofTokens_datedText, hLength]
    exact toValue_datedNode 5
  have hLoad : Yaml.load datedText = .error ⟨.value, "month must be in 1..12"⟩ := by
    rw [Yaml.load, hRead]
    rfl
  exact Inputs.load_of_escapes ⟨.inr ⟨datedText, rfl, hLoad⟩, nofun, nofun⟩

end Sample

end SchemaChange
