import SchemaChange.Proofs.Document.Problems

/-! # Documents that say the same

The document, its graphs and the entries of its matching ignore keys that they do not know, so loading finds the same
without these. The ends of an edge have two names each, and it does not matter under which of them an edge has its ends.
-/
namespace SchemaChange

namespace Value

def isNamed (names : List String) : Value → Bool
  | .string name => names.contains name
  | _ => false

def keepFields (names : List String) : Value → Value
  | .map entries => .map (entries.filter fun entry => isNamed names entry.1)
  | value => value

/-- A field of a document without the keys that are ignored in it. -/
def knownField (name : String) (value : Value) : Value :=
  if name = "old_graph" ∨ name = "new_graph" then keepFields ["vertices", "edges"] value
  else if name = "mapping" then mapItems (keepFields ["source", "target"]) value
  else value

/-- A document without the keys that it ignores itself, and those that its graphs and matching entries ignore. -/
def withoutIgnored (value : Value) : Value :=
  mapFields knownField (keepFields ["old_graph", "new_graph", "mapping", "edit_operations"] value)

def respellEntry (names : List String) (spelling : String) (entry : Value × Value) : Value × Value :=
  if isNamed names entry.1 then (.string spelling, entry.2) else entry

/-- One of some names written for each of them. -/
def respell (names : List String) (spelling : String) : Value → Value
  | .map entries => .map (entries.map (respellEntry names spelling))
  | value => value

/-- An edge with its ends under the names that are chosen for it. -/
def respellEdge (source target : Value → String) (edge : Value) : Value :=
  respell ["to", "to_id"] (target edge) (respell ["from", "from_id"] (source edge) edge)

def respellGraph (source target : Value → String) : Value → Value :=
  mapFields fun name value => if name = "edges" then mapItems (respellEdge source target) value else value

/-- A document in which each edge has the name for its source and the one for its target chosen anew. -/
def respellEnds (source target : Value → String) : Value → Value :=
  mapFields fun name value =>
    if name = "old_graph" ∨ name = "new_graph" then respellGraph source target value else value

end Value

namespace Document

open Checked Value

variable {α : Type} {entries : Entries} {names : List String} {name : String}

theorem lookup?_filter (hName : name ∈ names) :
    lookup? (entries.filter fun entry => isNamed names entry.1) name = lookup? entries name := by
  induction entries with
  | nil => rfl
  | cons entry entries ih =>
    obtain ⟨key, value⟩ := entry
    by_cases hKey : key = .string name
    · subst hKey
      rw [List.filter_cons_of_pos (by simpa [isNamed] using hName), lookup?_cons_self, lookup?_cons_self]
    · rw [lookup?_cons_of_ne hKey, List.filter_cons]
      split
      · rw [lookup?_cons_of_ne hKey, ih]
      · exact ih

theorem requiredField_filter (hName : name ∈ names) (check : Value → Checked α) :
    requiredField (entries.filter fun entry => isNamed names entry.1) name check = requiredField entries name check := by
  rw [requiredField, requiredField, lookup?_filter hName]

theorem optionalField_filter (hName : name ∈ names) (default : α) (check : Value → Checked α) :
    optionalField (entries.filter fun entry => isNamed names entry.1) name default check =
      optionalField entries name default check := by
  rw [optionalField, optionalField, lookup?_filter hName]

theorem checkEntries_keepFields (names : List String) (value : Value) : checkEntries (keepFields names value) =
    (checkEntries value).map (List.filter fun entry => isNamed names entry.1) := by
  cases value <;> rfl

theorem checkGraph_keepFields (value : Value) : checkGraph (keepFields ["vertices", "edges"] value) = checkGraph value := by
  rw [checkGraph_eq, checkGraph_eq, checkEntries_keepFields, Checked.bind_map]
  congr 1
  funext entries
  rw [optionalField_filter (by simp), optionalField_filter (by simp)]

theorem checkMatch_keepFields (value : Value) : checkMatch (keepFields ["source", "target"] value) = checkMatch value := by
  rw [checkMatch_eq, checkMatch_eq, checkEntries_keepFields, Checked.bind_map]
  congr 1
  funext entries
  rw [requiredField_filter (by simp), requiredField_filter (by simp)]

theorem ofEntries_known (entries : Entries) :
    ofEntries ((entries.filter fun entry => isNamed ["old_graph", "new_graph", "mapping", "edit_operations"] entry.1).map
      (mapEntry knownField)) = ofEntries entries := by
  rw [ofEntries_eq, ofEntries_eq, requiredField_of_same checkGraph_keepFields, requiredField_of_same checkGraph_keepFields,
    optionalField_of_same (checkList_of_same checkMatch_keepFields), optionalField_of_same (fun _ => rfl),
    requiredField_filter (by simp), requiredField_filter (by simp), optionalField_filter (by simp),
    optionalField_filter (by simp)]

theorem ofValue_withoutIgnored (value : Value) : Inputs.ofValue value.withoutIgnored = Inputs.ofValue value := by
  cases value with
  | map entries => simp only [withoutIgnored, keepFields, mapFields, Inputs.ofValue, Inputs.parse, ofEntries_known]
  | _ => rfl

end Document

namespace Value.IsJson

variable {value : Value} {entries : List (Value × Value)}

theorem mapEntries (h : (Value.map entries).IsJson) {f : Value × Value → Value × Value}
    (hEntry : ∀ entry, (∃ name, entry.1 = .string name) → entry.2.IsJson →
      (∃ name, (f entry).1 = .string name) ∧ (f entry).2.IsJson) : (Value.map (entries.map f)).IsJson := by
  rw [isJson_map_iff, List.forall_mem_map]
  intro entry hMem
  obtain ⟨hKey, hValue⟩ := isJson_map_iff.mp h entry hMem
  exact hEntry entry hKey hValue

theorem mapFields (h : value.IsJson) {f : String → Value → Value}
    (hField : ∀ name value, value.IsJson → (f name value).IsJson) : (value.mapFields f).IsJson := by
  cases value with
  | map entries =>
    refine h.mapEntries fun entry hKey hValue => ?_
    obtain ⟨_, value⟩ := entry
    obtain ⟨name, rfl⟩ := hKey
    exact ⟨⟨name, rfl⟩, hField name value hValue⟩
  | _ => exact h

theorem mapItems (h : value.IsJson) {f : Value → Value} (hItem : ∀ item, item.IsJson → (f item).IsJson) :
    (value.mapItems f).IsJson := by
  cases value with
  | list items =>
    refine isJson_list_iff.mpr (List.forall_mem_map.mpr fun item hMem => ?_)
    exact hItem item (isJson_list_iff.mp h item hMem)
  | set => cases h
  | _ => exact h

theorem respell (h : value.IsJson) (names : List String) (spelling : String) : (value.respell names spelling).IsJson := by
  cases value with
  | map entries =>
    refine h.mapEntries fun entry hKey hValue => ?_
    rw [respellEntry]
    split
    · exact ⟨⟨spelling, rfl⟩, hValue⟩
    · exact ⟨hKey, hValue⟩
  | _ => exact h

theorem respellEnds (h : value.IsJson) (source target : Value → String) : (value.respellEnds source target).IsJson := by
  refine h.mapFields fun name value hGraph => ?_
  split
  · refine hGraph.mapFields fun name value hEdges => ?_
    split
    · exact hEdges.mapItems fun edge hEdge => (hEdge.respell _ _).respell _ _
    · exact hEdges
  · exact hGraph

end Value.IsJson

namespace Writing

open Value

variable {α : Type} {entries : Entries} {name used spelling : String} {names known : List String}

theorem required_mapEntry {field : Writing α} {f : String → Value → Value} {a : α} (h : required entries name field a)
    (hField : ∀ value, field value a → field (f name value) a) : required (entries.map (mapEntry f)) name field a := by
  obtain ⟨value, hLookup, hWritten⟩ := h
  exact ⟨f name value, by rw [Document.lookup?_map_mapEntry, hLookup]; rfl, hField value hWritten⟩

theorem optional_mapEntry {field : Writing α} {f : String → Value → Value} {default a : α}
    (h : optional entries name default field a) (hField : ∀ value, field value a → field (f name value) a) :
    optional (entries.map (mapEntry f)) name default field a := by
  rw [optional, Document.lookup?_map_mapEntry]
  rw [optional] at h
  cases hLookup : lookup? entries name with
  | some value =>
    rw [hLookup] at h
    exact hField value h
  | none =>
    rw [hLookup] at h
    exact h

theorem items_mapItems {item : Writing α} {f : Value → Value} {value : Value} {xs : List α} (h : items item value xs)
    (hItem : ∀ value x, item value x → item (f value) x) : items item (mapItems f value) xs := by
  obtain ⟨values, rfl, hEach⟩ := h
  refine ⟨values.map f, rfl, List.forall₂_map_left_iff.mpr ?_⟩
  exact hEach.imp fun value x => hItem value x

theorem isNamed_iff {key : Value} : isNamed names key = true ↔ ∃ name ∈ names, key = .string name := by
  cases key <;> simp [isNamed]

theorem lookup?_respell_of_not_mem (hSpelling : spelling ∈ names) (hName : name ∉ names) :
    lookup? (entries.map (respellEntry names spelling)) name = lookup? entries name := by
  induction entries with
  | nil => rfl
  | cons entry entries ih =>
    obtain ⟨key, value⟩ := entry
    rw [List.map_cons, respellEntry]
    split
    next hNamed =>
      obtain ⟨other, hOther, hKey⟩ := isNamed_iff.mp hNamed
      obtain rfl : key = .string other := hKey
      have hne : ∀ known ∈ names, Value.string known ≠ .string name := by
        rintro known hKnown ⟨⟩
        exact hName hKnown
      rw [lookup?_cons_of_ne (hne _ hSpelling), lookup?_cons_of_ne (hne _ hOther), ih]
    next =>
      by_cases hKey : key = .string name
      · subst hKey
        rw [lookup?_cons_self, lookup?_cons_self]
      · rw [lookup?_cons_of_ne hKey, lookup?_cons_of_ne hKey, ih]

/-- If one of the names alone is used, its value is found under the name that is written for all. -/
theorem lookup?_respell (hSpelling : spelling ∈ names) (hUsed : used ∈ names)
    (hOther : ∀ other ∈ names, other ≠ used → lookup? entries other = none) :
    lookup? (entries.map (respellEntry names spelling)) spelling = lookup? entries used := by
  induction entries with
  | nil => rfl
  | cons entry entries ih =>
    obtain ⟨key, value⟩ := entry
    rw [List.map_cons, respellEntry]
    split
    next hNamed =>
      obtain ⟨name, hName, hKey⟩ := isNamed_iff.mp hNamed
      obtain rfl : key = .string name := hKey
      -- The first of the names that occurs is the one that is used, for there is nothing under the others.
      by_cases hSame : name = used
      · rw [hSame, lookup?_cons_self, lookup?_cons_self]
      · cases (lookup?_cons_self name value entries).symm.trans (hOther name hName hSame)
    next hNamed =>
      have hne : ∀ name ∈ names, key ≠ .string name := fun name hName hKey => hNamed (isNamed_iff.mpr ⟨name, hName, hKey⟩)
      rw [lookup?_cons_of_ne (hne _ hSpelling), lookup?_cons_of_ne (hne _ hUsed)]
      exact ih fun other hMem hDiffer => by rw [← hOther other hMem hDiffer, lookup?_cons_of_ne (hne _ hMem)]

theorem lookup?_respell_eq_none (hName : name ∈ names) (hne : name ≠ spelling) :
    lookup? (entries.map (respellEntry names spelling)) name = none := by
  rw [lookup?_eq_none_iff]
  intro entry hMem hKey
  obtain ⟨given, _, rfl⟩ := List.mem_map.mp hMem
  rw [respellEntry] at hKey
  split at hKey
  next =>
    cases hKey
    exact hne rfl
  next hNamed => exact hNamed (isNamed_iff.mpr ⟨name, hName, hKey⟩)

theorem HasOnly.respell (h : HasOnly entries known) (hSpelling : spelling ∈ known) :
    HasOnly (entries.map (respellEntry names spelling)) known := by
  intro entry hMem
  obtain ⟨given, hGiven, rfl⟩ := List.mem_map.mp hMem
  rw [respellEntry]
  split
  · exact ⟨spelling, hSpelling, rfl⟩
  · exact h given hGiven

theorem either_respell {alternative id : String} (h : either entries name alternative id) (hne : name ≠ alternative)
    (hSpelling : spelling ∈ [name, alternative]) :
    either (entries.map (respellEntry [name, alternative] spelling)) name alternative id := by
  have hFound : lookup? (entries.map (respellEntry [name, alternative] spelling)) spelling = some (.string id) := by
    obtain ⟨hId, hNone⟩ | ⟨hNone, hId⟩ := h
    · exact (lookup?_respell hSpelling (by simp) (by simp [hNone])).trans hId
    · exact (lookup?_respell hSpelling (by simp) (by simp [hNone])).trans hId
  obtain rfl | hAlternative := List.mem_cons.mp hSpelling
  · exact .inl ⟨hFound, lookup?_respell_eq_none (by simp) hne.symm⟩
  · obtain rfl := List.mem_singleton.mp hAlternative
    exact .inr ⟨lookup?_respell_eq_none (by simp) hne, hFound⟩

theorem either_respell_of_not_mem {alternative id : String} (h : either entries name alternative id)
    (hSpelling : spelling ∈ names) (hName : name ∉ names) (hAlternative : alternative ∉ names) :
    either (entries.map (respellEntry names spelling)) name alternative id := by
  rw [either, lookup?_respell_of_not_mem hSpelling hName, lookup?_respell_of_not_mem hSpelling hAlternative]
  exact h

theorem optional_respell {field : Writing α} {default a : α} (h : optional entries name default field a)
    (hSpelling : spelling ∈ names) (hName : name ∉ names) :
    optional (entries.map (respellEntry names spelling)) name default field a := by
  rw [optional, lookup?_respell_of_not_mem hSpelling hName]
  exact h

section Ends

variable {source target : Value → String} (hSource : ∀ edge, source edge ∈ ["from", "from_id"])
  (hTarget : ∀ edge, target edge ∈ ["to", "to_id"])
include hSource hTarget

theorem edge_respellEdge (value : Value) (spec : EdgeSpec) (h : edge value spec) :
    edge (respellEdge source target value) spec := by
  have hFrom := hSource value
  have hTo := hTarget value
  obtain ⟨entries, rfl, hFields⟩ := h
  have hRespelled : EdgeFields (entries.map (respellEntry ["from", "from_id"] (source (.map entries)))) spec := {
    source := either_respell hFields.source (by decide) hFrom
    target := either_respell_of_not_mem hFields.target hFrom (by decide) (by decide)
    label := optional_respell hFields.label hFrom (by decide)
    keys := hFields.keys.respell (List.mem_append_left _ hFrom) }
  exact ⟨_, rfl, {
    source := either_respell_of_not_mem hRespelled.source hTo (by decide) (by decide)
    target := either_respell hRespelled.target (by decide) hTo
    label := optional_respell hRespelled.label hTo (by decide)
    keys := hRespelled.keys.respell (List.mem_append_right ["from", "from_id"] (List.mem_append_left _ hTo)) }⟩

theorem graph_respellGraph (value : Value) (spec : GraphSpec) (h : graph value spec) :
    graph (respellGraph source target value) spec := by
  obtain ⟨entries, rfl, hFields⟩ := h
  exact ⟨_, rfl, optional_mapEntry hFields.vertices fun _ h => h,
    optional_mapEntry hFields.edges fun _ h => items_mapItems h (edge_respellEdge hSource hTarget)⟩

/-- The names of ends do not matter to what is written. -/
theorem document_respellEnds {value : Value} {document : Document} (h : Writing.document value document) :
    Writing.document (respellEnds source target value) document := by
  obtain ⟨entries, rfl, hFields⟩ := h
  exact ⟨_, rfl, required_mapEntry hFields.oldGraph (graph_respellGraph hSource hTarget · _),
    required_mapEntry hFields.newGraph (graph_respellGraph hSource hTarget · _),
    optional_mapEntry hFields.matching fun _ h => h, optional_mapEntry hFields.operations fun _ h => h⟩

end Ends

end Writing

end SchemaChange
