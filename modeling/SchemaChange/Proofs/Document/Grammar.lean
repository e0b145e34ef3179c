import SchemaChange.Proofs.Rearrangement

/-! # The grammar of edit scripts

A writing says which values write which part of a document. The writings of the parts are put together to the writing of
a whole document, for the values that a JSON text can hold. A field is written under its name; an end of an edge has two
names, and stands under one of them. Where the keys are not restricted, further ones do not matter.
-/
namespace SchemaChange

/-- The values of JSON texts. Their keys are texts, and they hold no bytes, sets or dates. -/
inductive Value.IsJson : Value → Prop where
  | null : IsJson .null
  | bool (value : Bool) : IsJson (.bool value)
  | int (value : Int) : IsJson (.int value)
  | real (value : Binary64) : IsJson (.real value)
  | undefinedNumber : IsJson .undefinedNumber
  | string (text : String) : IsJson (.string text)
  | list {items : List Value} (hItems : ∀ item ∈ items, IsJson item) : IsJson (.list items)
  | map {entries : List (Value × Value)} (hKeys : ∀ entry ∈ entries, ∃ name, entry.1 = .string name)
      (hValues : ∀ entry ∈ entries, IsJson entry.2) : IsJson (.map entries)

abbrev Writing (α : Type) := Value → α → Prop

namespace Writing

open Value

variable {α : Type}

def text : Writing String := fun value text => value = .string text

def title (titleOf : α → String) : Writing α := fun value a => value = .string (titleOf a)

def items (item : Writing α) : Writing (List α) := fun value xs =>
  ∃ items, value = .list items ∧ List.Forall₂ item items xs

def mapping (fields : Entries → α → Prop) : Writing α := fun value a =>
  ∃ entries, value = .map entries ∧ fields entries a

section Entries

variable (entries : Entries)

def required (name : String) (field : Writing α) (a : α) : Prop :=
  ∃ value, lookup? entries name = some value ∧ field value a

def optional (name : String) (default : α) (field : Writing α) (a : α) : Prop :=
  match lookup? entries name with
  | some value => field value a
  | none => a = default

/-- A text under one of two names, while there is nothing under the other. -/
def either (name alternative : String) (id : String) : Prop :=
  (lookup? entries name = some (.string id) ∧ lookup? entries alternative = none) ∨
    (lookup? entries name = none ∧ lookup? entries alternative = some (.string id))

def HasOnly (known : List String) : Prop := ∀ entry ∈ entries, ∃ name ∈ known, entry.1 = .string name

end Entries

structure VertexFields (entries : Entries) (spec : VertexSpec) : Prop where
  id : required entries "id" text spec.id
  kind : required entries "kind" (title VertexKind.title) spec.kind
  name : required entries "name" text spec.name
  keys : HasOnly entries ["id", "kind", "name"]

def vertex : Writing VertexSpec := mapping VertexFields

structure EdgeFields (entries : Entries) (spec : EdgeSpec) : Prop where
  source : either entries "from" "from_id" spec.source
  target : either entries "to" "to_id" spec.target
  label : optional entries "label" "" text spec.label
  keys : HasOnly entries ["from", "from_id", "to", "to_id", "label"]

def edge : Writing EdgeSpec := mapping EdgeFields

structure GraphFields (entries : Entries) (spec : GraphSpec) : Prop where
  vertices : optional entries "vertices" [] (items vertex) spec.vertices
  edges : optional entries "edges" [] (items edge) spec.edges

def graph : Writing GraphSpec := mapping GraphFields

structure MatchFields (entries : Entries) (spec : MatchSpec) : Prop where
  source : required entries "source" text spec.source
  target : required entries "target" text spec.target

def matchEntry : Writing MatchSpec := mapping MatchFields

def pair : Writing (String × String) := fun value ids => value = .list [.string ids.1, .string ids.2]

/-- A side of an operation: none, a vertex or an edge. -/
inductive ref : Writing (Option ElementRef) where
  | none : ref .null none
  | vertex (id : String) : ref (.string id) (some (.vertex id))
  | edge {value : Value} {ids : String × String} (hPair : pair value ids) : ref value (some (.edge ids.1 ids.2))

structure OperationFields (entries : Entries) (spec : OperationSpec) : Prop where
  kind : required entries "operation" (title OperationKind.title) spec.kind
  source : optional entries "source" none ref spec.source
  target : optional entries "target" none ref spec.target
  keys : HasOnly entries ["operation", "source", "target"]

def operation : Writing OperationSpec := mapping OperationFields

structure DocumentFields (entries : Entries) (document : Document) : Prop where
  oldGraph : required entries "old_graph" graph document.oldGraph
  newGraph : required entries "new_graph" graph document.newGraph
  matching : optional entries "mapping" [] (items matchEntry) document.matching
  operations : optional entries "edit_operations" [] (items operation) document.operations

def document : Writing Document := mapping DocumentFields

variable {entries : Entries} {name : String} {known known' : List String}

theorem lookup?_eq_none_iff : lookup? entries name = none ↔ ∀ entry ∈ entries, entry.1 ≠ .string name := by
  induction entries with
  | nil => simp [lookup?]
  | cons entry entries ih =>
    obtain ⟨key, value⟩ := entry
    by_cases hKey : key = .string name
    · subst hKey
      simp
    · simp [lookup?_cons_of_ne hKey, ih, hKey]

theorem mem_of_lookup? {value : Value} (h : lookup? entries name = some value) : (.string name, value) ∈ entries := by
  induction entries with
  | nil => cases h
  | cons entry entries ih =>
    obtain ⟨key, value'⟩ := entry
    by_cases hKey : key = .string name
    · subst hKey
      rw [lookup?_cons_self] at h
      cases h
      exact List.mem_cons_self
    · rw [lookup?_cons_of_ne hKey] at h
      exact List.mem_cons_of_mem _ (ih h)

theorem HasOnly.mono (h : HasOnly entries known) (hSub : known ⊆ known') : HasOnly entries known' := by
  intro entry hMem
  obtain ⟨name, hName, hKey⟩ := h entry hMem
  exact ⟨name, hSub hName, hKey⟩

theorem HasOnly.lookup?_eq_none (h : HasOnly entries known) (hName : name ∉ known) : lookup? entries name = none := by
  rw [lookup?_eq_none_iff]
  intro entry hMem hKey
  obtain ⟨other, hOther, hKey'⟩ := h entry hMem
  cases hKey.symm.trans hKey'
  exact hName hOther

end Writing

namespace Value

variable {entries : List (Value × Value)} {items : List Value}

theorem isJson_map_iff : (Value.map entries).IsJson ↔
    ∀ entry ∈ entries, (∃ name, entry.1 = .string name) ∧ entry.2.IsJson := by
  constructor
  · rintro (_ | _ | _ | _ | _ | _ | _ | ⟨hKeys, hValues⟩) entry hMem
    exact ⟨hKeys entry hMem, hValues entry hMem⟩
  · exact fun h => .map (fun entry hMem => (h entry hMem).1) fun entry hMem => (h entry hMem).2

theorem isJson_list_iff : (Value.list items).IsJson ↔ ∀ item ∈ items, item.IsJson := by
  constructor
  · rintro (_ | _ | _ | _ | _ | _ | hItems)
    exact hItems
  · exact .list

theorem IsJson.of_lookup? (h : (Value.map entries).IsJson) {name : String} {value : Value}
    (hLookup : lookup? entries name = some value) : value.IsJson :=
  (isJson_map_iff.mp h _ (Writing.mem_of_lookup? hLookup)).2

end Value

end SchemaChange
