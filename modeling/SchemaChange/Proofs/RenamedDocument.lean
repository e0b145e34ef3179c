import Mathlib.Logic.Embedding.Basic
import SchemaChange.Proofs.Rearrangement

/-! # Documents with other vertex ids

The ids of the old graph's vertices are renamed wherever a document uses them, in the graph, the matching and the
operations, and those of the new graph by a renaming of their own. The checks of the shape do not look at ids, so the
renamed document has the same problems, or the renamed parts.
-/
namespace SchemaChange

namespace Value

/-- A text with a function applied to it; another value is left as it is. -/
def mapText (f : String → String) (value : Value) : Value :=
  match checkText value with
  | .ok text => .string (f text)
  | .error _ => value

def mapItems (f : Value → Value) : Value → Value
  | .list items => .list (items.map f)
  | .set items => .set (items.map f)
  | value => value

/-- An entry with its value changed as its key says. -/
def mapEntry (f : String → Value → Value) (entry : Value × Value) : Value × Value :=
  match entry.1 with
  | .string name => (entry.1, f name entry.2)
  | _ => entry

def mapFields (f : String → Value → Value) : Value → Value
  | .map entries => .map (entries.map (mapEntry f))
  | value => value

def renameVertex (r : String → String) : Value → Value :=
  mapFields fun name value => if name = "id" then mapText r value else value

/-- Both ends of an edge have two spellings. -/
def renameEdge (r : String → String) : Value → Value :=
  mapFields fun name value => if name ∈ ["from", "from_id", "to", "to_id"] then mapText r value else value

def renameGraph (r : String → String) : Value → Value :=
  mapFields fun name value =>
    if name = "vertices" then mapItems (renameVertex r) value
    else if name = "edges" then mapItems (renameEdge r) value
    else value

def renameMatch (old new : String → String) : Value → Value :=
  mapFields fun name value =>
    if name = "source" then mapText old value else if name = "target" then mapText new value else value

/-- A side of an operation is an id or a pair of ids. -/
def renameRef (r : String → String) (value : Value) : Value := mapItems (mapText r) (mapText r value)

def renameOperation (old new : String → String) : Value → Value :=
  mapFields fun name value =>
    if name = "source" then renameRef old value else if name = "target" then renameRef new value else value

/-- A document with the one renaming for the vertex ids of the old graph and the other for those of the new graph. -/
def renameIds (old new : String → String) : Value → Value :=
  mapFields fun name value =>
    if name = "old_graph" then renameGraph old value
    else if name = "new_graph" then renameGraph new value
    else if name = "mapping" then mapItems (renameMatch old new) value
    else if name = "edit_operations" then mapItems (renameOperation old new) value
    else value

end Value

def VertexSpec.renamed (r : String → String) (spec : VertexSpec) : VertexSpec := { spec with id := r spec.id }

def EdgeSpec.renamed (r : String → String) (spec : EdgeSpec) : EdgeSpec :=
  { spec with source := r spec.source, target := r spec.target }

def GraphSpec.renamed (r : String → String) (spec : GraphSpec) : GraphSpec where
  vertices := spec.vertices.map (·.renamed r)
  edges := spec.edges.map (·.renamed r)

def MatchSpec.renamed (old new : String → String) (spec : MatchSpec) : MatchSpec := ⟨old spec.source, new spec.target⟩

def ElementRef.renamed (r : String → String) : ElementRef → ElementRef
  | .vertex id => .vertex (r id)
  | .edge source target => .edge (r source) (r target)

def OperationSpec.renamed (old new : String → String) (spec : OperationSpec) : OperationSpec :=
  { spec with source := spec.source.map (·.renamed old), target := spec.target.map (·.renamed new) }

def Document.renamed (old new : String → String) (document : Document) : Document where
  oldGraph := document.oldGraph.renamed old
  newGraph := document.newGraph.renamed new
  matching := document.matching.map (·.renamed old new)
  operations := document.operations.map (·.renamed old new)

namespace Checked

variable {α : Type}

theorem all_mapIdx_map {check : Value → Checked α} {change : Value → Value} {f : α → α}
    (h : ∀ item, check (change item) = (check item).map f) (step : Nat → Step) (items : List Value) :
    all ((items.map change).mapIdx fun i item => under (step i) (check item)) =
      (all (items.mapIdx fun i item => under (step i) (check item))).map (List.map f) := by
  induction items generalizing step with
  | nil => rfl
  | cons item items ih =>
    rw [List.map_cons, List.mapIdx_cons, List.mapIdx_cons, all, all, h, under_map, ih (fun i => step (i + 1))]
    simp only [both_map_left, both_map_right, map_map]
    rfl

end Checked

namespace Document

open Checked Value

variable {α : Type} {entries : Entries} {name : String} {change : String → Value → Value}

theorem lookup?_map_mapEntry (change : String → Value → Value) (entries : Entries) (name : String) :
    lookup? (entries.map (mapEntry change)) name = (lookup? entries name).map (change name) := by
  induction entries with
  | nil => rfl
  | cons entry entries ih =>
    obtain ⟨key, value⟩ := entry
    rw [List.map_cons]
    by_cases hName : key = .string name
    · subst hName
      rw [mapEntry, lookup?_cons_self, lookup?_cons_self]
      rfl
    · have hKey : ∃ changed, mapEntry change (key, value) = (key, changed) := by
        cases key <;> exact ⟨_, rfl⟩
      obtain ⟨changed, hChanged⟩ := hKey
      rw [hChanged, lookup?_cons_of_ne hName, lookup?_cons_of_ne hName, ih]

theorem fst_mapEntry (change : String → Value → Value) (entry : Value × Value) : (mapEntry change entry).1 = entry.1 := by
  obtain ⟨key, value⟩ := entry
  cases key <;> rfl

theorem requiredField_map {check : Value → Checked α} {f : α → α}
    (h : ∀ value, check (change name value) = (check value).map f) :
    requiredField (entries.map (mapEntry change)) name check = (requiredField entries name check).map f := by
  rw [requiredField, requiredField, lookup?_map_mapEntry, ← under_map]
  cases lookup? entries name with
  | none => rfl
  | some value => simp only [Option.map_some, h]

theorem requiredField_of_same {check : Value → Checked α} (h : ∀ value, check (change name value) = check value) :
    requiredField (entries.map (mapEntry change)) name check = requiredField entries name check := by
  rw [requiredField, requiredField, lookup?_map_mapEntry]
  cases lookup? entries name with
  | none => rfl
  | some value => simp only [Option.map_some, h]

theorem optionalField_map {check : Value → Checked α} {default : α} {f : α → α} (hDefault : f default = default)
    (h : ∀ value, check (change name value) = (check value).map f) :
    optionalField (entries.map (mapEntry change)) name default check =
      (optionalField entries name default check).map f := by
  rw [optionalField, optionalField, lookup?_map_mapEntry]
  cases lookup? entries name with
  | none => simp only [Option.map_none, Except.map, hDefault]
  | some value => simp only [Option.map_some, h, under_map]

theorem optionalField_of_same {check : Value → Checked α} {default : α}
    (h : ∀ value, check (change name value) = check value) :
    optionalField (entries.map (mapEntry change)) name default check = optionalField entries name default check := by
  rw [optionalField, optionalField, lookup?_map_mapEntry]
  cases lookup? entries name with
  | none => rfl
  | some value => simp only [Option.map_some, h]

theorem checkKeys_map (known : List String) :
    checkKeys known (entries.map (mapEntry change)) = checkKeys known entries := by
  rw [checkKeys, checkKeys, List.map_map]
  congr 2
  apply List.map_congr_left
  intro entry _
  rw [Function.comp, fst_mapEntry]

theorem checkKeyedEntries_mapFields (value : Value) : checkKeyedEntries (mapFields change value) =
    (checkKeyedEntries value).map (List.map (mapEntry change)) := by
  cases value with
  | map entries =>
    have hKeys : (entries.map (mapEntry change)).any (fun entry => isBrokenKey entry.1) =
        entries.any fun entry => isBrokenKey entry.1 := by
      rw [List.any_map]
      congr 1
      funext entry
      rw [Function.comp, fst_mapEntry]
    simp only [mapFields, checkKeyedEntries, checkEntries, bind, Except.bind, hKeys]
    split <;> rfl
  | _ => rfl

theorem checkEntries_mapFields (value : Value) : checkEntries (mapFields change value) =
    (checkEntries value).map (List.map (mapEntry change)) := by
  cases value <;> rfl

theorem checkList_mapItems {check : Value → Checked α} {changeItem : Value → Value} {f : α → α}
    (h : ∀ item, check (changeItem item) = (check item).map f) (value : Value) :
    checkList check (mapItems changeItem value) = (checkList check value).map (List.map f) := by
  cases value with
  | list items => exact all_mapIdx_map h (fun i => .index i) items
  | set items => exact all_mapIdx_map h (fun i => .index i) items
  | _ => rfl

theorem checkList_of_same {check : Value → Checked α} {changeItem : Value → Value}
    (h : ∀ item, check (changeItem item) = check item) (value : Value) :
    checkList check (mapItems changeItem value) = checkList check value := by
  rw [checkList_mapItems (f := id) (fun item => (h item).trans (by cases check item <;> rfl)), List.map_id_fun]
  cases checkList check value <;> rfl

variable {r old new : String → String}

theorem checkText_mapText (r : String → String) (value : Value) :
    checkText (mapText r value) = (checkText value).map r := by
  rw [mapText]
  cases h : checkText value with
  | ok text => rfl
  | error problems => rw [h]; rfl

theorem checkVertex_rename (r : String → String) (value : Value) :
    checkVertex (renameVertex r value) = (checkVertex value).map (·.renamed r) := by
  rw [checkVertex_eq, checkVertex_eq, renameVertex, checkKeyedEntries_mapFields, Checked.bind_map, Checked.map_bind]
  congr 1
  funext entries
  rw [requiredField_map (f := r) (fun value => checkText_mapText r value), requiredField_of_same (fun _ => rfl),
    requiredField_of_same (fun _ => rfl), checkKeys_map]
  simp only [both_map_left, map_map]
  rfl

theorem spelling_map (name alternative : String) :
    spelling (entries.map (mapEntry change)) name alternative = spelling entries name alternative := by
  rw [spelling, spelling, lookup?_map_mapEntry, lookup?_map_mapEntry, Option.isNone_map, Option.isSome_map]

theorem spelling_eq (entries : Entries) (name alternative : String) :
    spelling entries name alternative = name ∨ spelling entries name alternative = alternative := by
  unfold spelling
  split
  · exact .inr rfl
  · exact .inl rfl

theorem checkEdge_rename (r : String → String) (value : Value) :
    checkEdge (renameEdge r value) = (checkEdge value).map (·.renamed r) := by
  rw [checkEdge_eq, checkEdge_eq, renameEdge, checkKeyedEntries_mapFields, Checked.bind_map, Checked.map_bind]
  congr 1
  funext entries
  -- Whichever spelling the document uses for an end, its value is renamed.
  have hEnd : ∀ name alternative, name ∈ ["from", "from_id", "to", "to_id"] →
      alternative ∈ ["from", "from_id", "to", "to_id"] → ∀ value, (if spelling entries name alternative ∈
        ["from", "from_id", "to", "to_id"] then mapText r value else value) = mapText r value := by
    intro name alternative hName hAlternative value
    apply if_pos
    obtain hEq | hEq := spelling_eq entries name alternative
    · rwa [hEq]
    · rwa [hEq]
  simp only [spelling_map]
  rw [requiredField_map (f := r) (fun value => by rw [hEnd _ _ (by decide) (by decide), checkText_mapText]),
    requiredField_map (f := r) (fun value => by rw [hEnd _ _ (by decide) (by decide), checkText_mapText]),
    optionalField_of_same (fun _ => rfl), checkKeys_map]
  simp only [both_map_left, both_map_right, map_map]
  rfl

theorem checkGraph_rename (r : String → String) (value : Value) :
    checkGraph (renameGraph r value) = (checkGraph value).map (·.renamed r) := by
  rw [checkGraph_eq, checkGraph_eq, renameGraph, checkEntries_mapFields, Checked.bind_map, Checked.map_bind]
  congr 1
  funext entries
  rw [optionalField_map (f := List.map (·.renamed r)) rfl (fun value => checkList_mapItems (checkVertex_rename r) value),
    optionalField_map (f := List.map (·.renamed r)) rfl (fun value => checkList_mapItems (checkEdge_rename r) value)]
  simp only [both_map_left, both_map_right, map_map]
  rfl

theorem checkMatch_rename (old new : String → String) (value : Value) :
    checkMatch (renameMatch old new value) = (checkMatch value).map (·.renamed old new) := by
  rw [checkMatch_eq, checkMatch_eq, renameMatch, checkEntries_mapFields, Checked.bind_map, Checked.map_bind]
  congr 1
  funext entries
  rw [requiredField_map (f := old) (fun value => checkText_mapText old value),
    requiredField_map (f := new) (fun value => checkText_mapText new value)]
  simp only [both_map_left, both_map_right, map_map]
  rfl

theorem checkItems_mapItems (change : Value → Value) (value : Value) :
    checkItems (mapItems change value) = (checkItems value).map (List.map change) := by
  cases value <;> rfl

theorem checkItems_mapText (r : String → String) (value : Value) : checkItems (mapText r value) = checkItems value := by
  rw [mapText]
  cases value with
  | bytes content =>
    cases checkText (.bytes content) <;> rfl
  | _ => rfl

theorem checkText_renameRef (r : String → String) (value : Value) :
    checkText (renameRef r value) = (checkText value).map r := by
  rw [← checkText_mapText, renameRef]
  cases mapText r value <;> rfl

theorem checkPair_renameRef (r : String → String) (value : Value) :
    checkPair checkText checkText (renameRef r value) =
      (checkPair checkText checkText value).map fun pair => (r pair.1, r pair.2) := by
  rw [checkPair, checkPair, renameRef, checkItems_mapItems, checkItems_mapText]
  cases checkItems value with
  | error problems => rfl
  | ok items =>
    have hItem : ∀ position, checkElement checkText (items.map (mapText r)) position =
        (checkElement checkText items position).map r := by
      intro position
      rw [checkElement, checkElement, List.getElem?_map, ← under_map]
      cases items[position]? with
      | none => rfl
      | some item => simp only [Option.map_some, checkText_mapText]
    simp only [Except.map, List.length_map]
    split
    · rfl
    · rw [hItem, hItem, both_map_left, both_map_right]
      exact map_map _ _ _

theorem eitherReading_map (r : String → String) (id : Checked String) (pair : Checked (String × String)) :
    eitherReading ElementRef.vertex (fun pair : String × String => .edge pair.1 pair.2) (id.map r)
        (pair.map fun pair => (r pair.1, r pair.2)) =
      (eitherReading ElementRef.vertex (fun pair : String × String => .edge pair.1 pair.2) id pair).map (·.renamed r) := by
  cases id <;> cases pair <;> rfl

theorem renameRef_ne_null (r : String → String) {value : Value} (h : value ≠ .null) : renameRef r value ≠ .null := by
  have hText : mapText r value ≠ .null := by
    rw [mapText]
    cases checkText value with
    | ok text => simp
    | error problems => exact h
  rw [renameRef]
  cases hValue : mapText r value with
  | null => exact absurd hValue hText
  | _ => simp [mapItems]

theorem checkRef_rename (r : String → String) (value : Value) :
    checkRef (renameRef r value) = (checkRef value).map (Option.map (·.renamed r)) := by
  by_cases hNull : value = .null
  · subst hNull
    rfl
  · rw [checkRef_of_ne_null hNull, checkRef_of_ne_null (renameRef_ne_null r hNull), checkText_renameRef,
      checkPair_renameRef, under_map, under_map, eitherReading_map, map_map, map_map]
    rfl

theorem checkOperation_rename (old new : String → String) (value : Value) :
    checkOperation (renameOperation old new value) = (checkOperation value).map (·.renamed old new) := by
  rw [checkOperation_eq, checkOperation_eq, renameOperation, checkKeyedEntries_mapFields, Checked.bind_map, Checked.map_bind]
  congr 1
  funext entries
  rw [requiredField_of_same (fun _ => rfl),
    optionalField_map (f := Option.map (·.renamed old)) rfl (fun value => checkRef_rename old value),
    optionalField_map (f := Option.map (·.renamed new)) rfl (fun value => checkRef_rename new value), checkKeys_map]
  simp only [both_map_left, both_map_right, map_map]
  rfl

/-- A renamed document has the same problems, or the renamed parts. -/
theorem ofEntries_rename (old new : String → String) (entries : Entries) :
    ∃ renamed, renameIds old new (.map entries) = .map renamed ∧
      ofEntries renamed = (ofEntries entries).map (·.renamed old new) := by
  refine ⟨_, rfl, ?_⟩
  rw [ofEntries_eq, ofEntries_eq]
  rw [requiredField_map (f := (·.renamed old)) (fun value => checkGraph_rename old value),
    requiredField_map (f := (·.renamed new)) (fun value => checkGraph_rename new value),
    optionalField_map (f := List.map (·.renamed old new)) rfl
      (fun value => checkList_mapItems (checkMatch_rename old new) value),
    optionalField_map (f := List.map (·.renamed old new)) rfl
      (fun value => checkList_mapItems (checkOperation_rename old new) value)]
  simp only [both_map_left, both_map_right, map_map]
  rfl

end Document

end SchemaChange
