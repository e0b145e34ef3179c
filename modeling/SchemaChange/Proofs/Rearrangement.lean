import Mathlib.Data.List.Perm.Basic
import SchemaChange.Proofs.Consistency

/-! # Documents with their lists in another order

The vertices and edges of either graph and the entries of the matching may be listed in any order; the operations may
not. A document that passes the checks of its shape does so in every such order, with the same parts.
-/
namespace SchemaChange

namespace Value

/-- The same value, or a list with the same elements in another order. -/
inductive ItemsRearranged : Value → Value → Prop
  | same (value : Value) : ItemsRearranged value value
  | list {items items' : List Value} : items.Perm items' → ItemsRearranged (.list items) (.list items')
  | set {items items' : List Value} : items.Perm items' → ItemsRearranged (.set items) (.set items')

/-- Entries with the same key, and values that are the same or related under that key. -/
def EntryRelated (R : String → Value → Value → Prop) (entry entry' : Value × Value) : Prop :=
  entry.1 = entry'.1 ∧ (entry.2 = entry'.2 ∨ ∃ name, entry.1 = .string name ∧ R name entry.2 entry'.2)

/-- The same value, or two mappings with related entries in the same places. -/
inductive FieldsRelated (R : String → Value → Value → Prop) : Value → Value → Prop
  | same (value : Value) : FieldsRelated R value value
  | map {entries entries' : List (Value × Value)} : List.Forall₂ (EntryRelated R) entries entries' →
    FieldsRelated R (.map entries) (.map entries')

/-- A graph with its vertices and its edges in another order. -/
def GraphRearranged : Value → Value → Prop :=
  FieldsRelated fun name value value' => (name = "vertices" ∨ name = "edges") ∧ ItemsRearranged value value'

/-- A document with the lists of its graphs and of its matching in another order. -/
def Rearranged : Value → Value → Prop :=
  FieldsRelated fun name value value' =>
    ((name = "old_graph" ∨ name = "new_graph") ∧ GraphRearranged value value') ∨
      (name = "mapping" ∧ ItemsRearranged value value')

theorem ItemsRearranged.symm {value value' : Value} (h : ItemsRearranged value value') :
    ItemsRearranged value' value := by
  cases h with
  | same => exact .same value
  | list hPerm => exact .list hPerm.symm
  | set hPerm => exact .set hPerm.symm

theorem FieldsRelated.symm {R : String → Value → Value → Prop} (hR : ∀ name value value', R name value value' →
    R name value' value) {value value' : Value} (h : FieldsRelated R value value') : FieldsRelated R value' value := by
  cases h with
  | same => exact .same value
  | map hEntries =>
    apply FieldsRelated.map
    apply hEntries.flip.imp
    rintro ⟨key', v'⟩ ⟨key, v⟩ ⟨hKey, hValue⟩
    cases hKey
    refine ⟨rfl, ?_⟩
    obtain hSame | ⟨name, hName, hRelated⟩ := hValue
    · exact .inl hSame.symm
    · exact .inr ⟨name, hName, hR name _ _ hRelated⟩

theorem Rearranged.symm {value value' : Value} (h : Rearranged value value') : Rearranged value' value := by
  apply FieldsRelated.symm _ h
  rintro name v v' (⟨hName, hGraph⟩ | ⟨hName, hItems⟩)
  · exact .inl ⟨hName, FieldsRelated.symm (fun _ _ _ hItems => ⟨hItems.1, hItems.2.symm⟩) hGraph⟩
  · exact .inr ⟨hName, hItems.symm⟩

@[simp] theorem lookup?_cons_self (name : String) (value : Value) (entries : List (Value × Value)) :
    lookup? ((.string name, value) :: entries) name = some value := by
  simp [lookup?]

theorem lookup?_cons_of_ne {key value : Value} {name : String} (h : key ≠ .string name)
    (entries : List (Value × Value)) : lookup? ((key, value) :: entries) name = lookup? entries name := by
  cases key with
  | string text =>
    have hText : text ≠ name := fun hEq => h (hEq ▸ rfl)
    simp [lookup?, hText]
  | _ => rfl

/-- Related entries have related values under every key, or both have none. -/
theorem lookup?_related {R : String → Value → Value → Prop} {entries entries' : List (Value × Value)}
    (h : List.Forall₂ (EntryRelated R) entries entries') (name : String) :
    Option.Rel (fun value value' => value = value' ∨ R name value value') (lookup? entries name)
      (lookup? entries' name) := by
  induction h with
  | nil => exact .none
  | @cons entry entry' entries entries' hEntry _ ih =>
    obtain ⟨key, value⟩ := entry
    obtain ⟨key', value'⟩ := entry'
    obtain ⟨hKey, hValue⟩ := hEntry
    obtain rfl : key = key' := hKey
    by_cases hName : key = .string name
    · subst hName
      rw [lookup?_cons_self, lookup?_cons_self]
      obtain hSame | ⟨other, hOther, hRelated⟩ := hValue
      · exact .some (.inl hSame)
      · cases hOther
        exact .some (.inr hRelated)
    · rw [lookup?_cons_of_ne hName, lookup?_cons_of_ne hName]
      exact ih

end Value

structure GraphSpec.Rearranged (spec spec' : GraphSpec) : Prop where
  vertices : spec.vertices.Perm spec'.vertices
  edges : spec.edges.Perm spec'.edges

structure Document.Rearranged (document document' : Document) : Prop where
  oldGraph : document.oldGraph.Rearranged document'.oldGraph
  newGraph : document.newGraph.Rearranged document'.newGraph
  matching : document.matching.Perm document'.matching
  operations : document.operations = document'.operations

namespace Checked

variable {α β : Type}

/-- If the one check gives a result, the other one gives a related result. -/
def Carries (R : α → β → Prop) (x : Checked α) (y : Checked β) : Prop := ∀ a, x = .ok a → ∃ b, y = .ok b ∧ R a b

theorem Carries.under {R : α → β → Prop} {x : Checked α} {y : Checked β} (step : Step) (h : Carries R x y) :
    Carries R (under step x) (under step y) := by
  intro a ha
  obtain ⟨b, hb, hR⟩ := h a (under_eq_ok_iff.mp ha)
  exact ⟨b, under_eq_ok_iff.mpr hb, hR⟩

theorem carries_refl {R : α → α → Prop} (hR : ∀ a, R a a) (x : Checked α) : Carries R x x :=
  fun a ha => ⟨a, ha, hR a⟩

theorem Carries.both {α' β' : Type} {R : α → β → Prop} {S : α' → β' → Prop} {x : Checked α} {y : Checked β}
    {x' : Checked α'} {y' : Checked β'} (h : Carries R x y) (h' : Carries S x' y') :
    Carries (fun p q => R p.1 q.1 ∧ S p.2 q.2) (both x x') (both y y') := by
  rintro ⟨a, a'⟩ hBoth
  obtain ⟨ha, ha'⟩ := both_eq_ok_iff.mp hBoth
  obtain ⟨b, hb, hR⟩ := h a ha
  obtain ⟨b', hb', hS⟩ := h' a' ha'
  exact ⟨(b, b'), both_eq_ok_iff.mpr ⟨hb, hb'⟩, hR, hS⟩

theorem Carries.map {α' β' : Type} {R : α → β → Prop} {S : α' → β' → Prop} {x : Checked α} {y : Checked β}
    (h : Carries R x y) {f : α → α'} {g : β → β'} (hMap : ∀ a b, R a b → S (f a) (g b)) :
    Carries S (x.map f) (y.map g) := by
  intro a' ha'
  obtain ⟨a, ha, rfl⟩ := map_eq_ok_iff.mp ha'
  obtain ⟨b, hb, hR⟩ := h a ha
  exact ⟨g b, map_eq_ok_iff.mpr ⟨b, hb, rfl⟩, hMap a b hR⟩

/-- The checks of a list's elements give a list exactly if each of them gives its element. -/
theorem all_mapIdx_eq_ok_iff {check : Value → Checked α} {step : Nat → Step} {items : List Value} {xs : List α} :
    all (items.mapIdx fun i item => under (step i) (check item)) = .ok xs ↔
      List.Forall₂ (fun item x => check item = .ok x) items xs := by
  induction items generalizing step xs with
  | nil => simp [all, eq_comm]
  | cons item items ih =>
    rw [List.mapIdx_cons, all, List.forall₂_cons_left_iff]
    simp only [map_eq_ok_iff, both_eq_ok_iff, under_eq_ok_iff, ih]
    constructor
    · rintro ⟨⟨x, rest⟩, ⟨hItem, hRest⟩, rfl⟩
      exact ⟨x, rest, hItem, hRest, rfl⟩
    · rintro ⟨x, rest, hItem, hRest, rfl⟩
      exact ⟨(x, rest), ⟨hItem, hRest⟩, rfl⟩

end Checked

namespace Document

open Checked Value

variable {α : Type} {R : String → Value → Value → Prop} {entries entries' : Entries} {name : String}

theorem requiredField_eq_elim (entries : Entries) (name : String) (check : Value → Checked α) :
    requiredField entries name check =
      (lookup? entries name).elim (under (.key name) (fail .missing)) fun value => under (.key name) (check value) := by
  rw [requiredField]
  cases lookup? entries name <;> rfl

theorem optionalField_eq_elim (entries : Entries) (name : String) (default : α) (check : Value → Checked α) :
    optionalField entries name default check =
      (lookup? entries name).elim (.ok default) fun value => under (.key name) (check value) := by
  rw [optionalField]
  cases lookup? entries name <;> rfl

/-- What is read under a key of related entries is carried over, whether or not the key is there. -/
theorem carries_lookup? {absent : Checked α} {read : Value → Checked α} {S : α → α → Prop} (hS : ∀ a, S a a)
    (h : List.Forall₂ (EntryRelated R) entries entries')
    (hRead : ∀ value value', R name value value' → Carries S (read value) (read value')) :
    Carries S ((lookup? entries name).elim absent read) ((lookup? entries' name).elim absent read) := by
  have hLookup := lookup?_related h name
  generalize lookup? entries name = found at hLookup ⊢
  generalize lookup? entries' name = found' at hLookup ⊢
  cases hLookup with
  | none => exact carries_refl hS absent
  | @some value value' hValue =>
    obtain rfl | hRelated := hValue
    · exact carries_refl hS (read value)
    · exact hRead value value' hRelated

theorem carries_requiredField {check : Value → Checked α} {S : α → α → Prop} (hS : ∀ a, S a a)
    (h : List.Forall₂ (EntryRelated R) entries entries')
    (hCheck : ∀ value value', R name value value' → Carries S (check value) (check value')) :
    Carries S (requiredField entries name check) (requiredField entries' name check) := by
  rw [requiredField_eq_elim, requiredField_eq_elim]
  exact carries_lookup? hS h fun value value' hRelated => (hCheck value value' hRelated).under _

theorem carries_optionalField (name : String) (default : α) {check : Value → Checked α} {S : α → α → Prop}
    (hS : ∀ a, S a a) (h : List.Forall₂ (EntryRelated R) entries entries')
    (hCheck : ∀ value value', R name value value' → Carries S (check value) (check value')) :
    Carries S (optionalField entries name default check) (optionalField entries' name default check) := by
  rw [optionalField_eq_elim, optionalField_eq_elim]
  exact carries_lookup? hS h fun value value' hRelated => (hCheck value value' hRelated).under _

theorem checkList_eq_ok_iff {check : Value → Checked α} {value : Value} {xs : List α} :
    checkList check value = .ok xs ↔
      ∃ items, checkItems value = .ok items ∧ List.Forall₂ (fun item x => check item = .ok x) items xs := by
  simp only [checkList, bind_eq_ok_iff, all_mapIdx_eq_ok_iff]

theorem carries_checkList (check : Value → Checked α) {value value' : Value} (h : ItemsRearranged value value') :
    Carries List.Perm (checkList check value) (checkList check value') := by
  have hPerm : ∀ {items items' xs}, items.Perm items' → List.Forall₂ (fun item x => check item = .ok x) items xs →
      ∃ xs', List.Forall₂ (fun item x => check item = .ok x) items' xs' ∧ xs.Perm xs' := by
    intro items items' xs hItems hChecked
    obtain ⟨xs', hChecked', hXs⟩ := List.perm_comp_forall₂ hItems.symm hChecked
    exact ⟨xs', hChecked', hXs.symm⟩
  intro xs hXs
  cases h with
  | same => exact ⟨xs, hXs, .refl xs⟩
  | list hItems | set hItems =>
    obtain ⟨_, ⟨⟩, hChecked⟩ := checkList_eq_ok_iff.mp hXs
    obtain ⟨xs', hChecked', hPermXs⟩ := hPerm hItems hChecked
    exact ⟨xs', checkList_eq_ok_iff.mpr ⟨_, rfl, hChecked'⟩, hPermXs⟩

theorem carries_checkGraph {value value' : Value} (h : GraphRearranged value value') :
    Carries GraphSpec.Rearranged (checkGraph value) (checkGraph value') := by
  rw [checkGraph_eq, checkGraph_eq]
  cases h with
  | same => exact carries_refl (fun _ => ⟨.refl _, .refl _⟩) _
  | @map entries entries' hEntries =>
    have hVertices := carries_optionalField "vertices" [] List.Perm.refl hEntries
      fun _ _ hField => carries_checkList checkVertex hField.2
    have hEdges := carries_optionalField "edges" [] List.Perm.refl hEntries
      fun _ _ hField => carries_checkList checkEdge hField.2
    exact (hVertices.both hEdges).map fun _ _ hFields => ⟨hFields.1, hFields.2⟩

/-- In every order of its lists a document passes the checks of its shape, with the same parts. -/
theorem carries_ofEntries (h : Value.Rearranged (.map entries) (.map entries')) :
    Carries Document.Rearranged (ofEntries entries) (ofEntries entries') := by
  rw [ofEntries_eq, ofEntries_eq]
  cases h with
  | same => exact carries_refl (fun _ => ⟨⟨.refl _, .refl _⟩, ⟨.refl _, .refl _⟩, .refl _, rfl⟩) _
  | map hEntries =>
    have hGraphs : ∀ name, name = "old_graph" ∨ name = "new_graph" → Carries GraphSpec.Rearranged
        (requiredField entries name checkGraph) (requiredField entries' name checkGraph) := by
      intro name hName
      apply carries_requiredField (fun _ => ⟨.refl _, .refl _⟩) hEntries
      rintro value value' (⟨_, hGraph⟩ | ⟨rfl, _⟩)
      · exact carries_checkGraph hGraph
      · simp at hName
    have hMatching : Carries List.Perm (optionalField entries "mapping" [] (checkList checkMatch))
        (optionalField entries' "mapping" [] (checkList checkMatch)) := by
      apply carries_optionalField "mapping" [] List.Perm.refl hEntries
      rintro value value' (⟨hName, _⟩ | ⟨_, hItems⟩)
      · simp at hName
      · exact carries_checkList checkMatch hItems
    have hOperations : Carries Eq (optionalField entries "edit_operations" [] (checkList checkOperation))
        (optionalField entries' "edit_operations" [] (checkList checkOperation)) := by
      apply carries_optionalField "edit_operations" [] (fun _ => rfl) hEntries
      rintro value value' (⟨hName, _⟩ | ⟨hName, _⟩)
      · simp at hName
      · simp at hName
    exact ((hGraphs _ (.inl rfl)).both ((hGraphs _ (.inr rfl)).both (hMatching.both hOperations))).map
      fun _ _ ⟨hOld, hNew, hMatches, hSame⟩ => ⟨hOld, hNew, hMatches, hSame⟩

end Document

end SchemaChange
