import SchemaChange.Graph.Owner
import SchemaChange.Edit.Matching
import SchemaChange.TypeLabel
import SchemaChange.Proofs.Distinct

/-! # Schemas as graphs

In the graph of a schema the named types of a kind have different names, each field and argument has one owner and one
type, and the labels of edges say which edges give types. There the look-ups of owners succeed.
-/
namespace SchemaChange

theorem eq_of_countP_eq_one {α : Type} {p : α → Bool} {xs : List α} (h : xs.countP p = 1) {x y : α} (hx : x ∈ xs)
    (hpx : p x = true) (hy : y ∈ xs) (hpy : p y = true) : y = x := by
  rw [List.countP_eq_length_filter, List.length_eq_one_iff] at h
  obtain ⟨z, hz⟩ := h
  have hxz : x ∈ xs.filter p := List.mem_filter.mpr ⟨hx, hpx⟩
  have hyz : y ∈ xs.filter p := List.mem_filter.mpr ⟨hy, hpy⟩
  rw [hz, List.mem_singleton] at hxz hyz
  rw [hxz, hyz]

theorem exists_of_countP_eq_one {α : Type} {p : α → Bool} {xs : List α} (h : xs.countP p = 1) :
    ∃ x ∈ xs, p x = true :=
  List.countP_pos_iff.mp (by rw [h]; exact Nat.one_pos)

namespace Matching

variable {m : Matching} {source target : Vertex}

theorem target?_eq_some_iff : m.target? source = some target ↔ (source, target) ∈ m.pairs := by
  rw [target?, Option.map_eq_some_iff]
  constructor
  · rintro ⟨pair, hFind, rfl⟩
    have hSource : pair.1 = source := by simpa using List.find?_some hFind
    exact hSource ▸ List.mem_of_find?_eq_some hFind
  · intro h
    exact ⟨_, find?_eq_some_of_nodup m.sources_nodup h, rfl⟩

theorem source?_eq_some_iff : m.source? target = some source ↔ (source, target) ∈ m.pairs := by
  rw [source?, Option.map_eq_some_iff]
  constructor
  · rintro ⟨pair, hFind, rfl⟩
    have hTarget : pair.2 = target := by simpa using List.find?_some hFind
    exact hTarget ▸ List.mem_of_find?_eq_some hFind
  · intro h
    exact ⟨_, find?_eq_some_of_nodup m.targets_nodup h, rfl⟩

theorem currentName_of_target? (h : m.target? source = some target) : m.currentName source = target.name := by
  rw [currentName, h]
  rfl

end Matching

theorem exists_decode? {label : String} (h : isTypeLabel label = true) :
    ∃ info, TypeLabel.decode? label = some info := by
  rw [isTypeLabel, ← List.isSome_isPrefixOf?_eq_isPrefixOf] at h
  obtain ⟨body, hBody⟩ := Option.isSome_iff_exists.mp h
  exact ⟨TypeLabel.ofBody body, by rw [TypeLabel.decode?, hBody]; rfl⟩

theorem isImplementsLabel_eq_false {label : String} (h : isTypeLabel label = true) : isImplementsLabel label = false := by
  have hHead : TypeLabel.head = 't' :: TypeLabel.head.tail := by decide
  have hImplements : "implements ".toList = 'i' :: "implements ".toList.tail := by decide
  rw [isTypeLabel, hHead] at h
  rw [isImplementsLabel, hImplements]
  cases hLabel : label.toList with
  | nil => rfl
  | cons first rest =>
    rw [hLabel, List.isPrefixOf, Bool.and_eq_true, beq_iff_eq] at h
    rw [List.isPrefixOf, ← h.1]
    rfl

theorem Container.ofVertex?_eq_some_iff {v : Vertex} {c : Container} : ofVertex? v = some c ↔ c.vertex = v := by
  constructor
  · intro h
    unfold ofVertex? at h
    split at h
    · cases h
      rfl
    · cases h
      rfl
    · cases h
  · rintro rfl
    obtain ⟨v, kind, hKind⟩ := c
    cases kind with
    | object =>
      unfold ofVertex?
      split
      · rfl
      · rename_i hOther
        cases hKind.symm.trans hOther
      · rename_i hObject _
        exact absurd hKind hObject
    | interface =>
      unfold ofVertex?
      split
      · rename_i hOther
        cases hKind.symm.trans hOther
      · rfl
      · rename_i hInterface
        exact absurd hKind hInterface

theorem Container.isSome_ofVertex?_iff {v : Vertex} :
    (ofVertex? v).isSome = true ↔ v.kind = .type .object ∨ v.kind = .type .interface := by
  rw [Option.isSome_iff_exists]
  simp only [ofVertex?_eq_some_iff]
  constructor
  · rintro ⟨c, rfl⟩
    have hKind := c.kind_eq
    cases hc : c.kind <;> simp [hKind, hc, ContainerKind.toTypeKind]
  · rintro (hKind | hKind)
    · exact ⟨⟨v, .object, hKind⟩, rfl⟩
    · exact ⟨⟨v, .interface, hKind⟩, rfl⟩

theorem ArgumentOwner.isSome_ofVertex?_iff {v : Vertex} :
    (ofVertex? v).isSome = true ↔ v.kind = .field ∨ v.kind = .directive := by
  unfold ofVertex?
  cases v.kind <;> simp

def ArgumentOwner.kind : ArgumentOwner → VertexKind
  | field _ => .field
  | directive _ => .directive

theorem ArgumentOwner.vertex_and_kind_of_ofVertex? {v : Vertex} {owner : ArgumentOwner} (h : ofVertex? v = some owner) :
    owner.vertex = v ∧ v.kind = owner.kind := by
  unfold ofVertex? at h
  split at h
  · rename_i hKind
    cases h
    exact ⟨rfl, hKind⟩
  · rename_i hKind
    cases h
    exact ⟨rfl, hKind⟩
  · cases h

namespace SchemaGraph

variable {g : SchemaGraph} {v w : Vertex}

theorem eq_of_soleOf {α ε : Type} {unexpected : Nat → ε} {owners : List α} {owner : α}
    (h : soleOf unexpected owners = .ok owner) : owners = [owner] := by
  unfold soleOf at h
  split at h
  · cases h
    rfl
  · cases h

theorem exists_soleOf {α ε : Type} {unexpected : Nat → ε} {owners : List α} (h : owners.length = 1) :
    ∃ owner, soleOf unexpected owners = .ok owner := by
  obtain ⟨owner, rfl⟩ := List.length_eq_one_iff.mp h
  exact ⟨owner, rfl⟩

theorem eq_of_id_eq (hv : v ∈ g) (hw : w ∈ g) (h : w.id = v.id) : w = v :=
  List.inj_on_of_nodup_map g.ids_nodup hw hv h

theorem edgesInto_eq (hv : v ∈ g) : g.edgesInto v = g.edges.filter (·.target = v) := by
  apply List.filter_congr
  intro e he
  rw [decide_eq_decide]
  exact ⟨eq_of_id_eq hv (g.ends_mem e he).2, fun h => h ▸ rfl⟩

theorem exists_edge_of_containerOf {c : Container} (h : g.containerOf v = .ok c) :
    ∃ e ∈ g.edgesInto v, e.source = c.vertex := by
  unfold containerOf at h
  split at h
  · have hMem : c ∈ (g.edgesInto v).filterMap (Container.ofVertex? ·.source) := by
      rw [eq_of_soleOf h]
      exact List.mem_singleton_self c
    obtain ⟨e, hEdge, hSource⟩ := List.mem_filterMap.mp hMem
    exact ⟨e, hEdge, (Container.ofVertex?_eq_some_iff.mp hSource).symm⟩
  · cases h

theorem source_mem_of_containerOf {c : Container} (h : g.containerOf v = .ok c) : c.vertex ∈ g := by
  obtain ⟨e, hEdge, hSource⟩ := exists_edge_of_containerOf h
  rw [← hSource]
  exact (g.ends_mem e (List.mem_filter.mp hEdge).1).1

theorem kind_of_containerOf {c : Container} (h : g.containerOf v = .ok c) : v.kind = .field := by
  unfold containerOf at h
  split at h
  · assumption
  · cases h

theorem mem_and_kind_of_argumentOwner {owner : ArgumentOwner} (h : g.argumentOwner v = .ok owner) :
    owner.vertex ∈ g ∧ owner.vertex.kind = owner.kind := by
  unfold argumentOwner at h
  split at h
  · have hMem : owner ∈ (g.edgesInto v).filterMap (ArgumentOwner.ofVertex? ·.source) := by
      rw [eq_of_soleOf h]
      exact List.mem_singleton_self _
    obtain ⟨e, hEdge, hSource⟩ := List.mem_filterMap.mp hMem
    obtain ⟨hVertex, hKind⟩ := ArgumentOwner.vertex_and_kind_of_ofVertex? hSource
    rw [hVertex]
    exact ⟨(g.ends_mem e (List.mem_filter.mp hEdge).1).1, hKind⟩
  · cases h

/-- Two named types of one kind have different names. -/
def NamesDistinct (g : SchemaGraph) : Prop :=
  ∀ v ∈ g.vertices, ∀ w ∈ g.vertices, v.kind.isNamedType = true → w.kind = v.kind → w.name = v.name → w = v

instance (g : SchemaGraph) : Decidable g.NamesDistinct :=
  inferInstanceAs (Decidable (∀ v ∈ g.vertices, ∀ w ∈ g.vertices, v.kind.isNamedType = true → w.kind = v.kind →
    w.name = v.name → w = v))

structure IsSchema (g : SchemaGraph) : Prop where
  names_distinct : g.NamesDistinct
  field_owner : ∀ v ∈ g.vertices, v.kind = .field → g.edges.countP (fun e =>
    e.target = v ∧ (e.source.kind = .type .object ∨ e.source.kind = .type .interface)) = 1
  argument_owner : ∀ v ∈ g.vertices, v.kind = .argument → g.edges.countP (fun e =>
    e.target = v ∧ (e.source.kind = .field ∨ e.source.kind = .directive)) = 1
  one_type : ∀ v ∈ g.vertices, v.kind = .field ∨ v.kind = .argument → g.edges.countP (fun e =>
    e.source = v ∧ e.target.kind.isNamedType = true) = 1
  type_label_iff : ∀ e ∈ g.edges, isTypeLabel e.label = true ↔
    (e.source.kind = .field ∨ e.source.kind = .argument) ∧ e.target.kind.isNamedType = true
  implementer : ∀ e ∈ g.edges, isImplementsLabel e.label = true →
    e.source.kind = .type .object ∨ e.source.kind = .type .interface

namespace IsSchema

theorem exists_containerOf (h : g.IsSchema) (hv : v ∈ g) (hKind : v.kind = .field) :
    ∃ c, g.containerOf v = .ok c := by
  rw [containerOf, if_pos hKind]
  apply exists_soleOf
  rw [edgesInto_eq hv, List.length_filterMap_eq_countP, List.countP_filter, ← h.field_owner v hv hKind]
  apply List.countP_congr
  intro e _
  simp [Container.isSome_ofVertex?_iff, and_comm]

theorem exists_argumentOwner (h : g.IsSchema) (hv : v ∈ g) (hKind : v.kind = .argument) :
    ∃ owner, g.argumentOwner v = .ok owner := by
  rw [argumentOwner, if_pos hKind]
  apply exists_soleOf
  rw [edgesInto_eq hv, List.length_filterMap_eq_countP, List.countP_filter, ← h.argument_owner v hv hKind]
  apply List.countP_congr
  intro e _
  simp [ArgumentOwner.isSome_ofVertex?_iff, and_comm]

theorem exists_typeEdge (h : g.IsSchema) (hv : v ∈ g) (hKind : v.kind = .field ∨ v.kind = .argument) :
    ∃ e ∈ g.edges, e.source = v ∧ isTypeLabel e.label = true := by
  obtain ⟨e, hEdge, hType⟩ := exists_of_countP_eq_one (h.one_type v hv hKind)
  simp only [decide_eq_true_eq] at hType
  obtain ⟨rfl, hNamed⟩ := hType
  exact ⟨e, hEdge, rfl, (h.type_label_iff e hEdge).mpr ⟨hKind, hNamed⟩⟩

theorem typeEdge_unique (h : g.IsSchema) {e e' : Edge} (he : e ∈ g.edges) (hLabel : isTypeLabel e.label = true)
    (he' : e' ∈ g.edges) (hLabel' : isTypeLabel e'.label = true) (hSource : e'.source = e.source) : e' = e := by
  obtain ⟨hKind, hNamed⟩ := (h.type_label_iff e he).mp hLabel
  obtain ⟨_, hNamed'⟩ := (h.type_label_iff e' he').mp hLabel'
  exact eq_of_countP_eq_one (h.one_type e.source (g.ends_mem e he).1 hKind) he (by simpa using hNamed) he'
    (by simpa [hSource] using hNamed')

end IsSchema

end SchemaGraph

end SchemaChange
