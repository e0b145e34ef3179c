import SchemaChange.Proofs.GraphHistory

/-! # Namesakes

A vertex that a graph does not hold may have the id of one that it holds. No edge is found that leaves such a namesake.
All other look-ups compare ids, so they answer about the namesake as about the vertex of the graph; only a vertex whose
id stands at no edge is left without edges and owners.
-/
namespace SchemaChange

open History

namespace SchemaGraph

variable {g : SchemaGraph} {u v w x : Vertex}

/-- All that a graph answers about a vertex is that it has no edges and no owner. -/
structure Ignores (g : SchemaGraph) (x : Vertex) : Prop where
  edge?_from : ∀ v, g.edge? x v = none
  edge?_to : ∀ v, g.edge? v x = none
  edgesFrom_eq : g.edgesFrom x = []
  edgesInto_eq : g.edgesInto x = []
  containerOf_eq : g.containerOf x = .error
    (if x.kind = .field then .notUnique [.type .object, .type .interface] x 0 else .notOfKind .field x)
  argumentOwner_eq : g.argumentOwner x = .error
    (if x.kind = .argument then .notUnique [.field, .directive] x 0 else .notOfKind .argument x)

/-- The look-ups that compare ids answer about `x` as about `w`. -/
structure StandsFor (g : SchemaGraph) (x w : Vertex) : Prop where
  edge?_to : ∀ v, g.edge? v x = g.edge? v w
  edgesFrom_eq : g.edgesFrom x = g.edgesFrom w
  edgesInto_eq : g.edgesInto x = g.edgesInto w
  containerOf_iff : x.kind = .field → ∀ owner, (g.containerOf x).map (·.vertex) = .ok owner ↔
    IsSoleOwner g.edges [.type .object, .type .interface] owner w
  containerOf_error : x.kind = .field →
    (¬ ∃ owner, IsSoleOwner g.edges [.type .object, .type .interface] owner w) →
    ∃ found, g.containerOf x = .error (.notUnique [.type .object, .type .interface] x found)
  argumentOwner_iff : x.kind = .argument → ∀ owner, (g.argumentOwner x).map (·.vertex) = .ok owner ↔
    IsSoleOwner g.edges [.field, .directive] owner w
  argumentOwner_error : x.kind = .argument → (¬ ∃ owner, IsSoleOwner g.edges [.field, .directive] owner w) →
    ∃ found, g.argumentOwner x = .error (.notUnique [.field, .directive] x found)

theorem edge?_eq_none_iff : g.edge? u v = none ↔ ∀ e ∈ g.edges, e.source = u → e.target.id ≠ v.id := by
  simp only [Option.eq_none_iff_forall_ne_some, ne_eq, edge?_eq_some_iff_target_id, not_and]

theorem edge?_eq_none_of_not_mem (h : x ∉ g) (v : Vertex) : g.edge? x v = none :=
  edge?_eq_none_iff.mpr fun e hMem hSource => absurd (hSource ▸ (g.ends_mem e hMem).1) h

theorem edgesFrom_eq_nil_iff : g.edgesFrom x = [] ↔ ∀ e ∈ g.edges, e.source.id ≠ x.id := by
  simp [edgesFrom]

theorem edgesInto_eq_nil_iff : g.edgesInto x = [] ↔ ∀ e ∈ g.edges, e.target.id ≠ x.id := by
  simp [edgesInto]

theorem containerOf_of_edgesInto_eq_nil (h : g.edgesInto x = []) : g.containerOf x = .error
    (if x.kind = .field then .notUnique [.type .object, .type .interface] x 0 else .notOfKind .field x) := by
  rw [containerOf, h]
  split <;> rfl

theorem argumentOwner_of_edgesInto_eq_nil (h : g.edgesInto x = []) : g.argumentOwner x = .error
    (if x.kind = .argument then .notUnique [.field, .directive] x 0 else .notOfKind .argument x) := by
  rw [argumentOwner, h]
  split <;> rfl

/-- A graph ignores exactly the vertices whose id stands at no edge. -/
theorem ignores_iff : g.Ignores x ↔ ∀ e ∈ g.edges, e.source.id ≠ x.id ∧ e.target.id ≠ x.id := by
  constructor
  · intro h e hMem
    exact ⟨edgesFrom_eq_nil_iff.mp h.edgesFrom_eq e hMem, edgesInto_eq_nil_iff.mp h.edgesInto_eq e hMem⟩
  · intro h
    have hFrom : g.edgesFrom x = [] := edgesFrom_eq_nil_iff.mpr fun e hMem => (h e hMem).1
    have hInto : g.edgesInto x = [] := edgesInto_eq_nil_iff.mpr fun e hMem => (h e hMem).2
    refine ⟨fun v => edge?_eq_none_iff.mpr ?_, fun v => edge?_eq_none_iff.mpr ?_, hFrom, hInto,
      containerOf_of_edgesInto_eq_nil hInto, argumentOwner_of_edgesInto_eq_nil hInto⟩
    · exact fun e hMem hSource => absurd (congrArg _ hSource) (h e hMem).1
    · exact fun e hMem _ => (h e hMem).2

theorem ignores_of_unknown (h : ∀ w ∈ g, w.id ≠ x.id) : g.Ignores x :=
  ignores_iff.mpr fun e hMem => ⟨h _ (g.ends_mem e hMem).1, h _ (g.ends_mem e hMem).2⟩

theorem standsFor_of_id_eq (hw : w ∈ g) (hId : w.id = x.id) : g.StandsFor x w where
  edge?_to v := by
    ext e
    rw [edge?_eq_some_iff_target_id, edge?_eq_some_iff_target_id, hId]
  edgesFrom_eq := edgesFrom_of_id_eq hId
  edgesInto_eq := edgesInto_of_id_eq hId
  containerOf_iff hKind _ := containerOf_map_eq_ok_iff hw hId hKind
  containerOf_error := containerOf_eq_error hw hId
  argumentOwner_iff hKind _ := argumentOwner_map_eq_ok_iff hw hId hKind
  argumentOwner_error := argumentOwner_eq_error hw hId

/-- What a graph answers about the vertices that it holds, and about those that it does not hold. -/
structure LooksUpById (g : SchemaGraph) : Prop where
  edge?_iff : ∀ u v e, g.edge? u v = some e ↔ e ∈ g.edges ∧ e.source = u ∧ e.target.id = v.id
  edge?_iff_of_mem : ∀ u, ∀ v ∈ g, ∀ e, g.edge? u v = some e ↔ e ∈ g.edges ∧ e.source = u ∧ e.target = v
  edge?_from : ∀ x, x ∉ g → ∀ v, g.edge? x v = none
  ignores_iff : ∀ x, x ∉ g → (g.Ignores x ↔ ∀ e ∈ g.edges, e.source.id ≠ x.id ∧ e.target.id ≠ x.id)
  ignores_of_unknown : ∀ x, (∀ w ∈ g, w.id ≠ x.id) → g.Ignores x
  standsFor : ∀ x, ∀ w ∈ g, w.id = x.id → g.StandsFor x w

/-- After every history of calls, edges are found from their own source, and everything else by id. -/
theorem looksUpById_of_calls (calls : List GraphCall) : LooksUpById (after calls) where
  edge?_iff _ _ _ := edge?_eq_some_iff_target_id
  edge?_iff_of_mem _ _ hv _ := edge?_eq_some_iff hv
  edge?_from _ := edge?_eq_none_of_not_mem
  ignores_iff _ _ := ignores_iff
  ignores_of_unknown _ := ignores_of_unknown
  standsFor _ _ := standsFor_of_id_eq

end SchemaGraph

namespace Sample.Namesake

def object : Vertex := ⟨0, "Q", .type .object, "Q"⟩

def field : Vertex := ⟨1, "Q.f", .field, "f"⟩

def declaration : Edge := ⟨2, object, field, ""⟩

/-- It agrees with `field` in all but the stamp, and is never added. -/
def copy : Vertex := { field with stamp := 3 }

def graph : SchemaGraph := .after [.vertex object, .vertex field, .edge declaration]

/-- The field's edge and container are found for its copy. -/
theorem lookups_copy : copy ∉ graph ∧ graph.edge? object copy = some declaration ∧ declaration.target ≠ copy ∧
    graph.edgesInto copy = [declaration] ∧ (graph.containerOf copy).map (·.vertex) = .ok object := by
  decide +kernel

end Sample.Namesake

end SchemaChange
