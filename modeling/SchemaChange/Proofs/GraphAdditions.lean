import SchemaChange.Proofs.Schema

/-! # Look-ups and additions

A vertex is found by its id and an edge by its ends. An addition puts its element at the end of its list, provided that
its place is free.
-/
namespace SchemaChange

namespace SchemaGraph

variable {g g' : SchemaGraph}

theorem vertex?_eq_some_iff {id : String} {v : Vertex} : g.vertex? id = some v ↔ v ∈ g ∧ v.id = id := by
  constructor
  · intro h
    exact ⟨List.mem_of_find?_eq_some h, by simpa using List.find?_some h⟩
  · rintro ⟨hMem, rfl⟩
    exact find?_eq_some_of_nodup g.ids_nodup hMem

theorem vertex?_eq_none_iff {id : String} : g.vertex? id = none ↔ id ∉ g.vertices.map (·.id) := by
  refine ⟨id_not_mem_of_vertex?, fun h => List.find?_eq_none.mpr fun v hMem => ?_⟩
  simpa using fun hId => h (List.mem_map.mpr ⟨v, hMem, hId⟩)

theorem edgeAt?_eq_some_iff {ends : String × String} {e : Edge} :
    g.edgeAt? ends = some e ↔ e ∈ g.edges ∧ e.ends = ends := by
  constructor
  · intro h
    exact ⟨List.mem_of_find?_eq_some h, by simpa using List.find?_some h⟩
  · rintro ⟨hMem, rfl⟩
    exact find?_eq_some_of_nodup g.ends_nodup hMem

theorem edgeAt?_eq_none_iff {ends : String × String} : g.edgeAt? ends = none ↔ ends ∉ g.edges.map (·.ends) := by
  refine ⟨ends_not_mem_of_edgeAt?, fun h => List.find?_eq_none.mpr fun e hMem => ?_⟩
  simpa using fun hEnds => h (List.mem_map.mpr ⟨e, hMem, hEnds⟩)

/-- An edge leaves the source that is asked for; of its target the id is compared. -/
theorem edge?_eq_some_iff_target_id {source target : Vertex} {e : Edge} :
    g.edge? source target = some e ↔ e ∈ g.edges ∧ e.source = source ∧ e.target.id = target.id := by
  simp only [edge?, Option.filter_eq_some_iff, edgeAt?_eq_some_iff, decide_eq_true_eq, Edge.ends, Prod.mk.injEq]
  constructor
  · rintro ⟨⟨hMem, _, hId⟩, hSource⟩
    exact ⟨hMem, hSource, hId⟩
  · rintro ⟨hMem, rfl, hId⟩
    exact ⟨⟨hMem, rfl, hId⟩, rfl⟩

/-- Between vertices of the graph an edge is found by its ends. -/
theorem edge?_eq_some_iff {source target : Vertex} {e : Edge} (hTarget : target ∈ g) :
    g.edge? source target = some e ↔ e ∈ g.edges ∧ e.source = source ∧ e.target = target := by
  rw [edge?_eq_some_iff_target_id]
  refine and_congr_right fun hMem => and_congr_right fun _ => ⟨?_, congrArg _⟩
  exact eq_of_id_eq hTarget (g.ends_mem e hMem).2

theorem edgesFrom_of_id_eq {v w : Vertex} (h : w.id = v.id) : g.edgesFrom v = g.edgesFrom w := by
  rw [edgesFrom, edgesFrom, h]

theorem edgesInto_of_id_eq {v w : Vertex} (h : w.id = v.id) : g.edgesInto v = g.edgesInto w := by
  rw [edgesInto, edgesInto, h]

theorem exists_addVertex {v : Vertex} (h : g.vertex? v.id = none) :
    ∃ g', g.addVertex v = .ok g' ∧ g'.vertices = g.vertices ++ [v] ∧ g'.edges = g.edges := by
  unfold addVertex
  split
  · rename_i hSome
    cases h.symm.trans hSome
  · exact ⟨_, rfl, rfl, rfl⟩

theorem addVertex_of_some {v w : Vertex} (h : g.vertex? v.id = some w) :
    g.addVertex v = if w = v then .ok g else .error (.duplicateVertex v.id) := by
  unfold addVertex
  split
  · rename_i hSome
    cases h.symm.trans hSome
    rfl
  · rename_i hNone
    cases h.symm.trans hNone

theorem exists_addEdge {e : Edge} (hSource : e.source ∈ g.vertices) (hTarget : e.target ∈ g.vertices)
    (h : g.edgeAt? e.ends = none) : ∃ g', g.addEdge e = .ok g' := by
  rw [addEdge, dif_pos hSource, dif_pos hTarget]
  split
  · rename_i hSome
    cases h.symm.trans hSome
  · exact ⟨_, rfl⟩

theorem addEdge_of_source_not_mem {e : Edge} (h : e.source ∉ g) : g.addEdge e = .error (.endNotInGraph e.source) :=
  dif_neg h

theorem addEdge_of_target_not_mem {e : Edge} (hSource : e.source ∈ g) (hTarget : e.target ∉ g) :
    g.addEdge e = .error (.endNotInGraph e.target) :=
  (dif_pos hSource).trans (dif_neg hTarget)

theorem addEdge_of_some {e held : Edge} (hSource : e.source ∈ g.vertices) (hTarget : e.target ∈ g.vertices)
    (h : g.edgeAt? e.ends = some held) : g.addEdge e = .error (.duplicateEdge e.source.id e.target.id) := by
  rw [addEdge, dif_pos hSource, dif_pos hTarget]
  split
  · rfl
  · rename_i hNone
    cases h.symm.trans hNone

theorem lists_of_addEdge {e : Edge} (h : g.addEdge e = .ok g') :
    g'.vertices = g.vertices ∧ g'.edges = g.edges ++ [e] := by
  unfold addEdge at h
  split at h
  · split at h
    · split at h
      · cases h
      · cases h
        exact ⟨rfl, rfl⟩
    · cases h
  · cases h

end SchemaGraph

end SchemaChange
