import SchemaChange.Proofs.Consistency
import SchemaChange.Proofs.GraphAdditions

/-! # Graphs and matchings of a document

Each loop that makes them admits the elements that agree with those before: vertices by their ids, edges by their ends,
entries of the matching by both sides. What is made has an element for each description, and for nothing else.
-/
namespace SchemaChange

namespace Resolve

variable {side : Side} {g g' : SchemaGraph}

theorem addVertex_of_none {spec : VertexSpec} (h : g.vertex? spec.id = none) :
    ∃ g', addVertex side g spec = .ok g' ∧ g'.vertices = g.vertices ++ [spec.toVertex side] ∧ g'.edges = g.edges := by
  obtain ⟨g', hAdd, hLists⟩ := SchemaGraph.exists_addVertex (v := spec.toVertex side) h
  refine ⟨g', ?_, hLists⟩
  rw [addVertex, h, hAdd]
  rfl

theorem vertex?_of_addVertex {spec : VertexSpec} (h : addVertex side g spec = .ok g') : g.vertex? spec.id = none := by
  unfold addVertex at h
  split at h
  · cases h
  · simpa using ‹¬ (g.vertex? spec.id).isSome = true›

/-- The graph has the vertices described, and no edges yet. -/
def VerticesMade (side : Side) (specs : List VertexSpec) (g : SchemaGraph) : Prop :=
  g.vertices = specs.map (·.toVertex side) ∧ g.edges = []

theorem ids_of_verticesMade {specs : List VertexSpec} (h : VerticesMade side specs g) :
    g.vertices.map (·.id) = specs.map (·.id) := by
  rw [h.1, List.map_map]
  rfl

theorem admits_addVertex (side : Side) :
    Admits (addVertex side) (fun specs => (specs.map (·.id)).Nodup) (VerticesMade side) where
  agree hMade := ids_of_verticesMade hMade ▸ SchemaGraph.ids_nodup _
  agree_left hAgree := by
    rw [List.map_append] at hAgree
    exact hAgree.of_append_left
  admitted {specs g spec} hMade hAgree := by
    rw [List.map_append, ← ids_of_verticesMade hMade] at hAgree
    have hFresh : spec.id ∉ g.vertices.map (·.id) := by
      intro hMem
      exact List.disjoint_of_nodup_append hAgree hMem (List.mem_singleton_self _)
    obtain ⟨g', hAdd, _⟩ := addVertex_of_none (SchemaGraph.vertex?_eq_none_iff.mpr hFresh)
    exact ⟨g', hAdd⟩
  made hMade hAdd := by
    obtain ⟨g', hAdd', hVertices, hEdges⟩ := addVertex_of_none (vertex?_of_addVertex hAdd)
    cases hAdd.symm.trans hAdd'
    refine ⟨?_, hEdges.trans hMade.2⟩
    rw [hVertices, hMade.1, List.map_append]
    rfl

theorem vertex_eq_ok_iff {id : String} {v : Vertex} : vertex side g id = .ok v ↔ v ∈ g ∧ v.id = id := by
  rw [← SchemaGraph.vertex?_eq_some_iff, vertex]
  cases g.vertex? id <;> simp

theorem exists_vertex (side : Side) {id : String} (h : id ∈ g.vertices.map (·.id)) :
    ∃ v ∈ g, v.id = id ∧ vertex side g id = .ok v := by
  obtain ⟨v, hMem, hId⟩ := List.mem_map.mp h
  exact ⟨v, hMem, hId, vertex_eq_ok_iff.mpr ⟨hMem, hId⟩⟩

/-- The graph has the edges described, between the given vertices. -/
def EdgesMade (vertices : List Vertex) (specs : List EdgeSpec) (g : SchemaGraph) : Prop :=
  g.vertices = vertices ∧ g.edges.map (·.spec) = specs

theorem ends_of_edgesMade {vertices : List Vertex} {specs : List EdgeSpec} (h : EdgesMade vertices specs g) :
    g.edges.map (·.ends) = specs.map (·.ends) := by
  rw [← h.2, List.map_map]
  rfl

theorem admits_addEdge (side : Side) (vertices : List Vertex) :
    Admits (addEdge side) (GraphSpec.EdgesAgree (vertices.map (·.id))) (EdgesMade vertices) where
  agree {specs g} hMade := by
    refine ⟨?_, ends_of_edgesMade hMade ▸ g.ends_nodup⟩
    intro spec hSpec
    rw [← hMade.2] at hSpec
    obtain ⟨e, hMem, rfl⟩ := List.mem_map.mp hSpec
    obtain ⟨hSource, hTarget⟩ := g.ends_mem e hMem
    rw [hMade.1] at hSource hTarget
    exact ⟨List.mem_map_of_mem hSource, List.mem_map_of_mem hTarget⟩
  agree_left hAgree := by
    obtain ⟨hEnds, hNodup⟩ := hAgree
    rw [List.map_append] at hNodup
    exact ⟨fun e hMem => hEnds e (List.mem_append_left _ hMem), hNodup.of_append_left⟩
  admitted {specs g spec} hMade hAgree := by
    obtain ⟨hEnds, hNodup⟩ := hAgree
    rw [List.map_append, ← ends_of_edgesMade hMade] at hNodup
    obtain ⟨hSourceId, hTargetId⟩ := hEnds spec (by simp)
    rw [← hMade.1] at hSourceId hTargetId
    obtain ⟨source, hSource, hSourceEq, hSourceOk⟩ := exists_vertex side hSourceId
    obtain ⟨target, hTarget, hTargetEq, hTargetOk⟩ := exists_vertex side hTargetId
    have hFresh : (source.id, target.id) ∉ g.edges.map (·.ends) := by
      intro hMem
      refine List.disjoint_of_nodup_append hNodup hMem ?_
      rw [hSourceEq, hTargetEq]
      exact List.mem_singleton_self _
    obtain ⟨g', hAdd⟩ := SchemaGraph.exists_addEdge (e := ⟨side.stamp, source, target, spec.label⟩) hSource hTarget
      (SchemaGraph.edgeAt?_eq_none_iff.mpr hFresh)
    refine ⟨g', ?_⟩
    simp only [addEdge, bind_eq_ok_iff, mapError_eq_ok_iff]
    exact ⟨source, hSourceOk, target, hTargetOk, hAdd⟩
  made {specs g spec g'} hMade hAdd := by
    simp only [addEdge, bind_eq_ok_iff, mapError_eq_ok_iff, vertex_eq_ok_iff] at hAdd
    obtain ⟨source, ⟨_, hSource⟩, target, ⟨_, hTarget⟩, hAdd⟩ := hAdd
    obtain ⟨hVertices, hEdges⟩ := SchemaGraph.lists_of_addEdge hAdd
    refine ⟨hVertices.trans hMade.1, ?_⟩
    rw [hEdges, List.map_append, hMade.2, List.map_singleton, Edge.spec, hSource, hTarget]

theorem verticesMade_empty (side : Side) : VerticesMade side [] SchemaGraph.empty := ⟨rfl, rfl⟩

theorem lists_of_graph {spec : GraphSpec} (h : graph side spec = .ok g) :
    g.vertices = spec.vertices.map (·.toVertex side) ∧ g.edges.map (·.spec) = spec.edges := by
  rw [graph, bind_eq_ok_iff] at h
  obtain ⟨declared, hVertices, hEdges⟩ := h
  have hDeclared := (admits_addVertex side).made_of_foldlM (verticesMade_empty side) hVertices
  have hStart : EdgesMade declared.vertices [] declared := ⟨rfl, by rw [hDeclared.2]; rfl⟩
  have hMade := (admits_addEdge side declared.vertices).made_of_foldlM hStart hEdges
  exact ⟨hMade.1.trans hDeclared.1, hMade.2⟩

theorem realizes_of_graph {spec : GraphSpec} (h : graph side spec = .ok g) : g.Realizes spec := by
  obtain ⟨hVertices, hEdges⟩ := lists_of_graph h
  refine ⟨?_, hEdges⟩
  rw [hVertices, List.map_map]
  exact List.map_id _

/-- The vertices of a side have its stamp, so no vertex is on both sides. -/
theorem disjoint_of_graph {oldGraph newGraph : SchemaGraph} {old new : GraphSpec} (hOld : graph .old old = .ok oldGraph)
    (hNew : graph .new new = .ok newGraph) : ∀ v ∈ oldGraph, v ∉ newGraph := by
  intro v hOldMem hNewMem
  change v ∈ oldGraph.vertices at hOldMem
  change v ∈ newGraph.vertices at hNewMem
  rw [(lists_of_graph hOld).1] at hOldMem
  rw [(lists_of_graph hNew).1] at hNewMem
  obtain ⟨_, _, rfl⟩ := List.mem_map.mp hOldMem
  obtain ⟨_, _, hSame⟩ := List.mem_map.mp hNewMem
  cases congrArg Vertex.stamp hSame

theorem exists_graph_iff {spec : GraphSpec} : (∃ g, graph side spec = .ok g) ↔ spec.Consistent := by
  have hVertices := (admits_addVertex side).exists_foldlM_iff (verticesMade_empty side) spec.vertices
  have hEdges : ∀ declared, spec.vertices.foldlM (addVertex side) SchemaGraph.empty = .ok declared →
      ((∃ g, spec.edges.foldlM (addEdge side) declared = .ok g) ↔ GraphSpec.EdgesAgree spec.ids spec.edges) := by
    intro declared hLoop
    have hDeclared := (admits_addVertex side).made_of_foldlM (verticesMade_empty side) hLoop
    have hStart : EdgesMade declared.vertices [] declared := ⟨rfl, by rw [hDeclared.2]; rfl⟩
    rw [(admits_addEdge side declared.vertices).exists_foldlM_iff hStart spec.edges, ids_of_verticesMade hDeclared]
    rfl
  simp only [graph, bind_eq_ok_iff]
  constructor
  · rintro ⟨g, declared, hLoop, hRest⟩
    exact ⟨hVertices.mp ⟨declared, hLoop⟩, (hEdges declared hLoop).mp ⟨g, hRest⟩⟩
  · rintro ⟨hIds, hAgree⟩
    obtain ⟨declared, hLoop⟩ := hVertices.mpr hIds
    obtain ⟨g, hRest⟩ := (hEdges declared hLoop).mpr hAgree
    exact ⟨g, declared, hLoop, hRest⟩

end Resolve

namespace Matching

variable {m m' : Matching} {source target : Vertex}

/-- A pair is taken exactly if it has both sides in common with an earlier pair, or none. -/
theorem exists_put_iff : (∃ m', m.put source target = .ok m') ↔
    ∀ pair ∈ m.pairs, pair.1 = source ↔ pair.2 = target := by
  constructor
  · rintro ⟨m', hPut⟩ pair hMem
    have hTarget := target?_eq_some_iff.mpr hMem
    have hSource := source?_eq_some_iff.mpr hMem
    unfold put at hPut
    split at hPut
    · rename_i hNoTarget hNoSource
      constructor
      · rintro rfl
        cases hTarget.symm.trans hNoTarget
      · rintro rfl
        cases hSource.symm.trans hNoSource
    · rename_i partner hPartner
      split at hPut
      · subst partner
        have hPair := target?_eq_some_iff.mp hPartner
        constructor
        · rintro rfl
          cases hTarget.symm.trans hPartner
          rfl
        · rintro rfl
          cases hSource.symm.trans (source?_eq_some_iff.mpr hPair)
          rfl
      · cases hPut
    · cases hPut
  · intro h
    unfold put
    split
    · exact ⟨_, rfl⟩
    · rename_i partner hPartner
      rw [if_pos ((h _ (target?_eq_some_iff.mp hPartner)).mp rfl)]
      exact ⟨_, rfl⟩
    · rename_i partner hNone hPartner
      have hPair := source?_eq_some_iff.mp hPartner
      obtain rfl : partner = source := (h _ hPair).mpr rfl
      cases hNone.symm.trans (target?_eq_some_iff.mpr hPair)

theorem mem_pairs_of_put (h : m.put source target = .ok m') (pair : Vertex × Vertex) :
    pair ∈ m'.pairs ↔ pair ∈ m.pairs ∨ pair = (source, target) := by
  unfold put at h
  split at h
  · cases h
    exact List.mem_append.trans (or_congr_right List.mem_singleton)
  · rename_i partner hPartner
    split at h
    · subst partner
      cases h
      have hPair := target?_eq_some_iff.mp hPartner
      exact ⟨.inl, fun hMem => hMem.elim id (· ▸ hPair)⟩
    · cases h
  · cases h

end Matching

namespace Resolve

variable {oldGraph newGraph : SchemaGraph}

/-- The matching has a pair for each entry, and for nothing else. -/
def MatchesMade (oldGraph newGraph : SchemaGraph) (specs : List MatchSpec) (m : Matching) : Prop :=
  MatchSpec.Agree (oldGraph.vertices.map (·.id)) (newGraph.vertices.map (·.id)) specs ∧
  ∀ source target, (source, target) ∈ m.pairs ↔ source ∈ oldGraph ∧ target ∈ newGraph ∧ ⟨source.id, target.id⟩ ∈ specs

theorem addMatch_eq_ok_iff {m m' : Matching} {spec : MatchSpec} : addMatch oldGraph newGraph m spec = .ok m' ↔
    ∃ source ∈ oldGraph, ∃ target ∈ newGraph, source.id = spec.source ∧ target.id = spec.target ∧
      m.put source target = .ok m' := by
  simp only [addMatch, bind_eq_ok_iff, vertex_eq_ok_iff, mapError_eq_ok_iff]
  constructor
  · rintro ⟨source, ⟨hSource, hSourceId⟩, target, ⟨hTarget, hTargetId⟩, hPut⟩
    exact ⟨source, hSource, target, hTarget, hSourceId, hTargetId, hPut⟩
  · rintro ⟨source, hSource, target, hTarget, hSourceId, hTargetId, hPut⟩
    exact ⟨source, ⟨hSource, hSourceId⟩, target, ⟨hTarget, hTargetId⟩, hPut⟩

/-- An entry agrees with those that a matching is made from exactly if the matching takes its pair. -/
theorem agree_concat_iff {m : Matching} {specs : List MatchSpec} (hMade : MatchesMade oldGraph newGraph specs m)
    {source target : Vertex} (hSource : source ∈ oldGraph) (hTarget : target ∈ newGraph) :
    MatchSpec.Agree (oldGraph.vertices.map (·.id)) (newGraph.vertices.map (·.id)) (specs ++ [⟨source.id, target.id⟩]) ↔
      ∀ pair ∈ m.pairs, pair.1 = source ↔ pair.2 = target := by
  obtain ⟨⟨hIds, hOneToOne⟩, hPairs⟩ := hMade
  -- By ids or by vertices: within a graph it is the same whether two sides agree.
  have hSame : ∀ old ∈ oldGraph, ∀ new ∈ newGraph,
      (old = source ↔ new = target) ↔ (old.id = source.id ↔ new.id = target.id) := by
    intro old hOld new hNew
    have hOldSame : old = source ↔ old.id = source.id := ⟨congrArg _, SchemaGraph.eq_of_id_eq hSource hOld⟩
    have hNewSame : new = target ↔ new.id = target.id := ⟨congrArg _, SchemaGraph.eq_of_id_eq hTarget hNew⟩
    rw [hOldSame, hNewSame]
  constructor
  · rintro ⟨_, hAgree⟩ ⟨old, new⟩ hMem
    obtain ⟨hOld, hNew, hSpec⟩ := (hPairs old new).mp hMem
    exact (hSame old hOld new hNew).mpr
      (hAgree _ (List.mem_append_left _ hSpec) _ (List.mem_append_right _ (List.mem_singleton_self _)))
  · intro h
    have hNext : ∀ spec ∈ specs, spec.source = source.id ↔ spec.target = target.id := by
      intro spec hSpec
      obtain ⟨hSourceId, hTargetId⟩ := hIds spec hSpec
      obtain ⟨old, hOld, hOldId⟩ := List.mem_map.mp hSourceId
      obtain ⟨new, hNew, hNewId⟩ := List.mem_map.mp hTargetId
      have hMem : (old, new) ∈ m.pairs := by
        refine (hPairs old new).mpr ⟨hOld, hNew, ?_⟩
        rwa [hOldId, hNewId]
      rw [← hOldId, ← hNewId]
      exact (hSame old hOld new hNew).mp (h _ hMem)
    simp only [MatchSpec.Agree, List.forall_mem_append, List.forall_mem_singleton]
    refine ⟨⟨hIds, List.mem_map_of_mem hSource, List.mem_map_of_mem hTarget⟩, ?_, ?_, trivial⟩
    · intro spec hSpec
      exact ⟨hOneToOne spec hSpec, hNext spec hSpec⟩
    · intro spec hSpec
      rw [eq_comm, hNext spec hSpec, eq_comm]

theorem admits_addMatch (oldGraph newGraph : SchemaGraph) : Admits (addMatch oldGraph newGraph)
    (MatchSpec.Agree (oldGraph.vertices.map (·.id)) (newGraph.vertices.map (·.id)))
    (MatchesMade oldGraph newGraph) where
  agree hMade := hMade.1
  agree_left hAgree := by
    obtain ⟨hIds, hOneToOne⟩ := hAgree
    exact ⟨fun m hMem => hIds m (List.mem_append_left _ hMem), fun m hMem m' hMem' =>
      hOneToOne m (List.mem_append_left _ hMem) m' (List.mem_append_left _ hMem')⟩
  admitted {specs m spec} hMade hAgree := by
    obtain ⟨hSourceId, hTargetId⟩ := hAgree.1 spec (by simp)
    obtain ⟨source, hSource, hSourceEq⟩ := List.mem_map.mp hSourceId
    obtain ⟨target, hTarget, hTargetEq⟩ := List.mem_map.mp hTargetId
    have hSpec : spec = ⟨source.id, target.id⟩ := by rw [hSourceEq, hTargetEq]
    rw [hSpec, agree_concat_iff hMade hSource hTarget] at hAgree
    obtain ⟨m', hPut⟩ := Matching.exists_put_iff.mpr hAgree
    exact ⟨m', addMatch_eq_ok_iff.mpr ⟨source, hSource, target, hTarget, hSourceEq, hTargetEq, hPut⟩⟩
  made {specs m spec m'} hMade hAdd := by
    obtain ⟨source, hSource, target, hTarget, hSourceEq, hTargetEq, hPut⟩ := addMatch_eq_ok_iff.mp hAdd
    have hSpec : spec = ⟨source.id, target.id⟩ := by rw [hSourceEq, hTargetEq]
    subst hSpec
    refine ⟨(agree_concat_iff hMade hSource hTarget).mpr (Matching.exists_put_iff.mp ⟨m', hPut⟩), ?_⟩
    intro old new
    rw [Matching.mem_pairs_of_put hPut, hMade.2, List.mem_append, List.mem_singleton, MatchSpec.mk.injEq, Prod.mk.injEq]
    constructor
    · rintro (⟨hOld, hNew, hMem⟩ | ⟨rfl, rfl⟩)
      · exact ⟨hOld, hNew, .inl hMem⟩
      · exact ⟨hSource, hTarget, .inr ⟨rfl, rfl⟩⟩
    · rintro ⟨hOld, hNew, hMem | ⟨hOldId, hNewId⟩⟩
      · exact .inl ⟨hOld, hNew, hMem⟩
      · exact .inr ⟨SchemaGraph.eq_of_id_eq hSource hOld hOldId, SchemaGraph.eq_of_id_eq hTarget hNew hNewId⟩

theorem matchesMade_empty (oldGraph newGraph : SchemaGraph) : MatchesMade oldGraph newGraph [] Matching.empty :=
  ⟨⟨by simp, by simp⟩, by simp [Matching.empty]⟩

end Resolve

end SchemaChange
