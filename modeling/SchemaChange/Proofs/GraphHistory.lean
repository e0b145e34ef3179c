import SchemaChange.Proofs.Histories
import SchemaChange.Proofs.Stores.Graph

/-! # Histories of a graph

Vertices and edges are added by calls in any order, some of which are refused. Four tables hold a graph, and an
addition changes them one after the other; still no call stops between two changes, and after every history the tables
agree with each other and with the accepted calls. So a vertex of the graph has the accepted edges at it, and a field or
argument is owned by the one vertex of the right kind that has an edge to it.
-/
namespace SchemaChange

open History

namespace GraphStore

def insertVertex (v : Vertex) : Procedure GraphStore GraphError Unit := do
  match (← get).vertex? v.id with
  | some existing => if existing ≠ v then throw (.raised (.duplicateVertex v.id))
  | none => pure ()
  modify fun s => { s with vertices := s.vertices.set v.id v }
  modify fun s => { s with outgoing := s.outgoing.setDefault v.id [] }
  modify fun s => { s with incoming := s.incoming.setDefault v.id [] }

def expectEnd (v : Vertex) : Procedure GraphStore GraphError Unit := do
  if (← get).vertex? v.id ≠ some v then throw (.raised (.endNotInGraph v))

/-- The edge stands in its own table before the lists at its ends are looked up. -/
def insertEdge (e : Edge) : Procedure GraphStore GraphError Unit := do
  expectEnd e.source
  expectEnd e.target
  if ((← get).edges.get? e.ends).isSome then throw (.raised (.duplicateEdge e.source.id e.target.id))
  modify fun s => { s with edges := s.edges.set e.ends e }
  let leaving ← require (.keyMissing e.source.id) ((← get).outgoing.get? e.source.id)
  modify fun s => { s with outgoing := s.outgoing.set e.source.id (leaving ++ [e]) }
  let arriving ← require (.keyMissing e.target.id) ((← get).incoming.get? e.target.id)
  modify fun s => { s with incoming := s.incoming.set e.target.id (arriving ++ [e]) }

/-- Each vertex of the store has its two lists of edges. -/
def HasLists (s : GraphStore) : Prop := ∀ v, s.vertex? v.id = some v →
  (∃ leaving, s.outgoing.get? v.id = some leaving) ∧ ∃ arriving, s.incoming.get? v.id = some arriving

variable {s : GraphStore}

theorem perform_insertVertex (s : GraphStore) (v : Vertex) : perform (insertVertex v) s =
    match s.addVertex v with
    | .ok s' => (.ok (), s')
    | .error halt => (.error halt, s) := by
  simp only [addVertex, insertVertex, perform_get_bind]
  cases s.vertex? v.id with
  | none => simp [put]
  | some existing => by_cases hSame : existing = v <;> simp [hSame, put, Guarded.raise]

theorem perform_expectEnd_bind (v : Vertex) (rest : Unit → Procedure GraphStore GraphError Unit) :
    perform (expectEnd v >>= rest) s =
      if s.vertex? v.id = some v then perform (rest ()) s else (.error (.raised (.endNotInGraph v)), s) := by
  by_cases h : s.vertex? v.id = some v <;> simp [expectEnd, h]

/-- Both lists are found, so the procedure does not stop once it has begun to change the tables. -/
theorem perform_insertEdge (h : s.HasLists) (e : Edge) : perform (insertEdge e) s =
    match s.addEdge e with
    | .ok s' => (.ok (), s')
    | .error halt => (.error halt, s) := by
  simp only [addEdge, insertEdge, perform_expectEnd_bind, perform_get_bind]
  by_cases hSource : s.vertex? e.source.id = some e.source
  · by_cases hTarget : s.vertex? e.target.id = some e.target
    · obtain ⟨leaving, hLeaving⟩ := (h e.source hSource).1
      obtain ⟨arriving, hArriving⟩ := (h e.target hTarget).2
      cases (s.edges.get? e.ends).isSome with
      | false => simp [hSource, hTarget, hLeaving, hArriving]
      | true => simp [hSource, hTarget, Guarded.raise]
    · simp [hSource, hTarget, Guarded.raise]
  · simp [hSource, Guarded.raise]

theorem hasLists_ofGraph (g : SchemaGraph) : (ofGraph g).HasLists := by
  intro v h
  rw [vertex?_ofGraph] at h
  exact ⟨⟨_, by rw [outgoing_get?_ofGraph, h]; rfl⟩, _, by rw [incoming_get?_ofGraph, h]; rfl⟩

end GraphStore

inductive GraphCall where
  | vertex (vertex : Vertex)
  | edge (edge : Edge)
  deriving DecidableEq, Repr

namespace GraphCall

def apply (g : SchemaGraph) : GraphCall → Except GraphError SchemaGraph
  | vertex v => g.addVertex v
  | edge e => g.addEdge e

def inPlace : GraphCall → Procedure GraphStore GraphError Unit
  | vertex v => GraphStore.insertVertex v
  | edge e => GraphStore.insertEdge e

def vertices (calls : List GraphCall) : List Vertex := calls.filterMap fun
  | vertex v => some v
  | edge _ => none

def edges (calls : List GraphCall) : List Edge := calls.filterMap fun
  | vertex _ => none
  | edge e => some e

section

variable (calls : List GraphCall)

@[simp] theorem vertices_concat_vertex (v : Vertex) : vertices (calls ++ [vertex v]) = vertices calls ++ [v] := by
  simp [vertices]

@[simp] theorem vertices_concat_edge (e : Edge) : vertices (calls ++ [edge e]) = vertices calls := by
  simp [vertices]

@[simp] theorem edges_concat_vertex (v : Vertex) : edges (calls ++ [vertex v]) = edges calls := by
  simp [edges]

@[simp] theorem edges_concat_edge (e : Edge) : edges (calls ++ [edge e]) = edges calls ++ [e] := by
  simp [edges]

end

theorem mirrors_inPlace : Mirrors inPlace apply GraphStore.ofGraph := by
  intro g call
  cases call with
  | vertex v =>
    rw [inPlace, GraphStore.perform_insertVertex, GraphStore.ofGraph_addVertex, next, apply]
    cases g.addVertex v <;> rfl
  | edge e =>
    rw [inPlace, GraphStore.perform_insertEdge (GraphStore.hasLists_ofGraph g), GraphStore.ofGraph_addEdge, next, apply]
    cases g.addEdge e <;> rfl

end GraphCall

/-- The answers to calls on empty tables, and the tables after them. -/
def GraphStore.history (calls : List GraphCall) : List (Guarded GraphError Unit) × GraphStore :=
  attempts GraphCall.inPlace GraphStore.empty calls

namespace SchemaGraph

/-- The graph that calls make of the empty one. -/
def after (calls : List GraphCall) : SchemaGraph := state GraphCall.apply empty calls

def acceptedCalls (calls : List GraphCall) : List GraphCall := accepted GraphCall.apply empty calls

variable {g g' : SchemaGraph}

theorem addVertex_of_mem {v : Vertex} (h : v ∈ g) : g.addVertex v = .ok g := by
  rw [addVertex_of_some (vertex?_eq_some_iff.mpr ⟨h, rfl⟩), if_pos rfl]

theorem exists_addVertex_error_iff {v : Vertex} :
    (∃ error, g.addVertex v = .error error) ↔ ∃ w ∈ g, w.id = v.id ∧ w ≠ v := by
  cases h : g.vertex? v.id with
  | none =>
    obtain ⟨g', hAdd, _⟩ := exists_addVertex h
    have hFresh := vertex?_eq_none_iff.mp h
    constructor
    · rintro ⟨error, hError⟩
      cases hAdd.symm.trans hError
    · rintro ⟨w, hMem, hId, _⟩
      exact absurd (List.mem_map.mpr ⟨w, hMem, hId⟩) hFresh
  | some held =>
    obtain ⟨hMem, hId⟩ := vertex?_eq_some_iff.mp h
    rw [addVertex_of_some h]
    constructor
    · rintro ⟨error, hError⟩
      split at hError
      · cases hError
      · exact ⟨held, hMem, hId, ‹_›⟩
    · rintro ⟨w, hw, hwId, hne⟩
      obtain rfl : w = held := eq_of_id_eq hMem hw (hwId.trans hId.symm)
      exact ⟨_, if_neg hne⟩

theorem exists_addEdge_error_iff {e : Edge} : (∃ error, g.addEdge e = .error error) ↔
    e.source ∉ g ∨ e.target ∉ g ∨ ∃ held ∈ g.edges, held.ends = e.ends := by
  by_cases hSource : e.source ∈ g
  · by_cases hTarget : e.target ∈ g
    · cases h : g.edgeAt? e.ends with
      | none =>
        obtain ⟨g', hAdd⟩ := exists_addEdge hSource hTarget h
        have hFresh := edgeAt?_eq_none_iff.mp h
        simp only [hAdd, hSource, hTarget]
        simpa using hFresh
      | some held =>
        have hHeld := edgeAt?_eq_some_iff.mp h
        rw [addEdge_of_some hSource hTarget h]
        exact ⟨fun _ => .inr (.inr ⟨held, hHeld⟩), fun _ => ⟨_, rfl⟩⟩
    · exact ⟨fun _ => .inr (.inl hTarget), fun _ => ⟨_, addEdge_of_target_not_mem hSource hTarget⟩⟩
  · exact ⟨fun _ => .inl hSource, fun _ => ⟨_, addEdge_of_source_not_mem hSource⟩⟩

/-- The graph lists what the calls add, each vertex once. -/
structure MadeOf (calls : List GraphCall) (g : SchemaGraph) : Prop where
  vertices : g.vertices = (GraphCall.vertices calls).eraseDups
  edges : g.edges = GraphCall.edges calls

theorem MadeOf.concat {calls : List GraphCall} {call : GraphCall} (h : MadeOf calls g) (hCall : call.apply g = .ok g') :
    MadeOf (calls ++ [call]) g' := by
  cases call with
  | vertex v =>
    have hMem : v ∈ GraphCall.vertices calls ↔ v ∈ g := by
      rw [← List.mem_eraseDups, ← h.vertices]
      rfl
    have hVertices := eraseDups_concat (GraphCall.vertices calls) v
    rw [GraphCall.apply] at hCall
    by_cases hv : v ∈ g
    · cases (addVertex_of_mem hv).symm.trans hCall
      refine ⟨?_, by simpa using h.edges⟩
      rw [GraphCall.vertices_concat_vertex, hVertices, if_pos (hMem.mpr hv), h.vertices]
    · cases hHeld : g.vertex? v.id with
      | none =>
        obtain ⟨made, hAdd, hMadeVertices, hMadeEdges⟩ := exists_addVertex hHeld
        cases hAdd.symm.trans hCall
        refine ⟨?_, by simpa using hMadeEdges.trans h.edges⟩
        rw [GraphCall.vertices_concat_vertex, hVertices, if_neg (mt hMem.mp hv), hMadeVertices, h.vertices]
      | some held =>
        have hne : held ≠ v := fun hSame => hv (hSame ▸ (vertex?_eq_some_iff.mp hHeld).1)
        rw [addVertex_of_some hHeld, if_neg hne] at hCall
        cases hCall
  | edge e =>
    obtain ⟨hMadeVertices, hMadeEdges⟩ := lists_of_addEdge hCall
    refine ⟨?_, ?_⟩
    · rw [hMadeVertices, h.vertices, GraphCall.vertices_concat_edge]
    · rw [hMadeEdges, h.edges, GraphCall.edges_concat_edge]

theorem madeOf_after (calls : List GraphCall) : MadeOf (acceptedCalls calls) (after calls) :=
  made_accepted ⟨rfl, rfl⟩ MadeOf.concat calls

/-- A vertex of one of the kinds with an edge to another vertex. -/
def Owns (edges : List Edge) (kinds : List VertexKind) (owner v : Vertex) : Prop :=
  owner.kind ∈ kinds ∧ ∃ e ∈ edges, e.source = owner ∧ e.target = v

def IsSoleOwner (edges : List Edge) (kinds : List VertexKind) (owner v : Vertex) : Prop :=
  ∀ u, Owns edges kinds u v ↔ u = owner

theorem soleOf_eq_ok_iff {α ε : Type} {unexpected : Nat → ε} {owners : List α} {owner : α} :
    soleOf unexpected owners = .ok owner ↔ owners = [owner] := by
  refine ⟨eq_of_soleOf, ?_⟩
  rintro rfl
  rfl

/-- Two edges into one vertex have different sources, so the owners that are listed differ. -/
theorem nodup_sources_edgesInto (g : SchemaGraph) (v : Vertex) : ((g.edgesInto v).map (·.source)).Nodup := by
  have hEnds : ((g.edgesInto v).map (·.ends)).Nodup := g.ends_nodup.sublist (List.filter_sublist.map _)
  refine List.Nodup.map_on ?_ hEnds.of_map
  intro e he e' he' hSource
  have hTarget : ∀ f ∈ g.edgesInto v, f.target.id = v.id := fun f hf => of_decide_eq_true (List.mem_filter.mp hf).2
  refine List.inj_on_of_nodup_map hEnds he he' ?_
  rw [Edge.ends, Edge.ends, hSource, hTarget e he, hTarget e' he']

theorem eq_singleton_iff_of_nodup {α : Type} {xs : List α} (h : xs.Nodup) {x : α} :
    xs = [x] ↔ ∀ y, y ∈ xs ↔ y = x := by
  rw [← List.perm_singleton, List.perm_ext_iff_of_nodup h (List.nodup_singleton x)]
  simp

/-- The edges into a vertex are looked up by its id, so a vertex with the id of `w` has the owner of `w`. -/
theorem soleOwner_eq_ok_iff {v w owner : Vertex} {kinds : List VertexKind} (hw : w ∈ g) (hId : w.id = v.id) :
    (GraphStore.ofGraph g).soleOwner v v.kind kinds = .ok owner ↔ IsSoleOwner g.edges kinds owner w := by
  have hNodup : (((g.edgesInto v).map (·.source)).filter fun u => kinds.contains u.kind).Nodup :=
    (nodup_sources_edgesInto g v).filter _
  rw [GraphStore.soleOwner, if_neg (not_not_intro rfl), soleOf_eq_ok_iff, GraphStore.edgesInto_ofGraph,
    eq_singleton_iff_of_nodup hNodup]
  refine forall_congr' fun u => iff_congr ?_ .rfl
  simp only [List.mem_filter, List.mem_map, edgesInto_of_id_eq hId, edgesInto_eq hw, List.contains_iff_mem,
    decide_eq_true_eq, Owns]
  constructor
  · rintro ⟨⟨e, ⟨hEdge, hTarget⟩, hSource⟩, hKind⟩
    exact ⟨hKind, e, hEdge, hSource, hTarget⟩
  · rintro ⟨hKind, e, hEdge, hSource, hTarget⟩
    exact ⟨⟨e, ⟨hEdge, hTarget⟩, hSource⟩, hKind⟩

theorem soleOf_eq_error {α ε : Type} {unexpected : Nat → ε} {owners : List α}
    (h : ∀ owner, soleOf unexpected owners ≠ .ok owner) :
    soleOf unexpected owners = .error (unexpected owners.length) := by
  match owners with
  | [] => rfl
  | [owner] => exact absurd rfl (h owner)
  | _ :: _ :: _ => rfl

section

variable {v w : Vertex} (hw : w ∈ g) (hId : w.id = v.id)
include hw hId

theorem containerOf_map_eq_ok_iff {owner : Vertex} (hKind : v.kind = .field) :
    (g.containerOf v).map (·.vertex) = .ok owner ↔
      IsSoleOwner g.edges [.type .object, .type .interface] owner w := by
  rw [← GraphStore.containerOf_ofGraph, GraphStore.containerOf, ← hKind, soleOwner_eq_ok_iff hw hId]

theorem argumentOwner_map_eq_ok_iff {owner : Vertex} (hKind : v.kind = .argument) :
    (g.argumentOwner v).map (·.vertex) = .ok owner ↔ IsSoleOwner g.edges [.field, .directive] owner w := by
  rw [← GraphStore.argumentOwner_ofGraph, GraphStore.argumentOwner, ← hKind, soleOwner_eq_ok_iff hw hId]

theorem containerOf_eq_error (hKind : v.kind = .field)
    (h : ¬ ∃ owner, IsSoleOwner g.edges [.type .object, .type .interface] owner w) :
    ∃ found, g.containerOf v = .error (.notUnique [.type .object, .type .interface] v found) := by
  rw [containerOf, if_pos hKind]
  refine ⟨_, soleOf_eq_error fun c hOk => h ⟨c.vertex, (containerOf_map_eq_ok_iff hw hId hKind).mp ?_⟩⟩
  rw [containerOf, if_pos hKind, hOk]
  rfl

theorem argumentOwner_eq_error (hKind : v.kind = .argument)
    (h : ¬ ∃ owner, IsSoleOwner g.edges [.field, .directive] owner w) :
    ∃ found, g.argumentOwner v = .error (.notUnique [.field, .directive] v found) := by
  rw [argumentOwner, if_pos hKind]
  refine ⟨_, soleOf_eq_error fun owner hOk => h ⟨owner.vertex, (argumentOwner_map_eq_ok_iff hw hId hKind).mp ?_⟩⟩
  rw [argumentOwner, if_pos hKind, hOk]
  rfl

end

/-- What calls on an empty graph leave, and how the graph goes on from there. -/
structure Coherent (calls : List GraphCall) : Prop where
  /-- The tables answer as the graph does and hold it; no call finds a list missing. -/
  history_eq : GraphStore.history calls =
    ((answers GraphCall.apply empty calls).map .plain, .ofGraph (after calls))
  lookups_eq : ∀ u v, (GraphStore.history calls).2.edge? u v = (after calls).edge? u v ∧
    (GraphStore.history calls).2.edgesFrom v = (after calls).edgesFrom v ∧
    (GraphStore.history calls).2.edgesInto v = (after calls).edgesInto v
  /-- A call that stops has changed no table, and the later calls go as if it had not been made. -/
  stopped : ∀ call later halt tables,
    perform call.inPlace (GraphStore.history calls).2 = (.error halt, tables) →
      tables = (GraphStore.history calls).2 ∧
      (GraphStore.history (calls ++ call :: later)).2 = (GraphStore.history (calls ++ later)).2 ∧
      ∃ rest, (GraphStore.history (calls ++ later)).1 = (GraphStore.history calls).1 ++ rest ∧
        (GraphStore.history (calls ++ call :: later)).1 = (GraphStore.history calls).1 ++ .error halt :: rest
  addVertex_error_iff : ∀ v, (∃ error, (after calls).addVertex v = .error error) ↔
    ∃ w ∈ after calls, w.id = v.id ∧ w ≠ v
  addVertex_again : ∀ v ∈ after calls, perform (GraphCall.vertex v).inPlace (GraphStore.history calls).2 =
    (.ok (), (GraphStore.history calls).2)
  addEdge_error_iff : ∀ e, (∃ error, (after calls).addEdge e = .error error) ↔
    e.source ∉ after calls ∨ e.target ∉ after calls ∨ ∃ held ∈ (after calls).edges, held.ends = e.ends
  vertices_eq : (after calls).vertices = (GraphCall.vertices (acceptedCalls calls)).eraseDups
  edges_eq : (after calls).edges = GraphCall.edges (acceptedCalls calls)
  vertices_nodup : (after calls).vertices.Nodup
  edges_nodup : (after calls).edges.Nodup
  ends_mem : ∀ e ∈ (after calls).edges, e.source ∈ after calls ∧ e.target ∈ after calls
  edgesFrom_eq : ∀ v ∈ after calls,
    (after calls).edgesFrom v = (GraphCall.edges (acceptedCalls calls)).filter (·.source = v)
  edgesInto_eq : ∀ v ∈ after calls,
    (after calls).edgesInto v = (GraphCall.edges (acceptedCalls calls)).filter (·.target = v)
  containerOf_iff : ∀ v ∈ after calls, v.kind = .field → ∀ owner,
    ((after calls).containerOf v).map (·.vertex) = .ok owner ↔
      IsSoleOwner (GraphCall.edges (acceptedCalls calls)) [.type .object, .type .interface] owner v
  containerOf_error : ∀ v ∈ after calls, v.kind = .field →
    (¬ ∃ owner, IsSoleOwner (GraphCall.edges (acceptedCalls calls)) [.type .object, .type .interface] owner v) →
    ∃ found, (after calls).containerOf v = .error (.notUnique [.type .object, .type .interface] v found)
  argumentOwner_iff : ∀ v ∈ after calls, v.kind = .argument → ∀ owner,
    ((after calls).argumentOwner v).map (·.vertex) = .ok owner ↔
      IsSoleOwner (GraphCall.edges (acceptedCalls calls)) [.field, .directive] owner v
  argumentOwner_error : ∀ v ∈ after calls, v.kind = .argument →
    (¬ ∃ owner, IsSoleOwner (GraphCall.edges (acceptedCalls calls)) [.field, .directive] owner v) →
    ∃ found, (after calls).argumentOwner v = .error (.notUnique [.field, .directive] v found)

theorem history_eq (calls : List GraphCall) : GraphStore.history calls =
    ((answers GraphCall.apply empty calls).map .plain, .ofGraph (after calls)) :=
  GraphCall.mirrors_inPlace.attempts_eq empty calls

theorem edgesFrom_eq {v : Vertex} (hv : v ∈ g) : g.edgesFrom v = g.edges.filter (·.source = v) := by
  apply List.filter_congr
  intro e he
  rw [decide_eq_decide]
  exact ⟨eq_of_id_eq hv (g.ends_mem e he).1, fun h => h ▸ rfl⟩

/-- Every history of calls on an empty graph leaves a coherent graph. -/
theorem coherent_of_calls (calls : List GraphCall) : Coherent calls where
  history_eq := history_eq calls
  lookups_eq u v := by simp [history_eq]
  stopped _ _ _ _ := GraphCall.mirrors_inPlace.attempts_of_stopped (s := empty)
  addVertex_error_iff _ := exists_addVertex_error_iff
  addVertex_again v hv := by
    have hAdd : (GraphCall.vertex v).apply (after calls) = .ok (after calls) := addVertex_of_mem hv
    rw [history_eq, GraphCall.mirrors_inPlace, next_of_ok hAdd, hAdd]
    rfl
  addEdge_error_iff _ := exists_addEdge_error_iff
  vertices_eq := (madeOf_after calls).vertices
  edges_eq := (madeOf_after calls).edges
  vertices_nodup := (after calls).ids_nodup.of_map
  edges_nodup := (after calls).ends_nodup.of_map
  ends_mem := (after calls).ends_mem
  edgesFrom_eq v hv := (edgesFrom_eq hv).trans (congrArg _ (madeOf_after calls).edges)
  edgesInto_eq v hv := (edgesInto_eq hv).trans (congrArg _ (madeOf_after calls).edges)
  containerOf_iff v hv hKind owner := (madeOf_after calls).edges ▸ containerOf_map_eq_ok_iff hv rfl hKind
  containerOf_error v hv hKind := (madeOf_after calls).edges ▸ containerOf_eq_error hv rfl hKind
  argumentOwner_iff v hv hKind owner := (madeOf_after calls).edges ▸ argumentOwner_map_eq_ok_iff hv rfl hKind
  argumentOwner_error v hv hKind := (madeOf_after calls).edges ▸ argumentOwner_eq_error hv rfl hKind

end SchemaGraph

end SchemaChange
