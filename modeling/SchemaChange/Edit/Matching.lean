import SchemaChange.Graph.Basic

/-! # Matchings of old and new vertices

A matching pairs vertices of the old graph with vertices of the new one. No vertex has two partners, on either
side; the type carries this. A pair that contradicts an earlier one is refused.
-/
namespace SchemaChange

/-- A pair that gives a vertex a second partner. -/
structure MatchingConflict where
  source : Vertex
  target : Vertex
  deriving DecidableEq, Repr

def MatchingConflict.message (c : MatchingConflict) : String :=
  "Conflicting mapping for " ++ c.source.describe ++ " -> " ++ c.target.describe

structure Matching where
  pairs : List (Vertex × Vertex)
  sources_nodup : (pairs.map Prod.fst).Nodup
  targets_nodup : (pairs.map Prod.snd).Nodup

namespace Matching

def empty : Matching := ⟨[], List.nodup_nil, List.nodup_nil⟩

def size (m : Matching) : Nat := m.pairs.length

def target? (m : Matching) (source : Vertex) : Option Vertex :=
  (m.pairs.find? (·.1 = source)).map (·.2)

def source? (m : Matching) (target : Vertex) : Option Vertex :=
  (m.pairs.find? (·.2 = target)).map (·.1)

theorem source_not_mem_of_target? {m : Matching} {source : Vertex} (h : m.target? source = none) :
    source ∉ m.pairs.map Prod.fst := by
  intro hMem
  obtain ⟨p, hp, rfl⟩ := List.mem_map.1 hMem
  simpa using List.find?_eq_none.1 (Option.map_eq_none_iff.1 h) p hp

theorem target_not_mem_of_source? {m : Matching} {target : Vertex} (h : m.source? target = none) :
    target ∉ m.pairs.map Prod.snd := by
  intro hMem
  obtain ⟨p, hp, rfl⟩ := List.mem_map.1 hMem
  simpa using List.find?_eq_none.1 (Option.map_eq_none_iff.1 h) p hp

/-- Records a pair. A pair that is there already changes nothing. -/
def put (m : Matching) (source target : Vertex) : Except MatchingConflict Matching :=
  match hTarget : m.target? source, hSource : m.source? target with
  | none, none => .ok {
      pairs := m.pairs ++ [(source, target)]
      sources_nodup := by
        rw [List.map_append]
        exact nodup_concat m.sources_nodup (source_not_mem_of_target? hTarget)
      targets_nodup := by
        rw [List.map_append]
        exact nodup_concat m.targets_nodup (target_not_mem_of_source? hSource) }
  | some partner, _ => if partner = target then .ok m else .error ⟨source, target⟩
  | none, some _ => .error ⟨source, target⟩

/-- The name an old vertex has in the new graph; its own if it was not matched. -/
def currentName (m : Matching) (source : Vertex) : String :=
  ((m.target? source).getD source).name

end Matching

end SchemaChange
