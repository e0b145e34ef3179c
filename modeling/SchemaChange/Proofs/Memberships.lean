import SchemaChange.Proofs.FieldVertices
import SchemaChange.Proofs.Schema

/-! # Implementations and members of unions

The last two passes read edges only. An edge with the label of an implementation tells of the object or interface that
it leaves, and any edge that leaves a union tells of that union. What was inserted is filed under the name of the type in
the new graph, what was deleted under the name that the type has now.
-/
namespace SchemaChange

/-- The edge that an operation inserts or deletes. -/
def EditOperation.placedEdge? : EditOperation → Option Edge
  | insertEdge edge => some edge
  | deleteEdge edge => some edge
  | _ => none

/-- What an operation tells of an implementation: the implementer, the change of that type which would cover it, the name
in whose record it is filed, and the detail. -/
inductive Inputs.TellsOfImplements (inputs : Inputs) :
    EditOperation → Container → Change → String → MemberChange → Prop
  | added {edge : Edge} {c : Container} : isImplementsLabel edge.label = true → c.vertex = edge.source →
    TellsOfImplements inputs (.insertEdge edge) c .added c.name (.implementsAdded edge.target.name)
  | removed {edge : Edge} {c : Container} : isImplementsLabel edge.label = true → c.vertex = edge.source →
    TellsOfImplements inputs (.deleteEdge edge) c .removed (inputs.matching.currentName c.vertex)
      (.implementsRemoved edge.target.name)

/-- What an operation tells of a union, whatever the label of its edge. -/
inductive Inputs.TellsOfUnion (inputs : Inputs) : EditOperation → Vertex → Change → String → Detail → Prop
  | added {edge : Edge} : edge.source.kind = .type .union →
    TellsOfUnion inputs (.insertEdge edge) edge.source .added edge.source.name (.unionMemberAdded edge.target.name)
  | removed {edge : Edge} : edge.source.kind = .type .union →
    TellsOfUnion inputs (.deleteEdge edge) edge.source .removed (inputs.matching.currentName edge.source)
      (.unionMemberRemoved edge.target.name)

/-- A finding about a union: a skip if the union's record covers it, else its detail. -/
def FiledForUnion (ledgers : Ledgers) (v : Vertex) (cover : Change) (name : String) (detail : Detail)
    (finding : Finding) : Prop :=
  (ledgers.union.change? v.name = some cover ∧ ∃ reason, finding = .skipped reason) ∨
  (ledgers.union.change? v.name ≠ some cover ∧ finding = .details .union name [detail])

section

variable {inputs : Inputs} {ledgers : Ledgers} {op : EditOperation} {finding : Finding}

theorem Container.eq_of_vertex_eq {c d : Container} (h : d.vertex = c.vertex) : d = c :=
  Option.some.inj ((ofVertex?_eq_some_iff.mpr h).symm.trans (ofVertex?_eq_some_iff.mpr rfl))

theorem Inputs.TellsOfImplements.unique {c c' : Container} {cover cover' : Change} {name name' : String}
    {change change' : MemberChange} (h : inputs.TellsOfImplements op c cover name change)
    (h' : inputs.TellsOfImplements op c' cover' name' change') :
    c' = c ∧ cover' = cover ∧ name' = name ∧ change' = change := by
  cases h with
  | added _ hSource =>
    cases h' with
    | added _ hSource' =>
      cases Container.eq_of_vertex_eq (hSource'.trans hSource.symm)
      exact ⟨rfl, rfl, rfl, rfl⟩
  | removed _ hSource =>
    cases h' with
    | removed _ hSource' =>
      cases Container.eq_of_vertex_eq (hSource'.trans hSource.symm)
      exact ⟨rfl, rfl, rfl, rfl⟩

theorem Inputs.TellsOfUnion.unique {v v' : Vertex} {cover cover' : Change} {name name' : String} {detail detail' : Detail}
    (h : inputs.TellsOfUnion op v cover name detail) (h' : inputs.TellsOfUnion op v' cover' name' detail') :
    v' = v ∧ cover' = cover ∧ name' = name ∧ detail' = detail := by
  cases h <;> cases h' <;> exact ⟨rfl, rfl, rfl, rfl⟩

/-- What the fourth pass finds about an operation: what the operation tells, unless covered, or nothing. -/
theorem tells_of_judgeImplementsEdge (h : inputs.judgeImplementsEdge ledgers op = .ok finding) :
    (∃ c cover name change, inputs.TellsOfImplements op c cover name change ∧
      FiledUnlessCovered ledgers c cover name change finding) ∨
    ((∀ c cover name change, ¬ inputs.TellsOfImplements op c cover name change) ∧ finding = .nothing) := by
  cases op with
  | insertEdge edge =>
    by_cases hLabel : isImplementsLabel edge.label = true
    · obtain ⟨c, hc, rfl⟩ := (Inputs.judgeImplementsInserted_eq_ok_iff hLabel).mp h
      exact .inl ⟨_, _, _, _, .added hLabel (Container.ofVertex?_eq_some_iff.mp hc), filedUnlessCovered_added⟩
    · rw [Inputs.judgeImplementsEdge, if_neg hLabel] at h
      cases h
      refine .inr ⟨?_, rfl⟩
      intro _ _ _ _ hTells
      cases hTells with
      | added hLabel' => exact hLabel hLabel'
  | deleteEdge edge =>
    by_cases hLabel : isImplementsLabel edge.label = true
    · obtain ⟨c, hc, rfl⟩ := (Inputs.judgeImplementsDeleted_eq_ok_iff hLabel).mp h
      exact .inl ⟨_, _, _, _, .removed hLabel (Container.ofVertex?_eq_some_iff.mp hc), filedUnlessCovered_removed⟩
    · rw [Inputs.judgeImplementsEdge, if_neg hLabel] at h
      cases h
      refine .inr ⟨?_, rfl⟩
      intro _ _ _ _ hTells
      cases hTells with
      | removed hLabel' => exact hLabel hLabel'
  | insertVertex | deleteVertex | changeVertex | changeEdge =>
    cases h
    exact .inr ⟨by rintro _ _ _ _ ⟨⟩, rfl⟩

/-- What the last pass finds about an operation: what the operation tells, unless covered, or nothing. -/
theorem tells_of_judgeUnionMember (h : inputs.judgeUnionMember ledgers op = .ok finding) :
    (∃ v cover name detail, inputs.TellsOfUnion op v cover name detail ∧
      FiledForUnion ledgers v cover name detail finding) ∨
    ((∀ v cover name detail, ¬ inputs.TellsOfUnion op v cover name detail) ∧ finding = .nothing) := by
  cases op with
  | insertEdge edge =>
    simp only [Inputs.judgeUnionMember] at h
    split at h
    · rename_i hKind
      refine .inl ⟨_, _, _, _, .added hKind, ?_⟩
      split at h
      · rename_i hAdded
        cases h
        exact .inl ⟨Ledger.wasAdded_iff.mp hAdded, _, rfl⟩
      · rename_i hAdded
        cases h
        exact .inr ⟨fun h => hAdded (Ledger.wasAdded_iff.mpr h), rfl⟩
    · rename_i hKind
      cases h
      refine .inr ⟨?_, rfl⟩
      intro _ _ _ _ hTells
      cases hTells with
      | added hKind' => exact hKind hKind'
  | deleteEdge edge =>
    simp only [Inputs.judgeUnionMember] at h
    split at h
    · rename_i hKind
      refine .inl ⟨_, _, _, _, .removed hKind, ?_⟩
      split at h
      · rename_i hRemoved
        cases h
        exact .inl ⟨Ledger.wasRemoved_iff.mp hRemoved, _, rfl⟩
      · rename_i hRemoved
        cases h
        exact .inr ⟨fun h => hRemoved (Ledger.wasRemoved_iff.mpr h), rfl⟩
    · rename_i hKind
      cases h
      refine .inr ⟨?_, rfl⟩
      intro _ _ _ _ hTells
      cases hTells with
      | removed hKind' => exact hKind hKind'
  | insertVertex | deleteVertex | changeVertex | changeEdge =>
    cases h
    exact .inr ⟨by rintro _ _ _ _ ⟨⟩, rfl⟩

end

end SchemaChange
