import SchemaChange.Proofs.Walk

/-! # What each pass judges

For each kind of operation, exactly when it is judged without failure and what is found. Apart from the graphs and the
matching, the judgements read from the ledgers only which containers are recorded as added or removed and which fields
as added.
-/
namespace SchemaChange

theorem ok_eq_ok_iff {ε α : Type} {a b : α} : (.ok a : Except ε α) = .ok b ↔ b = a := by
  rw [Except.ok.injEq, eq_comm]

theorem ok_ite_eq_ok_iff {ε α : Type} {p : Prop} [Decidable p] {a b c : α} :
    (if p then .ok a else .ok b : Except ε α) = .ok c ↔ c = if p then a else b := by
  split <;> exact ok_eq_ok_iff

theorem ite_ok_eq_ok_iff {test : Bool} {found finding : Finding} {judged : Except Failure Finding} :
    (if test = true then .ok found else judged) = .ok finding ↔
      (test = true ∧ finding = found) ∨ (test = false ∧ judged = .ok finding) := by
  cases test with
  | true => simpa using eq_comm
  | false => simp

namespace Inputs

variable {inputs : Inputs} {ledgers : Ledgers} {finding : Finding}

@[simp] theorem container_eq_ok_iff {g : SchemaGraph} {field : Vertex} {c : Container} :
    container g field = .ok c ↔ g.containerOf field = .ok c := by
  unfold container
  cases g.containerOf field <;> simp

@[simp] theorem argumentOwner_eq_ok_iff {g : SchemaGraph} {argument : Vertex} {owner : ArgumentOwner} :
    argumentOwner g argument = .ok owner ↔ g.argumentOwner argument = .ok owner := by
  unfold argumentOwner
  cases g.argumentOwner argument <;> simp

/-- An argument of a directive concerns no record; one of a field is judged by what the field's type is. -/
theorem bind_argumentOwner_eq_ok_iff {g : SchemaGraph} {argument : Vertex}
    {judge : ArgumentOwner → Except Failure Finding} (hDirective : ∀ v, judge (.directive v) = .ok .nothing) :
    (argumentOwner g argument >>= judge) = .ok finding ↔
      (∃ directive, g.argumentOwner argument = .ok (.directive directive) ∧ finding = .nothing) ∨
      ∃ owner, g.argumentOwner argument = .ok (.field owner) ∧ judge (.field owner) = .ok finding := by
  rw [bind_eq_ok_iff]
  simp only [argumentOwner_eq_ok_iff]
  constructor
  · rintro ⟨owner, hOwner, h⟩
    cases owner with
    | directive directive => exact .inl ⟨directive, hOwner, ok_eq_ok_iff.mp ((hDirective directive).symm.trans h)⟩
    | field owner => exact .inr ⟨owner, hOwner, h⟩
  · rintro (⟨directive, hOwner, rfl⟩ | ⟨owner, hOwner, h⟩)
    · exact ⟨_, hOwner, hDirective directive⟩
    · exact ⟨_, hOwner, h⟩

@[simp] theorem read_eq_ok_iff {label : String} {info : TypeLabel} :
    TypeLabel.read label = .ok info ↔ TypeLabel.decode? label = some info := by
  unfold TypeLabel.read
  cases TypeLabel.decode? label <;> simp

theorem judgeFieldChanged_eq_ok_iff {source target : Vertex} (hName : source.name ≠ target.name) :
    inputs.judgeFieldChanged ledgers source target = .ok finding ↔
      ∃ c, inputs.newGraph.containerOf target = .ok c ∧
        finding = if ledgers.containerAdded c then .skipped (.containerAdded c.name)
          else .members c c.name [.fieldRenamed source.name target.name] := by
  rw [judgeFieldChanged, if_neg hName, bind_eq_ok_iff]
  simp only [container_eq_ok_iff, ok_ite_eq_ok_iff]

theorem judgeFieldAdded_eq_ok_iff {field : Vertex} :
    inputs.judgeFieldAdded ledgers field = .ok finding ↔
      ∃ c, inputs.newGraph.containerOf field = .ok c ∧
        finding = if ledgers.containerAdded c then .skipped (.containerAdded c.name)
          else .members c c.name [.fieldAdded field.name] := by
  rw [judgeFieldAdded, bind_eq_ok_iff]
  simp only [container_eq_ok_iff, ok_ite_eq_ok_iff]

theorem judgeFieldRemoved_eq_ok_iff {field : Vertex} :
    inputs.judgeFieldRemoved ledgers field = .ok finding ↔
      ∃ c, inputs.oldGraph.containerOf field = .ok c ∧
        finding = if ledgers.containerRemoved c then .skipped (.containerRemoved c.name)
          else .members c (inputs.matching.currentName c.vertex) [.fieldRemoved field.name] := by
  rw [judgeFieldRemoved, bind_eq_ok_iff]
  simp only [container_eq_ok_iff, ok_ite_eq_ok_iff]

theorem judgeArgumentRemoved_eq_ok_iff {argument : Vertex} :
    inputs.judgeArgumentRemoved ledgers argument = .ok finding ↔
      (∃ directive, inputs.oldGraph.argumentOwner argument = .ok (.directive directive) ∧ finding = .nothing) ∨
      ∃ owner, inputs.oldGraph.argumentOwner argument = .ok (.field owner) ∧
        ((inputs.matching.target? owner = none ∧ finding = .skipped (.fieldRemoved owner.name)) ∨
        ∃ newField, inputs.matching.target? owner = some newField ∧
          ∃ c, inputs.oldGraph.containerOf owner = .ok c ∧
            finding = if ledgers.containerRemoved c then .skipped (.containerRemoved c.name)
              else .members c (inputs.matching.currentName c.vertex)
                [.argumentRemoved newField.name argument.name]) := by
  rw [judgeArgumentRemoved, bind_argumentOwner_eq_ok_iff (fun _ => rfl)]
  apply or_congr_right
  apply exists_congr
  intro owner
  apply and_congr_right
  intro _
  cases hTarget : inputs.matching.target? owner with
  | none => simpa [hTarget] using eq_comm
  | some newField => simp [hTarget, bind_eq_ok_iff, ok_ite_eq_ok_iff]

@[simp] theorem pairedTypeEdge_eq_ok_iff {vertex : Vertex} {op : EditOperation} {removed : Edge} :
    inputs.pairedTypeEdge vertex op = .ok removed ↔
      ∃ old, inputs.matching.source? vertex = some old ∧ removedTypeEdge? inputs.operations old = some removed := by
  unfold pairedTypeEdge
  cases inputs.matching.source? vertex with
  | none => simp
  | some old =>
    cases hRemoved : removedTypeEdge? inputs.operations old with
    | none => simp [hRemoved]
    | some edge => simp [hRemoved]

theorem judgeFieldTypeInserted_eq_ok_iff {edge : Edge} {op : EditOperation} :
    inputs.judgeFieldTypeInserted ledgers edge op = .ok finding ↔
      ∃ c, inputs.newGraph.containerOf edge.source = .ok c ∧
        ((ledgers.containerAdded c = true ∧ finding = .skipped (.containerAdded c.name)) ∨
        (ledgers.containerAdded c = false ∧
          ((ledgers.fieldAdded c edge.source.name = true ∧ finding = .skipped (.fieldAdded edge.source.name)) ∨
          (ledgers.fieldAdded c edge.source.name = false ∧
            ∃ new, TypeLabel.decode? edge.label = some new ∧
            ∃ removed, inputs.pairedTypeEdge edge.source op = .ok removed ∧
            ∃ old, TypeLabel.decode? removed.label = some old ∧
              finding = .members c c.name [.fieldRetyped edge.source.name old.type new.type])))) := by
  simp only [judgeFieldTypeInserted, bind_eq_ok_iff, container_eq_ok_iff, ite_ok_eq_ok_iff, read_eq_ok_iff,
    ok_eq_ok_iff]

theorem judgeFieldTypeChanged_eq_ok_iff {source target : Edge} :
    inputs.judgeFieldTypeChanged ledgers source target = .ok finding ↔
      ∃ c, inputs.newGraph.containerOf target.source = .ok c ∧
        ((ledgers.containerAdded c = true ∧ finding = .skipped (.containerAdded c.name)) ∨
        (ledgers.containerAdded c = false ∧
          ∃ old, TypeLabel.decode? source.label = some old ∧
          ∃ new, TypeLabel.decode? target.label = some new ∧
            finding = .members c c.name [.fieldRetyped target.source.name old.type new.type])) := by
  simp only [judgeFieldTypeChanged, bind_eq_ok_iff, container_eq_ok_iff, ite_ok_eq_ok_iff, read_eq_ok_iff,
    ok_eq_ok_iff]

theorem judgeArgumentTypeInserted_eq_ok_iff {edge : Edge} {op : EditOperation} :
    inputs.judgeArgumentTypeInserted ledgers edge op = .ok finding ↔
      (∃ directive, inputs.newGraph.argumentOwner edge.source = .ok (.directive directive) ∧ finding = .nothing) ∨
      ∃ owner, inputs.newGraph.argumentOwner edge.source = .ok (.field owner) ∧
        ∃ c, inputs.newGraph.containerOf owner = .ok c ∧
          ((ledgers.containerAdded c = true ∧ finding = .skipped (.containerAdded c.name)) ∨
          (ledgers.containerAdded c = false ∧
            ((ledgers.fieldAdded c owner.name = true ∧ finding = .skipped (.fieldAdded owner.name)) ∨
            (ledgers.fieldAdded c owner.name = false ∧
              (((inputs.matching.source? edge.source).isNone = true ∧
                finding = .skipped (.argumentAdded edge.source.name)) ∨
              ((inputs.matching.source? edge.source).isNone = false ∧
                ∃ removed, inputs.pairedTypeEdge edge.source op = .ok removed ∧
                ∃ old, TypeLabel.decode? removed.label = some old ∧
                ∃ new, TypeLabel.decode? edge.label = some new ∧
                  finding = .members c c.name (argumentChanges owner.name edge.source.name old new))))))) := by
  rw [judgeArgumentTypeInserted, bind_argumentOwner_eq_ok_iff (fun _ => rfl)]
  simp only [bind_eq_ok_iff, container_eq_ok_iff, ite_ok_eq_ok_iff, read_eq_ok_iff, ok_eq_ok_iff]

theorem judgeArgumentTypeChanged_eq_ok_iff {source target : Edge} :
    inputs.judgeArgumentTypeChanged ledgers source target = .ok finding ↔
      (∃ directive, inputs.newGraph.argumentOwner target.source = .ok (.directive directive) ∧ finding = .nothing) ∨
      ∃ owner, inputs.newGraph.argumentOwner target.source = .ok (.field owner) ∧
        ∃ c, inputs.newGraph.containerOf owner = .ok c ∧
          ((ledgers.containerAdded c = true ∧ finding = .skipped (.containerAdded c.name)) ∨
          (ledgers.containerAdded c = false ∧
            ∃ old, TypeLabel.decode? source.label = some old ∧
            ∃ new, TypeLabel.decode? target.label = some new ∧
              finding = .members c c.name (argumentChanges owner.name target.source.name old new))) := by
  rw [judgeArgumentTypeChanged, bind_argumentOwner_eq_ok_iff (fun _ => rfl)]
  simp only [bind_eq_ok_iff, container_eq_ok_iff, ite_ok_eq_ok_iff, read_eq_ok_iff, ok_eq_ok_iff]

@[simp] theorem implementer_eq_ok_iff {vertex : Vertex} {op : EditOperation} {c : Container} :
    implementer vertex op = .ok c ↔ Container.ofVertex? vertex = some c := by
  unfold implementer
  cases Container.ofVertex? vertex <;> simp

theorem judgeImplementsInserted_eq_ok_iff {edge : Edge} (hLabel : isImplementsLabel edge.label = true) :
    inputs.judgeImplementsEdge ledgers (.insertEdge edge) = .ok finding ↔
      ∃ c, Container.ofVertex? edge.source = some c ∧
        finding = if ledgers.containerAdded c then .skipped (.implementerAdded c.name)
          else .members c c.name [.implementsAdded edge.target.name] := by
  simp only [judgeImplementsEdge, hLabel, if_true, bind_eq_ok_iff, implementer_eq_ok_iff, ok_ite_eq_ok_iff]

theorem judgeImplementsDeleted_eq_ok_iff {edge : Edge} (hLabel : isImplementsLabel edge.label = true) :
    inputs.judgeImplementsEdge ledgers (.deleteEdge edge) = .ok finding ↔
      ∃ c, Container.ofVertex? edge.source = some c ∧
        finding = if ledgers.containerRemoved c then .skipped (.implementerRemoved c.name)
          else .members c (inputs.matching.currentName c.vertex) [.implementsRemoved edge.target.name] := by
  simp only [judgeImplementsEdge, hLabel, if_true, bind_eq_ok_iff, implementer_eq_ok_iff, ok_ite_eq_ok_iff]

theorem fits_ite_members {pass : Pass} {p : Prop} [Decidable p] {reason : SkipReason} {c : Container} {name : String}
    {change : MemberChange} (h : (Detail.member c.kind change).recordedBy = pass) :
    (if p then .skipped reason else .members c name [change] : Finding).Fits pass := by
  split
  · exact Finding.fits_skipped pass reason
  · exact Finding.fits_members (by simpa using h)

theorem fits_argumentChanges {c : Container} {name field argument : String} {old new : TypeLabel} :
    (Finding.members c name (argumentChanges field argument old new)).Fits .typeEdges := by
  apply Finding.fits_members
  intro change hChange
  rcases List.mem_append.mp hChange with hType | hDefault
  · split at hType
    · cases hType
    · cases List.mem_singleton.mp hType
      rfl
  · split at hDefault
    · cases hDefault
    · cases List.mem_singleton.mp hDefault
      rfl

theorem fits_of_judgeTypeVertex {op : EditOperation} (h : judgeTypeVertex op = .ok finding) :
    finding.Fits .typeVertices := by
  unfold judgeTypeVertex at h
  repeat' split at h
  all_goals cases h <;> trivial

theorem fits_of_judgeFieldVertex {op : EditOperation} (h : inputs.judgeFieldVertex ledgers op = .ok finding) :
    finding.Fits .fieldVertices := by
  cases op with
  | changeVertex source target =>
    simp only [judgeFieldVertex] at h
    split at h
    · by_cases hName : source.name = target.name
      · rw [judgeFieldChanged, if_pos hName] at h
        cases h
        trivial
      · obtain ⟨c, _, rfl⟩ := (judgeFieldChanged_eq_ok_iff hName).mp h
        exact fits_ite_members rfl
    · cases h
      trivial
  | insertVertex target =>
    simp only [judgeFieldVertex] at h
    split at h
    · obtain ⟨c, _, rfl⟩ := judgeFieldAdded_eq_ok_iff.mp h
      exact fits_ite_members rfl
    · cases h
      trivial
  | deleteVertex source =>
    simp only [judgeFieldVertex] at h
    split at h
    · obtain ⟨c, _, rfl⟩ := judgeFieldRemoved_eq_ok_iff.mp h
      exact fits_ite_members rfl
    · obtain ⟨_, _, rfl⟩ | ⟨_, _, ⟨_, rfl⟩ | ⟨_, _, _, _, rfl⟩⟩ := judgeArgumentRemoved_eq_ok_iff.mp h
      · trivial
      · trivial
      · exact fits_ite_members rfl
    · cases h
      trivial
  | insertEdge | deleteEdge | changeEdge =>
    cases h
    trivial

theorem fits_of_judgeTypeEdge {op : EditOperation} (h : inputs.judgeTypeEdge ledgers op = .ok finding) :
    finding.Fits .typeEdges := by
  cases op with
  | insertEdge edge =>
    simp only [judgeTypeEdge] at h
    split at h
    · split at h
      · obtain ⟨_, _, rfl⟩ | ⟨_, _, _, _, ⟨_, rfl⟩ | ⟨_, ⟨_, rfl⟩ | ⟨_, ⟨_, rfl⟩ | ⟨_, _, _, _, _, _, _, rfl⟩⟩⟩⟩ :=
          judgeArgumentTypeInserted_eq_ok_iff.mp h
        · trivial
        · trivial
        · trivial
        · trivial
        · exact fits_argumentChanges
      · obtain ⟨_, _, ⟨_, rfl⟩ | ⟨_, ⟨_, rfl⟩ | ⟨_, _, _, _, _, _, _, rfl⟩⟩⟩ := judgeFieldTypeInserted_eq_ok_iff.mp h
        · trivial
        · trivial
        · exact Finding.fits_members (by simp [Detail.recordedBy])
      · cases h
        trivial
    · cases h
      trivial
  | changeEdge source target =>
    simp only [judgeTypeEdge] at h
    split at h
    · split at h
      · obtain ⟨_, _, ⟨_, rfl⟩ | ⟨_, _, _, _, _, rfl⟩⟩ := judgeFieldTypeChanged_eq_ok_iff.mp h
        · trivial
        · exact Finding.fits_members (by simp [Detail.recordedBy])
      · obtain ⟨_, _, rfl⟩ | ⟨_, _, _, _, ⟨_, rfl⟩ | ⟨_, _, _, _, _, rfl⟩⟩ := judgeArgumentTypeChanged_eq_ok_iff.mp h
        · trivial
        · trivial
        · exact fits_argumentChanges
      · cases h
        trivial
    · cases h
      trivial
  | insertVertex | deleteVertex | changeVertex | deleteEdge =>
    cases h
    trivial

theorem fits_of_judgeImplementsEdge {op : EditOperation} (h : inputs.judgeImplementsEdge ledgers op = .ok finding) :
    finding.Fits .implementsEdges := by
  cases op with
  | insertEdge edge =>
    by_cases hLabel : isImplementsLabel edge.label = true
    · obtain ⟨c, _, rfl⟩ := (judgeImplementsInserted_eq_ok_iff hLabel).mp h
      exact fits_ite_members rfl
    · rw [judgeImplementsEdge, if_neg hLabel] at h
      cases h
      trivial
  | deleteEdge edge =>
    by_cases hLabel : isImplementsLabel edge.label = true
    · obtain ⟨c, _, rfl⟩ := (judgeImplementsDeleted_eq_ok_iff hLabel).mp h
      exact fits_ite_members rfl
    · rw [judgeImplementsEdge, if_neg hLabel] at h
      cases h
      trivial
  | insertVertex | deleteVertex | changeVertex | changeEdge =>
    cases h
    trivial

theorem fits_of_judgeUnionMember {op : EditOperation} (h : inputs.judgeUnionMember ledgers op = .ok finding) :
    finding.Fits .unionMembers := by
  unfold judgeUnionMember at h
  repeat' split at h
  all_goals cases h
  all_goals first | trivial | simp [Finding.Fits, Detail.kind, Detail.recordedBy]

end Inputs

theorem Pass.fits_of_judge {pass : Pass} {inputs : Inputs} {ledgers : Ledgers} {op : EditOperation} {finding : Finding}
    (h : pass.judge inputs ledgers op = .ok finding) : finding.Fits pass := by
  cases pass with
  | typeVertices => exact Inputs.fits_of_judgeTypeVertex h
  | fieldVertices => exact Inputs.fits_of_judgeFieldVertex h
  | typeEdges => exact Inputs.fits_of_judgeTypeEdge h
  | implementsEdges => exact Inputs.fits_of_judgeImplementsEdge h
  | unionMembers => exact Inputs.fits_of_judgeUnionMember h

end SchemaChange
