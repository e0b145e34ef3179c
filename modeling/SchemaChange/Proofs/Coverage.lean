import SchemaChange.Proofs.FieldVertices
import SchemaChange.Proofs.MatchedTypes

/-! # What covers a member

The later passes ask by name whether a type was added or removed as a whole and whether a field was added, and they ask
ledgers that still grow and hold old names beside new ones. Where names tell apart the types of each graph and the
fields of each container, the answers are about the very vertex that is asked for, and no moment of a run changes them.
-/
namespace SchemaChange

/-- A field has an edge from the container. -/
def SchemaGraph.Declares (g : SchemaGraph) (c : Container) (field : Vertex) : Prop :=
  field.kind = .field ∧ ∃ e ∈ g.edges, e.source = c.vertex ∧ e.target = field

/-- Two fields of one object or interface have different names. -/
def SchemaGraph.FieldsDistinct (g : SchemaGraph) : Prop :=
  ∀ e ∈ g.edges, ∀ e' ∈ g.edges, (Container.ofVertex? e.source).isSome = true → e'.source = e.source →
    e.target.kind = .field → e'.target.kind = .field → e'.target.name = e.target.name → e'.target = e.target

/-- Names tell the types of each graph and the fields of each new container apart, and the operations stay within the
graphs. -/
structure Inputs.TellsByName (inputs : Inputs) : Prop where
  old_names : inputs.oldGraph.NamesDistinct
  new_names : inputs.newGraph.NamesDistinct
  new_fields : inputs.newGraph.FieldsDistinct
  places : ∀ op ∈ inputs.operations, inputs.Places op

namespace SchemaGraph

variable {g : SchemaGraph} {c : Container} {v w : Vertex}

theorem FieldsDistinct.eq_of_declares (h : g.FieldsDistinct) (hv : g.Declares c v) (hw : g.Declares c w)
    (hName : w.name = v.name) : w = v := by
  obtain ⟨hvKind, e, he, hSource, rfl⟩ := hv
  obtain ⟨hwKind, e', he', hSource', rfl⟩ := hw
  refine h e he e' he' ?_ (hSource'.trans hSource.symm) hvKind hwKind hName
  rw [hSource, Container.ofVertex?_eq_some_iff.mpr rfl]
  rfl

theorem declares_of_containerOf (hv : v ∈ g) (h : g.containerOf v = .ok c) : g.Declares c v := by
  obtain ⟨e, he, hSource⟩ := exists_edge_of_containerOf h
  rw [edgesInto_eq hv, List.mem_filter, decide_eq_true_iff] at he
  exact ⟨kind_of_containerOf h, e, he.1, hSource, he.2⟩

/-- The container that is found for a field is the only one that declares it. -/
theorem Declares.eq_of_containerOf {c' : Container} (h : g.Declares c v) (hContainer : g.containerOf v = .ok c') :
    c = c' := by
  obtain ⟨hKind, e, he, hSource, hTarget⟩ := h
  rw [containerOf, if_pos hKind] at hContainer
  have hInto : e ∈ g.edgesInto v := List.mem_filter.mpr ⟨he, by simp [hTarget]⟩
  have hMem : c ∈ (g.edgesInto v).filterMap (Container.ofVertex? ·.source) :=
    List.mem_filterMap.mpr ⟨e, hInto, Container.ofVertex?_eq_some_iff.mpr hSource.symm⟩
  rwa [eq_of_soleOf hContainer, List.mem_singleton] at hMem

theorem Declares.container_mem (h : g.Declares c v) : c.vertex ∈ g := by
  obtain ⟨_, e, he, hSource, _⟩ := h
  exact hSource ▸ (g.ends_mem e he).1

end SchemaGraph

/-- What the tests of the ledgers answer about containers and unions: whether the operations insert or delete that very
vertex. -/
structure Ledgers.CoversTypes (ledgers : Ledgers) (inputs : Inputs) : Prop where
  containerAdded_iff : ∀ c : Container, c.vertex ∈ inputs.newGraph →
    (ledgers.containerAdded c = true ↔ .insertVertex c.vertex ∈ inputs.operations)
  containerRemoved_iff : ∀ c : Container, c.vertex ∈ inputs.oldGraph →
    (ledgers.containerRemoved c = true ↔ .deleteVertex c.vertex ∈ inputs.operations)
  unionAdded_iff : ∀ v ∈ inputs.newGraph, v.kind = .type .union →
    (ledgers.union.wasAdded v.name = true ↔ .insertVertex v ∈ inputs.operations)
  unionRemoved_iff : ∀ v ∈ inputs.oldGraph, v.kind = .type .union →
    (ledgers.union.wasRemoved v.name = true ↔ .deleteVertex v ∈ inputs.operations)

/-- What the ledgers answer about the fields of a container that was not added: whether the operations insert that very
field. -/
def Ledgers.CoversFields (ledgers : Ledgers) (inputs : Inputs) : Prop :=
  ∀ c field, inputs.newGraph.Declares c field → ledgers.containerAdded c = false →
    (ledgers.fieldAdded c field.name = true ↔ .insertVertex field ∈ inputs.operations)

section

variable {inputs : Inputs} {pass : Pass} {ledgers seeded : Ledgers} {kind : TypeKind} {name : String}

theorem change?_added_iff_of_holds (hPass : pass ≠ .typeVertices) (h : inputs.Holds pass ledgers) :
    (ledgers.get kind).change? name = some .added ↔ InsertsType inputs.operations kind name := by
  obtain ⟨seeded, ⟨found, hSeeded⟩, hRecords⟩ := h.exists_records hPass
  obtain ⟨journal, hJournal⟩ := hRecords kind
  exact (hJournal.change?_eq_added_iff name).trans ((change?_seeded_iff hSeeded).trans mem_seeds_added_iff)

theorem change?_removed_iff_of_holds (hPass : pass ≠ .typeVertices) (h : inputs.Holds pass ledgers) :
    (ledgers.get kind).change? name = some .removed ↔ DeletesType inputs.operations kind name := by
  obtain ⟨seeded, ⟨found, hSeeded⟩, hRecords⟩ := h.exists_records hPass
  obtain ⟨journal, hJournal⟩ := hRecords kind
  exact (hJournal.change?_eq_removed_iff name).trans ((change?_seeded_iff hSeeded).trans mem_seeds_removed_iff)

theorem Pass.Walks.mem_found_iff {before after : Ledgers} {operations : List EditOperation} {found : List Finding}
    {finding : Finding} (hPass : pass ≠ .typeVertices) (h : pass.Walks inputs before operations found after) :
    finding ∈ found ↔ ∃ op ∈ operations, pass.judge inputs before op = .ok finding := by
  rw [← List.mem_map_of_injective (f := (Except.ok : Finding → Except Failure Finding)) fun _ _ => Except.ok.inj,
    ← h.map_judge_eq hPass (.refl pass before), List.mem_map]

theorem Pass.Walks.exists_judge_before {before after : Ledgers} {operations : List EditOperation} {found : List Finding}
    (hPass : pass ≠ .typeVertices) (h : pass.Walks inputs before operations found after) {op : EditOperation}
    (hOp : op ∈ operations) : ∃ finding, pass.judge inputs before op = .ok finding := by
  have hMem : pass.judge inputs before op ∈ found.map .ok := by
    rw [← h.map_judge_eq hPass (.refl pass before)]
    exact List.mem_map_of_mem hOp
  obtain ⟨finding, _, hFinding⟩ := List.mem_map.mp hMem
  exact ⟨finding, hFinding.symm⟩

/-- The second pass enters the addition of a field for an inserted field only, under its container's name. -/
theorem mem_journal_fieldAdded_iff {op : EditOperation} {finding : Finding} {c : Container}
    (hJudge : Pass.fieldVertices.judge inputs seeded op = .ok finding) :
    (c.name, .member c.kind (.fieldAdded name)) ∈ finding.journal c.kind.toTypeKind ↔
      ∃ field c', op = .insertVertex field ∧ field.kind = .field ∧ field.name = name ∧
        inputs.newGraph.containerOf field = .ok c' ∧ c'.kind = c.kind ∧ c'.name = c.name ∧
        seeded.containerAdded c' = false := by
  constructor
  · intro hEntry
    obtain ⟨c', cover, filed, change, hTells, ⟨_, reason, rfl⟩ | ⟨hOpen, rfl⟩⟩ | ⟨_, hJournal⟩ :=
      tells_of_judgeFieldVertex hJudge
    · cases hEntry
    · rw [Finding.journal_members] at hEntry
      split at hEntry
      · simp only [List.map_cons, List.map_nil, List.mem_singleton, Prod.mk.injEq, Detail.member.injEq] at hEntry
        obtain ⟨hName, hKind, hChange⟩ := hEntry
        cases hTells with
        | @added field _ hField hContainer =>
          cases hChange
          refine ⟨field, c', rfl, hField, rfl, hContainer, hKind.symm, hName.symm, ?_⟩
          exact Bool.eq_false_iff.mpr fun hAdded => hOpen (Ledger.wasAdded_iff.mp hAdded)
        | renamed | removed | argumentRemoved => cases hChange
      · cases hEntry
    · rw [hJournal] at hEntry
      cases hEntry
  · rintro ⟨field, c', rfl, hField, rfl, hContainer, hKind, hName, hOpen⟩
    rw [Pass.judge, Inputs.judgeFieldVertex, if_pos hField] at hJudge
    obtain ⟨_, hContainer', rfl⟩ := Inputs.judgeFieldAdded_eq_ok_iff.mp hJudge
    cases hContainer.symm.trans hContainer'
    simp [hOpen, hKind, hName]

theorem fieldAdded_iff_of_walks {seeding found : List Finding}
    (hSeeded : Pass.typeVertices.Walks inputs Ledgers.empty inputs.operations seeding seeded)
    (hFields : Pass.fieldVertices.Walks inputs seeded inputs.operations found ledgers) (c : Container) :
    ledgers.fieldAdded c name = true ↔ ∃ field c', .insertVertex field ∈ inputs.operations ∧ field.kind = .field ∧
      field.name = name ∧ inputs.newGraph.containerOf field = .ok c' ∧ c'.kind = c.kind ∧ c'.name = c.name ∧
      seeded.containerAdded c' = false := by
  have hRecords := hFields.records (by decide) (fun _ _ _ => Pass.fits_of_judge) c.kind.toTypeKind
  rw [Ledgers.fieldAdded, List.contains_iff_mem, hRecords.details_eq, details_seeded hSeeded, List.nil_append,
    Journal.mem_detailsOf_iff, List.mem_flatMap]
  constructor
  · rintro ⟨finding, hFound, hEntry⟩
    obtain ⟨op, hOp, hJudge⟩ := (hFields.mem_found_iff (by decide)).mp hFound
    obtain ⟨field, c', rfl, hAdded⟩ := (mem_journal_fieldAdded_iff hJudge).mp hEntry
    exact ⟨field, c', hOp, hAdded⟩
  · rintro ⟨field, c', hOp, hAdded⟩
    obtain ⟨finding, hJudge⟩ := hFields.exists_judge_before (by decide) hOp
    exact ⟨finding, (hFields.mem_found_iff (by decide)).mpr ⟨_, hOp, hJudge⟩,
      (mem_journal_fieldAdded_iff hJudge).mpr ⟨field, c', rfl, hAdded⟩⟩

namespace Inputs.TellsByName

variable (h : inputs.TellsByName)
include h

theorem wasAdded_iff (hPass : pass ≠ .typeVertices) (hHolds : inputs.Holds pass ledgers) {v : Vertex}
    (hMem : v ∈ inputs.newGraph) (hKind : v.kind = .type kind) (hMembers : kind.hasMembers = true) :
    (ledgers.get kind).wasAdded v.name = true ↔ .insertVertex v ∈ inputs.operations := by
  rw [Ledger.wasAdded_iff, change?_added_iff_of_holds hPass hHolds]
  exact h.new_names.insertsType_iff (fun _ => h.places _) hMem hKind hMembers

theorem wasRemoved_iff (hPass : pass ≠ .typeVertices) (hHolds : inputs.Holds pass ledgers) {v : Vertex}
    (hMem : v ∈ inputs.oldGraph) (hKind : v.kind = .type kind) :
    (ledgers.get kind).wasRemoved v.name = true ↔ .deleteVertex v ∈ inputs.operations := by
  rw [Ledger.wasRemoved_iff, change?_removed_iff_of_holds hPass hHolds]
  exact h.old_names.deletesType_iff (fun _ => h.places _) hMem hKind

theorem coversTypes (hPass : pass ≠ .typeVertices) (hHolds : inputs.Holds pass ledgers) :
    ledgers.CoversTypes inputs where
  containerAdded_iff c hMem := h.wasAdded_iff hPass hHolds hMem c.kind_eq c.kind.hasMembers_toTypeKind
  containerRemoved_iff c hMem := h.wasRemoved_iff hPass hHolds hMem c.kind_eq
  unionAdded_iff _ hMem hKind := h.wasAdded_iff hPass hHolds hMem hKind rfl
  unionRemoved_iff _ hMem hKind := h.wasRemoved_iff hPass hHolds hMem hKind

/-- Containers with the same name in one kind are the same. -/
theorem container_eq {c c' : Container} (hMem : c.vertex ∈ inputs.newGraph) (hMem' : c'.vertex ∈ inputs.newGraph)
    (hKind : c'.kind.toTypeKind = c.kind.toTypeKind) (hName : c'.name = c.name) : c'.vertex = c.vertex := by
  refine h.new_names c.vertex hMem c'.vertex hMem' ?_ ?_ hName
  · rw [c.kind_eq]
    rfl
  · rw [c.kind_eq, c'.kind_eq, hKind]

/-- At every moment of the third pass an added field is one that the operations insert. -/
theorem coversFields (hHolds : inputs.Holds .typeEdges ledgers) : ledgers.CoversFields inputs := by
  obtain ⟨start, past, future, hStart, _, hWalk⟩ := hHolds
  obtain ⟨seeded, hSeeded, hRest⟩ := Pass.runAll_cons_eq_ok_iff.mp hStart
  obtain ⟨_, hFields, hEnd⟩ := Pass.runAll_cons_eq_ok_iff.mp hRest
  cases hEnd
  have hAlike := (Pass.walk_eq_ok_iff.mp hWalk).alike (by decide)
  have hAdded : seeded.containerAdded = ledgers.containerAdded :=
    (hFields.alike (by decide)).containerAdded_eq.trans hAlike.containerAdded_eq
  intro c field hDeclared hOpen
  rw [← hAlike.fields rfl, fieldAdded_iff_of_walks hSeeded hFields, hAdded]
  constructor
  · rintro ⟨inserted, c', hInserted, _, hName, hContainer, hKind, hContainerName, _⟩
    -- The container of that name and kind is `c` itself, and its field of that name is `field`.
    have hDeclared' := SchemaGraph.declares_of_containerOf (h.places _ hInserted) hContainer
    have hVertex := h.container_eq hDeclared.container_mem hDeclared'.container_mem (congrArg _ hKind) hContainerName
    rw [SchemaGraph.Declares, hVertex] at hDeclared'
    rwa [← h.new_fields.eq_of_declares hDeclared hDeclared' hName]
  · intro hInserted
    obtain ⟨finding, hJudge⟩ := hFields.exists_judge_before (by decide) hInserted
    rw [Pass.judge, Inputs.judgeFieldVertex, if_pos hDeclared.1] at hJudge
    obtain ⟨c', hContainer, _⟩ := Inputs.judgeFieldAdded_eq_ok_iff.mp hJudge
    cases hDeclared.eq_of_containerOf hContainer
    exact ⟨field, c, hInserted, hDeclared.1, rfl, hContainer, rfl, rfl, hOpen⟩

end Inputs.TellsByName

/-- At every moment past the first pass, whether or not the run gets to a report, a container or union is taken for
added or removed exactly if the operations insert or delete it; in the third pass, a field of a container that was not
added is taken for added exactly if they insert it. -/
theorem covers_of_holds (h : inputs.TellsByName) (hPass : pass ≠ .typeVertices) (hHolds : inputs.Holds pass ledgers) :
    ledgers.CoversTypes inputs ∧ (pass = .typeEdges → ledgers.CoversFields inputs) := by
  refine ⟨h.coversTypes hPass hHolds, ?_⟩
  rintro rfl
  exact h.coversFields hHolds

end

/-- The third pass of the sample, after some of its operations. -/
theorem covers_of_holds_sample : Sample.inputs.TellsByName ∧ ∃ ledgers, Sample.inputs.Holds .typeEdges ledgers ∧
    ledgers.CoversTypes Sample.inputs ∧ ledgers.CoversFields Sample.inputs := by
  have hNames : Sample.inputs.TellsByName := {
    old_names := by decide +kernel
    new_names := by decide +kernel
    new_fields := by unfold SchemaGraph.FieldsDistinct; decide +kernel
    places := by decide +kernel }
  obtain ⟨run, _⟩ := Inputs.analyze_eq_ok_iff.mp Sample.analyze_eq
  have hStart : (Pass.runAll Sample.inputs Ledgers.empty Pass.typeEdges.earlier).2 = .ok (run.left .fieldVertices) := by
    rw [Pass.earlier, Pass.runAll_cons_eq_ok_iff]
    refine ⟨_, run.walks_findings .typeVertices, ?_⟩
    rw [Pass.runAll_cons_eq_ok_iff]
    exact ⟨_, run.walks_findings .fieldVertices, rfl⟩
  have hSplit := (Sample.inputs.operations.take_append_drop 5).symm
  have hWalks := run.walks .typeEdges
  rw [hSplit] at hWalks
  obtain ⟨_, middle, _, _, hPast, _⟩ := Pass.walks_append_iff.mp hWalks
  have hHolds : Sample.inputs.Holds .typeEdges middle := ⟨_, _, _, hStart, hSplit, hPast.walk_eq⟩
  obtain ⟨hTypes, hFields⟩ := covers_of_holds hNames (by decide) hHolds
  exact ⟨hNames, middle, hHolds, hTypes, hFields rfl⟩

end SchemaChange
