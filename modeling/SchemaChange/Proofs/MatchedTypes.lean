import SchemaChange.Proofs.Classification
import SchemaChange.Proofs.Memberships
import SchemaChange.Proofs.TypeEdges

/-! # One record for a type and its partner

Records go by name, types are matched by identity. If names are distinct in each graph and every old type is either
deleted or matched, the two agree: the record under the name of a new type has what the operations tell of that type and
of the old type it comes from, and nothing of any other type, however names were swapped or used again.
-/
namespace SchemaChange

def TypeKind.hasMembers : TypeKind → Bool
  | object | interface | union => true
  | enum | inputObject | scalar => false

/-- The sources of an operation are in the old graph and its targets in the new one. -/
def Inputs.Places (inputs : Inputs) : EditOperation → Prop
  | .insertVertex target => target ∈ inputs.newGraph
  | .deleteVertex source => source ∈ inputs.oldGraph
  | .changeVertex source target => source ∈ inputs.oldGraph ∧ target ∈ inputs.newGraph
  | .insertEdge target => target ∈ inputs.newGraph.edges
  | .deleteEdge source => source ∈ inputs.oldGraph.edges
  | .changeEdge source target => source ∈ inputs.oldGraph.edges ∧ target ∈ inputs.newGraph.edges

instance (inputs : Inputs) : DecidablePred inputs.Places
  | .insertVertex target => inferInstanceAs (Decidable (target ∈ inputs.newGraph))
  | .deleteVertex source => inferInstanceAs (Decidable (source ∈ inputs.oldGraph))
  | .changeVertex source target =>
    inferInstanceAs (Decidable (source ∈ inputs.oldGraph ∧ target ∈ inputs.newGraph))
  | .insertEdge target => inferInstanceAs (Decidable (target ∈ inputs.newGraph.edges))
  | .deleteEdge source => inferInstanceAs (Decidable (source ∈ inputs.oldGraph.edges))
  | .changeEdge source target =>
    inferInstanceAs (Decidable (source ∈ inputs.oldGraph.edges ∧ target ∈ inputs.newGraph.edges))

/-- Names tell the types of each graph apart, and the operations and the matching account for every old type. -/
structure Inputs.AccountsForTypes (inputs : Inputs) : Prop where
  old_names : inputs.oldGraph.NamesDistinct
  new_names : inputs.newGraph.NamesDistinct
  places : ∀ op ∈ inputs.operations, inputs.Places op
  pairs : ∀ pair ∈ inputs.matching.pairs,
    pair.1 ∈ inputs.oldGraph ∧ pair.2 ∈ inputs.newGraph ∧ pair.1.kind = pair.2.kind
  deleted_or_matched : ∀ v ∈ inputs.oldGraph.vertices, ∀ kind, kind.hasMembers = true → v.kind = .type kind →
    .deleteVertex v ∈ inputs.operations ∨ (inputs.matching.target? v).isSome = true

/-- Where names tell types apart, a type that is inserted under the name of a type with members is that very type. -/
theorem SchemaGraph.NamesDistinct.insertsType_iff {g : SchemaGraph} {operations : List EditOperation} {v : Vertex}
    {kind : TypeKind} (h : g.NamesDistinct) (hTargets : ∀ w, .insertVertex w ∈ operations → w ∈ g) (hMem : v ∈ g)
    (hKind : v.kind = .type kind) (hMembers : kind.hasMembers = true) :
    InsertsType operations kind v.name ↔ .insertVertex v ∈ operations := by
  constructor
  · rintro ⟨w, hInserted, hwKind, hName, _⟩
    rwa [h v hMem w (hTargets w hInserted) (by rw [hKind]; rfl) (hwKind.trans hKind.symm) hName] at hInserted
  · intro hInserted
    refine ⟨v, hInserted, hKind, rfl, ?_⟩
    rintro ⟨rfl, _⟩
    cases hMembers

theorem SchemaGraph.NamesDistinct.deletesType_iff {g : SchemaGraph} {operations : List EditOperation} {v : Vertex}
    {kind : TypeKind} (h : g.NamesDistinct) (hSources : ∀ w, .deleteVertex w ∈ operations → w ∈ g) (hMem : v ∈ g)
    (hKind : v.kind = .type kind) : DeletesType operations kind v.name ↔ .deleteVertex v ∈ operations := by
  constructor
  · rintro ⟨w, hDeleted, hwKind, hName⟩
    rwa [h v hMem w (hSources w hDeleted) (by rw [hKind]; rfl) (hwKind.trans hKind.symm) hName] at hDeleted
  · intro hDeleted
    exact ⟨v, hDeleted, hKind, rfl⟩

/-- What an operation tells, in a pass, of the members that a type has in the new graph. -/
inductive Inputs.TellsOfNew (inputs : Inputs) (report : Report) : Pass → Vertex → EditOperation → List Detail → Prop
  | field {op : EditOperation} {c : Container} {name : String} {change : MemberChange} :
    inputs.TellsOfField op c .added name change → TellsOfNew inputs report .fieldVertices c.vertex op [.member c.kind change]
  | typeEdge {op : EditOperation} {c : Container} {name : String} {changes : List MemberChange} :
    inputs.GivesType report op c name changes →
    TellsOfNew inputs report .typeEdges c.vertex op (changes.map (.member c.kind))
  | implementation {op : EditOperation} {c : Container} {name : String} {change : MemberChange} :
    inputs.TellsOfImplements op c .added name change →
    TellsOfNew inputs report .implementsEdges c.vertex op [.member c.kind change]
  | unionMember {op : EditOperation} {v : Vertex} {name : String} {detail : Detail} :
    inputs.TellsOfUnion op v .added name detail → TellsOfNew inputs report .unionMembers v op [detail]

/-- What an operation tells, in a pass, of the members that a type had in the old graph. -/
inductive Inputs.TellsOfOld (inputs : Inputs) : Pass → Vertex → EditOperation → List Detail → Prop
  | field {op : EditOperation} {c : Container} {name : String} {change : MemberChange} :
    inputs.TellsOfField op c .removed name change → TellsOfOld inputs .fieldVertices c.vertex op [.member c.kind change]
  | implementation {op : EditOperation} {c : Container} {name : String} {change : MemberChange} :
    inputs.TellsOfImplements op c .removed name change →
    TellsOfOld inputs .implementsEdges c.vertex op [.member c.kind change]
  | unionMember {op : EditOperation} {v : Vertex} {name : String} {detail : Detail} :
    inputs.TellsOfUnion op v .removed name detail → TellsOfOld inputs .unionMembers v op [detail]

/-- What an operation gives, in a pass, to the record of a new type: what it tells of this type, unless the type was
inserted as a whole, and what it tells of the old type that became this one, unless that was deleted as a whole. -/
def Inputs.GivesTo (inputs : Inputs) (report : Report) (pass : Pass) (v : Vertex) (op : EditOperation)
    (details : List Detail) : Prop :=
  (inputs.TellsOfNew report pass v op details ∧ .insertVertex v ∉ inputs.operations) ∨
  ∃ old, inputs.matching.source? v = some old ∧ inputs.TellsOfOld pass old op details ∧
    .deleteVertex old ∉ inputs.operations

/-- The records of modifications belong to the types of the new graph, one to each. -/
structure Report.KeepsApart (report : Report) (inputs : Inputs) : Prop where
  keys : ∀ kind name details, report.change? kind name = some (.modified details) →
    ∃ v ∈ inputs.newGraph, v.kind = .type kind ∧ v.name = name
  once : ∀ kind, ((report.get kind).map Prod.fst).Nodup
  /-- The record under the name of a new type has what is given to that type, once each and in order. -/
  given : ∀ v ∈ inputs.newGraph.vertices, ∀ kind, v.kind = .type kind → ∀ pass,
    GivenInOrder (inputs.GivesTo report pass v) inputs.operations
      ((report.details kind v.name).filter (·.recordedBy = pass))

section

variable {inputs : Inputs} {report : Report} {pass : Pass} {op : EditOperation} {finding : Finding}

namespace Inputs

theorem TellsOfField.new {c : Container} {name : String} {change : MemberChange}
    (h : inputs.TellsOfField op c .added name change) : name = c.name ∧ c.vertex ∈ inputs.newGraph := by
  cases h with
  | renamed _ _ hContainer => exact ⟨rfl, SchemaGraph.source_mem_of_containerOf hContainer⟩
  | added _ hContainer => exact ⟨rfl, SchemaGraph.source_mem_of_containerOf hContainer⟩

theorem TellsOfField.old {c : Container} {name : String} {change : MemberChange}
    (h : inputs.TellsOfField op c .removed name change) :
    name = inputs.matching.currentName c.vertex ∧ c.vertex ∈ inputs.oldGraph := by
  cases h with
  | removed _ hContainer => exact ⟨rfl, SchemaGraph.source_mem_of_containerOf hContainer⟩
  | argumentRemoved _ _ _ hContainer => exact ⟨rfl, SchemaGraph.source_mem_of_containerOf hContainer⟩

theorem Typed.container_mem {v field : Vertex} {c : Container} (h : inputs.Typed v field c) :
    c.vertex ∈ inputs.newGraph := by
  cases h with
  | field _ hContainer => exact SchemaGraph.source_mem_of_containerOf hContainer
  | argument _ _ hContainer => exact SchemaGraph.source_mem_of_containerOf hContainer

theorem GivesType.new {c : Container} {name : String} {changes : List MemberChange}
    (h : inputs.GivesType report op c name changes) :
    name = c.name ∧ c.vertex ∈ inputs.newGraph ∧ ¬ report.Adds c := by
  cases h with
  | inserted _ hTyped hAdds => exact ⟨rfl, hTyped.container_mem, hAdds⟩
  | changed _ hTyped hAdds => exact ⟨rfl, hTyped.container_mem, hAdds⟩

theorem TellsOfImplements.new {c : Container} {name : String} {change : MemberChange}
    (h : inputs.TellsOfImplements op c .added name change) (hPlaces : inputs.Places op) :
    name = c.name ∧ c.vertex ∈ inputs.newGraph := by
  cases h with
  | added _ hSource => exact ⟨rfl, hSource ▸ (inputs.newGraph.ends_mem _ hPlaces).1⟩

theorem TellsOfImplements.old {c : Container} {name : String} {change : MemberChange}
    (h : inputs.TellsOfImplements op c .removed name change) (hPlaces : inputs.Places op) :
    name = inputs.matching.currentName c.vertex ∧ c.vertex ∈ inputs.oldGraph := by
  cases h with
  | removed _ hSource => exact ⟨rfl, hSource ▸ (inputs.oldGraph.ends_mem _ hPlaces).1⟩

theorem TellsOfNew.unique {v v' : Vertex} {details details' : List Detail} (h : inputs.TellsOfNew report pass v op details)
    (h' : inputs.TellsOfNew report pass v' op details') : v' = v ∧ details' = details := by
  cases h with
  | field h =>
    cases h' with
    | field h' =>
      obtain ⟨rfl, _, _, rfl⟩ := h.unique h'
      exact ⟨rfl, rfl⟩
  | typeEdge h =>
    cases h' with
    | typeEdge h' =>
      obtain ⟨rfl, _, rfl⟩ := h.unique h'
      exact ⟨rfl, rfl⟩
  | implementation h =>
    cases h' with
    | implementation h' =>
      obtain ⟨rfl, _, _, rfl⟩ := h.unique h'
      exact ⟨rfl, rfl⟩
  | unionMember h =>
    cases h' with
    | unionMember h' =>
      obtain ⟨rfl, _, _, rfl⟩ := h.unique h'
      exact ⟨rfl, rfl⟩

theorem TellsOfOld.unique {v v' : Vertex} {details details' : List Detail} (h : inputs.TellsOfOld pass v op details)
    (h' : inputs.TellsOfOld pass v' op details') : v' = v ∧ details' = details := by
  cases h with
  | field h =>
    cases h' with
    | field h' =>
      obtain ⟨rfl, _, _, rfl⟩ := h.unique h'
      exact ⟨rfl, rfl⟩
  | implementation h =>
    cases h' with
    | implementation h' =>
      obtain ⟨rfl, _, _, rfl⟩ := h.unique h'
      exact ⟨rfl, rfl⟩
  | unionMember h =>
    cases h' with
    | unionMember h' =>
      obtain ⟨rfl, _, _, rfl⟩ := h.unique h'
      exact ⟨rfl, rfl⟩

theorem TellsOfNew.not_old {v v' : Vertex} {details details' : List Detail} (h : inputs.TellsOfNew report pass v op details)
    (h' : inputs.TellsOfOld pass v' op details') : False := by
  cases h with
  | field h =>
    cases h' with
    | field h' => cases (h.unique h').2.1
  | typeEdge => cases h'
  | implementation h =>
    cases h' with
    | implementation h' => cases (h.unique h').2.1
  | unionMember h =>
    cases h' with
    | unionMember h' => cases (h.unique h').2.1

/-- A finding records details under a name, unless the record under the type's own name covers them. -/
def FiledUnder (report : Report) (kind : TypeKind) (own : String) (cover : Change) (name : String)
    (details : List Detail) (finding : Finding) : Prop :=
  (report.change? kind own = some cover ∧ ∀ k, finding.journal k = []) ∨
  (report.change? kind own ≠ some cover ∧ ∀ k, finding.journal k = if kind = k then details.map (name, ·) else [])

theorem detailsOf_of_journal_eq {kind k : TypeKind} {name other : String} {details : List Detail}
    (h : ∀ k, finding.journal k = if kind = k then details.map (name, ·) else []) :
    (finding.journal k).detailsOf other = if kind = k ∧ name = other then details else [] := by
  rw [h]
  by_cases hKind : kind = k
  · simp [hKind]
  · simp [hKind]

theorem mem_journal_iff {kind k : TypeKind} {name : String} {details : List Detail} {entry : String × Detail}
    (h : ∀ k, finding.journal k = if kind = k then details.map (name, ·) else []) :
    entry ∈ finding.journal k ↔ kind = k ∧ name = entry.1 ∧ entry.2 ∈ details := by
  rw [h]
  obtain ⟨other, detail⟩ := entry
  by_cases hKind : kind = k
  · simp [hKind, and_comm]
  · simp [hKind]

/-- A finding comes from what the operation tells of a new or an old type, or there is nothing to tell. -/
inductive FoundOf (inputs : Inputs) (report : Report) (pass : Pass) (op : EditOperation) (finding : Finding) : Prop
  | new {v : Vertex} {kind : TypeKind} {details : List Detail} : v ∈ inputs.newGraph → kind.hasMembers = true →
    v.kind = .type kind → inputs.TellsOfNew report pass v op details →
    FiledUnder report kind v.name .added v.name details finding → FoundOf inputs report pass op finding
  | old {v : Vertex} {kind : TypeKind} {details : List Detail} : v ∈ inputs.oldGraph → kind.hasMembers = true →
    v.kind = .type kind → inputs.TellsOfOld pass v op details →
    FiledUnder report kind v.name .removed (inputs.matching.currentName v) details finding →
    FoundOf inputs report pass op finding
  | nothing : (∀ v details, ¬ inputs.TellsOfNew report pass v op details) →
    (∀ v details, ¬ inputs.TellsOfOld pass v op details) → (∀ kind, finding.journal kind = []) →
    FoundOf inputs report pass op finding

theorem TellsOfField.cover_eq {c : Container} {cover : Change} {name : String} {change : MemberChange}
    (h : inputs.TellsOfField op c cover name change) : cover = .added ∨ cover = .removed := by
  cases h with
  | renamed | added => exact .inl rfl
  | removed | argumentRemoved => exact .inr rfl

theorem TellsOfImplements.cover_eq {c : Container} {cover : Change} {name : String} {change : MemberChange}
    (h : inputs.TellsOfImplements op c cover name change) : cover = .added ∨ cover = .removed := by
  cases h with
  | added => exact .inl rfl
  | removed => exact .inr rfl

end Inputs

theorem ContainerKind.hasMembers_toTypeKind (kind : ContainerKind) : kind.toTypeKind.hasMembers = true := by
  cases kind <;> rfl

namespace Inputs.AccountsForTypes

variable {kind : TypeKind} {v : Vertex} (h : inputs.AccountsForTypes)
include h

theorem eq_of_kind_and_name {w : Vertex} {k : TypeKind} (hMem : v ∈ inputs.newGraph) (hKind : v.kind = .type kind)
    (hwMem : w ∈ inputs.newGraph) (hwKind : w.kind = .type k) (hSame : k = kind ∧ w.name = v.name) : w = v :=
  h.new_names v hMem w hwMem (by rw [hKind]; rfl) (by rw [hwKind, hKind, hSame.1]) hSame.2

/-- An old type that is not deleted as a whole has a partner of its kind, whose name is its current name. -/
theorem exists_partner (hMem : v ∈ inputs.oldGraph) (hKind : v.kind = .type kind) (hMembers : kind.hasMembers = true)
    (hNot : .deleteVertex v ∉ inputs.operations) : ∃ w ∈ inputs.newGraph, inputs.matching.source? w = some v ∧
      w.kind = .type kind ∧ inputs.matching.currentName v = w.name := by
  obtain hDeleted | hMatched := h.deleted_or_matched v hMem kind hMembers hKind
  · exact absurd hDeleted hNot
  · obtain ⟨w, hTarget⟩ := Option.isSome_iff_exists.mp hMatched
    have hPair := Matching.target?_eq_some_iff.mp hTarget
    obtain ⟨_, hwMem, hSame⟩ := h.pairs _ hPair
    exact ⟨w, hwMem, Matching.source?_eq_some_iff.mpr hPair, hSame.symm.trans hKind,
      Matching.currentName_of_target? hTarget⟩

end Inputs.AccountsForTypes

namespace CompleteRun

variable (run : CompleteRun inputs)

theorem filedUnder_of_filedUnlessCovered {c : Container} {cover : Change} {name : String} {change : MemberChange}
    (h : FiledUnlessCovered run.final c cover name change finding) :
    Inputs.FiledUnder run.report c.kind.toTypeKind c.vertex.name cover name [.member c.kind change] finding := by
  rw [Inputs.FiledUnder, report, Ledgers.change?_toReport]
  obtain ⟨hCovered, reason, rfl⟩ | ⟨hOpen, rfl⟩ := h
  · exact .inl ⟨hCovered, fun _ => rfl⟩
  · exact .inr ⟨hOpen, fun k => by rw [Finding.journal_members]; rfl⟩

theorem foundOf_of_judgeFieldVertex (h : inputs.judgeFieldVertex run.final op = .ok finding) :
    inputs.FoundOf run.report .fieldVertices op finding := by
  obtain ⟨c, cover, name, change, hTells, hFiled⟩ | ⟨hNot, hJournal⟩ := tells_of_judgeFieldVertex h
  · have hFiled := run.filedUnder_of_filedUnlessCovered hFiled
    obtain rfl | rfl := hTells.cover_eq
    · obtain ⟨rfl, hMem⟩ := hTells.new
      exact .new hMem c.kind.hasMembers_toTypeKind c.kind_eq (.field hTells) hFiled
    · obtain ⟨rfl, hMem⟩ := hTells.old
      exact .old hMem c.kind.hasMembers_toTypeKind c.kind_eq (.field hTells) hFiled
  · refine .nothing ?_ ?_ hJournal
    · rintro v details ⟨hTells⟩
      exact hNot hTells.concerns
    · rintro v details ⟨hTells⟩
      exact hNot hTells.concerns

theorem foundOf_of_judgeTypeEdge (h : inputs.judgeTypeEdge run.final op = .ok finding) :
    inputs.FoundOf run.report .typeEdges op finding := by
  have hNotOld : ∀ v details, ¬ inputs.TellsOfOld .typeEdges v op details := by
    rintro v details ⟨⟩
  obtain ⟨c, name, changes, hGives, rfl⟩ | ⟨hCovers, reason, rfl⟩ | ⟨hConcerns, rfl⟩ := run.findsType_of_judgeTypeEdge h
  · obtain ⟨rfl, hMem, hAdds⟩ := hGives.new
    refine .new hMem c.kind.hasMembers_toTypeKind c.kind_eq (.typeEdge hGives) (.inr ⟨hAdds, fun k => ?_⟩)
    rw [Finding.journal_members, List.map_map]
    rfl
  · refine .nothing ?_ hNotOld fun _ => rfl
    intro v details hTells
    cases hTells with
    | typeEdge hGives => exact hGives.not_covered hCovers
  · refine .nothing ?_ hNotOld fun _ => rfl
    intro v details hTells
    cases hTells with
    | typeEdge hGives => exact hConcerns hGives.concerns

theorem foundOf_of_judgeImplementsEdge (hPlaces : inputs.Places op)
    (h : inputs.judgeImplementsEdge run.final op = .ok finding) :
    inputs.FoundOf run.report .implementsEdges op finding := by
  obtain ⟨c, cover, name, change, hTells, hFiled⟩ | ⟨hNot, rfl⟩ := tells_of_judgeImplementsEdge h
  · have hFiled := run.filedUnder_of_filedUnlessCovered hFiled
    obtain rfl | rfl := hTells.cover_eq
    · obtain ⟨rfl, hMem⟩ := hTells.new hPlaces
      exact .new hMem c.kind.hasMembers_toTypeKind c.kind_eq (.implementation hTells) hFiled
    · obtain ⟨rfl, hMem⟩ := hTells.old hPlaces
      exact .old hMem c.kind.hasMembers_toTypeKind c.kind_eq (.implementation hTells) hFiled
  · refine .nothing ?_ ?_ fun _ => rfl
    · intro v details hTells
      cases hTells with
      | implementation hTells => exact hNot _ _ _ _ hTells
    · intro v details hTells
      cases hTells with
      | implementation hTells => exact hNot _ _ _ _ hTells

theorem filedUnder_of_filedForUnion {v : Vertex} {cover : Change} {name : String} {detail : Detail}
    (h : FiledForUnion run.final v cover name detail finding) :
    Inputs.FiledUnder run.report .union v.name cover name [detail] finding := by
  rw [Inputs.FiledUnder, report, Ledgers.change?_toReport]
  obtain ⟨hCovered, reason, rfl⟩ | ⟨hOpen, rfl⟩ := h
  · exact .inl ⟨hCovered, fun _ => rfl⟩
  · exact .inr ⟨hOpen, fun _ => rfl⟩

theorem foundOf_of_judgeUnionMember (hPlaces : inputs.Places op)
    (h : inputs.judgeUnionMember run.final op = .ok finding) : inputs.FoundOf run.report .unionMembers op finding := by
  obtain ⟨v, cover, name, detail, hTells, hFiled⟩ | ⟨hNot, rfl⟩ := tells_of_judgeUnionMember h
  · have hFiled := run.filedUnder_of_filedForUnion hFiled
    cases hTells with
    | added hKind => exact .new (inputs.newGraph.ends_mem _ hPlaces).1 rfl hKind (.unionMember (.added hKind)) hFiled
    | removed hKind => exact .old (inputs.oldGraph.ends_mem _ hPlaces).1 rfl hKind (.unionMember (.removed hKind)) hFiled
  · refine .nothing ?_ ?_ fun _ => rfl
    · intro v details hTells
      cases hTells with
      | unionMember hTells => exact hNot _ _ _ _ hTells
    · intro v details hTells
      cases hTells with
      | unionMember hTells => exact hNot _ _ _ _ hTells

theorem foundOf_of_judge (hPass : pass ≠ .typeVertices) (hPlaces : inputs.Places op)
    (h : pass.judge inputs run.final op = .ok finding) : inputs.FoundOf run.report pass op finding := by
  cases pass with
  | typeVertices => exact absurd rfl hPass
  | fieldVertices => exact run.foundOf_of_judgeFieldVertex h
  | typeEdges => exact run.foundOf_of_judgeTypeEdge h
  | implementsEdges => exact run.foundOf_of_judgeImplementsEdge hPlaces h
  | unionMembers => exact run.foundOf_of_judgeUnionMember hPlaces h

variable {kind : TypeKind} {v : Vertex} (h : inputs.AccountsForTypes)
include h

theorem added_iff_inserted (hMem : v ∈ inputs.newGraph) (hKind : v.kind = .type kind) (hMembers : kind.hasMembers = true) :
    run.report.change? kind v.name = some .added ↔ .insertVertex v ∈ inputs.operations :=
  run.report_added_iff.trans (h.new_names.insertsType_iff (fun _ => h.places _) hMem hKind hMembers)

theorem removed_iff_deleted (hMem : v ∈ inputs.oldGraph) (hKind : v.kind = .type kind) :
    run.report.change? kind v.name = some .removed ↔ .deleteVertex v ∈ inputs.operations :=
  run.report_removed_iff.trans (h.old_names.deletesType_iff (fun _ => h.places _) hMem hKind)

theorem givesTo_of_new {w : Vertex} {k : TypeKind} {details : List Detail} (hMem : v ∈ inputs.newGraph)
    (hKind : v.kind = .type kind) (hwMem : w ∈ inputs.newGraph) (hMembers : k.hasMembers = true)
    (hwKind : w.kind = .type k) (hTells : inputs.TellsOfNew run.report pass w op details)
    (hFiled : Inputs.FiledUnder run.report k w.name .added w.name details finding) :
    inputs.GivesTo run.report pass v op ((finding.journal kind).detailsOf v.name) ∨
      ((∀ given, ¬ inputs.GivesTo run.report pass v op given) ∧ (finding.journal kind).detailsOf v.name = []) := by
  obtain ⟨hCovered, hJournal⟩ | ⟨hOpen, hJournal⟩ := hFiled
  · refine .inr ⟨?_, by rw [hJournal, Journal.detailsOf_nil]⟩
    rintro given (⟨hGiven, hNotInserted⟩ | ⟨old, _, hGiven, _⟩)
    · obtain ⟨rfl, _⟩ := hTells.unique hGiven
      exact hNotInserted ((run.added_iff_inserted h hMem hwKind hMembers).mp hCovered)
    · exact hTells.not_old hGiven
  · rw [Inputs.detailsOf_of_journal_eq hJournal]
    by_cases hSame : k = kind ∧ w.name = v.name
    · cases h.eq_of_kind_and_name hMem hKind hwMem hwKind hSame
      rw [if_pos hSame]
      exact .inl (.inl ⟨hTells, fun hInserted => hOpen ((run.added_iff_inserted h hMem hwKind hMembers).mpr hInserted)⟩)
    · refine .inr ⟨?_, if_neg hSame⟩
      rintro given (⟨hGiven, _⟩ | ⟨old, _, hGiven, _⟩)
      · obtain ⟨rfl, _⟩ := hTells.unique hGiven
        cases hwKind.symm.trans hKind
        exact hSame ⟨rfl, rfl⟩
      · exact hTells.not_old hGiven

theorem givesTo_of_old {w : Vertex} {k : TypeKind} {details : List Detail} (hMem : v ∈ inputs.newGraph)
    (hKind : v.kind = .type kind) (hwMem : w ∈ inputs.oldGraph) (hMembers : k.hasMembers = true)
    (hwKind : w.kind = .type k) (hTells : inputs.TellsOfOld pass w op details)
    (hFiled : Inputs.FiledUnder run.report k w.name .removed (inputs.matching.currentName w) details finding) :
    inputs.GivesTo run.report pass v op ((finding.journal kind).detailsOf v.name) ∨
      ((∀ given, ¬ inputs.GivesTo run.report pass v op given) ∧ (finding.journal kind).detailsOf v.name = []) := by
  obtain ⟨hCovered, hJournal⟩ | ⟨hOpen, hJournal⟩ := hFiled
  · refine .inr ⟨?_, by rw [hJournal, Journal.detailsOf_nil]⟩
    rintro given (⟨hGiven, _⟩ | ⟨old, _, hGiven, hNotDeleted⟩)
    · exact hGiven.not_old hTells
    · obtain ⟨rfl, _⟩ := hTells.unique hGiven
      exact hNotDeleted ((run.removed_iff_deleted h hwMem hwKind).mp hCovered)
  · have hNotDeleted := fun hDeleted => hOpen ((run.removed_iff_deleted h hwMem hwKind).mpr hDeleted)
    obtain ⟨partner, hPartnerMem, hSource, hPartnerKind, hName⟩ := h.exists_partner hwMem hwKind hMembers hNotDeleted
    rw [Inputs.detailsOf_of_journal_eq hJournal, hName]
    by_cases hSame : k = kind ∧ partner.name = v.name
    · cases h.eq_of_kind_and_name hMem hKind hPartnerMem hPartnerKind hSame
      rw [if_pos hSame]
      exact .inl (.inr ⟨w, hSource, hTells, hNotDeleted⟩)
    · refine .inr ⟨?_, if_neg hSame⟩
      rintro given (⟨hGiven, _⟩ | ⟨old, hOld, hGiven, _⟩)
      · exact hGiven.not_old hTells
      -- The old type has no partner besides the one whose record the finding goes to.
      · obtain ⟨rfl, _⟩ := hTells.unique hGiven
        have hTarget := Matching.target?_eq_some_iff.mpr (Matching.source?_eq_some_iff.mp hSource)
        have hTarget' := Matching.target?_eq_some_iff.mpr (Matching.source?_eq_some_iff.mp hOld)
        cases hTarget.symm.trans hTarget'
        cases hPartnerKind.symm.trans hKind
        exact hSame ⟨rfl, rfl⟩

theorem givesTo_of_judge (hPass : pass ≠ .typeVertices) (hMem : v ∈ inputs.newGraph) (hKind : v.kind = .type kind)
    (hOp : op ∈ inputs.operations) (hJudge : pass.judge inputs run.final op = .ok finding) :
    inputs.GivesTo run.report pass v op ((finding.journal kind).detailsOf v.name) ∨
      ((∀ given, ¬ inputs.GivesTo run.report pass v op given) ∧ (finding.journal kind).detailsOf v.name = []) := by
  cases run.foundOf_of_judge hPass (h.places op hOp) hJudge with
  | new hwMem hMembers hwKind hTells hFiled => exact run.givesTo_of_new h hMem hKind hwMem hMembers hwKind hTells hFiled
  | old hwMem hMembers hwKind hTells hFiled => exact run.givesTo_of_old h hMem hKind hwMem hMembers hwKind hTells hFiled
  | nothing hNotNew hNotOld hJournal =>
    refine .inr ⟨?_, by rw [hJournal, Journal.detailsOf_nil]⟩
    rintro given (⟨hGiven, _⟩ | ⟨old, _, hGiven, _⟩)
    · exact hNotNew _ _ hGiven
    · exact hNotOld _ _ hGiven

theorem givenInOrder_givesTo (hMem : v ∈ inputs.newGraph) (hKind : v.kind = .type kind) (pass : Pass) :
    GivenInOrder (inputs.GivesTo run.report pass v) inputs.operations
      ((run.report.details kind v.name).filter (·.recordedBy = pass)) := by
  by_cases hPass : pass = .typeVertices
  · subst hPass
    -- No detail is recorded by the first pass, and no operation tells of members in it.
    have hNot : ∀ op given, ¬ inputs.GivesTo run.report .typeVertices v op given := by
      rintro op given (⟨⟨⟩, _⟩ | ⟨_, _, ⟨⟩, _⟩)
    have hFilter : (run.report.details kind v.name).filter (·.recordedBy = .typeVertices) = [] := by
      apply List.filter_eq_nil_iff.mpr
      intro detail _
      simpa using Detail.recordedBy_ne_typeVertices detail
    rw [hFilter]
    exact .of_silent hNot
  · rw [run.details_report, run.filter_detailsOf hPass]
    exact run.givenInOrder hPass fun op hOp finding hJudge => run.givesTo_of_judge h hPass hMem hKind hOp hJudge

include run in
/-- A name that details are recorded under is that of a type in the new graph. -/
theorem exists_named_of_mem_journal {name : String} {detail : Detail} (hEntry : (name, detail) ∈ inputs.journal kind) :
    ∃ v ∈ inputs.newGraph, v.kind = .type kind ∧ v.name = name := by
  rw [run.journal_eq] at hEntry
  obtain ⟨pass, hPass, hEntry⟩ := List.mem_flatMap.mp hEntry
  obtain ⟨finding, hFinding, hEntry⟩ := List.mem_flatMap.mp hEntry
  have hLater : pass ≠ .typeVertices := by
    rintro rfl
    exact absurd hPass (by decide)
  obtain ⟨op, hOp, hJudge⟩ := run.exists_op_of_mem_found hLater hFinding
  cases run.foundOf_of_judge hLater (h.places op hOp) hJudge with
  | new hMem _ hKind _ hFiled =>
    obtain ⟨_, hJournal⟩ | ⟨_, hJournal⟩ := hFiled
    · simp [hJournal] at hEntry
    · obtain ⟨rfl, rfl, _⟩ := Inputs.mem_journal_iff hJournal |>.mp hEntry
      exact ⟨_, hMem, hKind, rfl⟩
  | old hMem hMembers hKind _ hFiled =>
    obtain ⟨_, hJournal⟩ | ⟨hOpen, hJournal⟩ := hFiled
    · simp [hJournal] at hEntry
    · obtain ⟨rfl, rfl, _⟩ := Inputs.mem_journal_iff hJournal |>.mp hEntry
      have hNotDeleted := fun hDeleted => hOpen ((run.removed_iff_deleted h hMem hKind).mpr hDeleted)
      obtain ⟨partner, hPartnerMem, _, hPartnerKind, hName⟩ := h.exists_partner hMem hKind hMembers hNotDeleted
      exact ⟨partner, hPartnerMem, hPartnerKind, hName.symm⟩
  | nothing _ _ hJournal => simp [hJournal] at hEntry

theorem exists_named_of_modified {name : String} {details : List Detail}
    (hModified : run.report.change? kind name = some (.modified details)) :
    ∃ v ∈ inputs.newGraph, v.kind = .type kind ∧ v.name = name := by
  obtain ⟨_, _, ⟨_, target, hOp, hKind, hName⟩ | ⟨detail, hEntry⟩⟩ := run.report_modified_iff.mp ⟨details, hModified⟩
  · exact ⟨target, (h.places _ hOp).2, hKind, hName⟩
  · exact run.exists_named_of_mem_journal h hEntry

end CompleteRun

/-- In every report each new type has one record for itself and the old type it comes from, and no record of a
modification has any other name. -/
theorem keepsApart_of_analyze (h : inputs.AccountsForTypes) (hReport : inputs.analyze.result = .ok report) :
    report.KeepsApart inputs := by
  obtain ⟨run, rfl⟩ := Inputs.analyze_eq_ok_iff.mp hReport
  constructor
  · intro kind name details hModified
    exact run.exists_named_of_modified h hModified
  · intro kind
    rw [CompleteRun.report, Ledgers.keys_toReport]
    exact Ledger.nodup_names _
  · intro v hMem kind hKind pass
    exact run.givenInOrder_givesTo h hMem hKind pass

end

theorem keepsApart_of_analyze_sample : Sample.inputs.AccountsForTypes ∧
    Sample.inputs.analyze.result = .ok Sample.report ∧ Sample.report.KeepsApart Sample.inputs := by
  have hAccounts : Sample.inputs.AccountsForTypes := {
    old_names := by decide +kernel
    new_names := by decide +kernel
    places := by decide +kernel
    pairs := by decide +kernel
    deleted_or_matched := by
      intro v hMem kind hMembers hKind
      revert v
      cases kind <;> decide +kernel }
  exact ⟨hAccounts, Sample.analyze_eq, keepsApart_of_analyze hAccounts Sample.analyze_eq⟩

end SchemaChange
