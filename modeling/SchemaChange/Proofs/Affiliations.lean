import SchemaChange.Proofs.Memberships

/-! # Details of implementations and of unions

An inserted or deleted edge with the label of an implementation gives one detail to the record of the object or
interface that it leaves, behind the details of fields and types; an edge that leaves a union gives one to the record of
the union, which has no others. Where such a label leaves any other vertex, the analysis gives no report.
-/
namespace SchemaChange

/-- The changes that an operation gives to the record of an implementer. -/
def Inputs.GivesImplements (inputs : Inputs) (report : Report) :
    EditOperation → Container → String → List MemberChange → Prop :=
  GivesUnlessCovered inputs.TellsOfImplements report

/-- The details that an operation gives to the record of a union under a name: the one that it tells, unless the record
under the union's own name covers it. -/
def Inputs.GivesUnion (inputs : Inputs) (report : Report) (name : String) (op : EditOperation) (details : List Detail) :
    Prop :=
  ∃ v cover detail, inputs.TellsOfUnion op v cover name detail ∧ report.change? .union v.name ≠ some cover ∧
    details = [detail]

/-- The records of a report list what the operations tell of implementations and of unions. -/
structure Report.ListsAffiliations (report : Report) (inputs : Inputs) : Prop where
  /-- An implementation leaves an object or interface, and tells one thing of it. -/
  implementer : ∀ op ∈ inputs.operations, ∀ edge, op.placedEdge? = some edge → isImplementsLabel edge.label = true →
    ∃ c cover name change, c.vertex = edge.source ∧ inputs.TellsOfImplements op c cover name change ∧
      ∀ c' cover' name' change', inputs.TellsOfImplements op c' cover' name' change' →
        c' = c ∧ cover' = cover ∧ name' = name ∧ change' = change
  /-- An edge that leaves a union tells one thing of it, whatever its label. -/
  union : ∀ op ∈ inputs.operations, ∀ edge, op.placedEdge? = some edge → edge.source.kind = .type .union →
    ∃ cover name detail, inputs.TellsOfUnion op edge.source cover name detail ∧
      ∀ v' cover' name' detail', inputs.TellsOfUnion op v' cover' name' detail' →
        v' = edge.source ∧ cover' = cover ∧ name' = name ∧ detail' = detail
  implementations : ∀ kind name, GivenInOrder (Files (inputs.GivesImplements report) kind name) inputs.operations
    ((report.details kind name).filter (·.recordedBy = .implementsEdges))
  /-- The implementations of a type come behind all that is recorded of its fields. -/
  behind : ∀ kind name, kind ≠ .union → report.details kind name =
    (report.details kind name).filter (·.recordedBy ∈ [.fieldVertices, .typeEdges]) ++
      (report.details kind name).filter (·.recordedBy = .implementsEdges)
  /-- The record of a union lists its members and nothing else. -/
  members : ∀ name, GivenInOrder (inputs.GivesUnion report name) inputs.operations (report.details .union name)

theorem Detail.kind_eq_union_iff (detail : Detail) : detail.kind = .union ↔ detail.recordedBy = .unionMembers := by
  cases detail with
  | member container change => cases container <;> cases change <;> simp [kind, recordedBy, ContainerKind.toTypeKind]
  | unionMemberAdded | unionMemberRemoved => simp [kind, recordedBy]

section

variable {inputs : Inputs} {report : Report} {op : EditOperation} {edge : Edge} {finding : Finding}

theorem Inputs.exists_tellsOfUnion (inputs : Inputs) (hEdge : op.placedEdge? = some edge)
    (hKind : edge.source.kind = .type .union) :
    ∃ cover name detail, inputs.TellsOfUnion op edge.source cover name detail := by
  cases op with
  | insertEdge inserted =>
    cases hEdge
    exact ⟨_, _, _, .added hKind⟩
  | deleteEdge deleted =>
    cases hEdge
    exact ⟨_, _, _, .removed hKind⟩
  | insertVertex | deleteVertex | changeVertex | changeEdge => cases hEdge

/-- A judgement about the edge of an implementation comes with the object or interface that it leaves. -/
theorem Inputs.exists_tellsOfImplements {ledgers : Ledgers} (hEdge : op.placedEdge? = some edge)
    (hLabel : isImplementsLabel edge.label = true) (h : inputs.judgeImplementsEdge ledgers op = .ok finding) :
    ∃ c cover name change, c.vertex = edge.source ∧ inputs.TellsOfImplements op c cover name change := by
  cases op with
  | insertEdge inserted =>
    cases hEdge
    obtain ⟨c, hc, _⟩ := (judgeImplementsInserted_eq_ok_iff hLabel).mp h
    have hSource := Container.ofVertex?_eq_some_iff.mp hc
    exact ⟨c, _, _, _, hSource, .added hLabel hSource⟩
  | deleteEdge deleted =>
    cases hEdge
    obtain ⟨c, hc, _⟩ := (judgeImplementsDeleted_eq_ok_iff hLabel).mp h
    have hSource := Container.ofVertex?_eq_some_iff.mp hc
    exact ⟨c, _, _, _, hSource, .removed hLabel hSource⟩
  | insertVertex | deleteVertex | changeVertex | changeEdge => cases hEdge

namespace CompleteRun

variable (run : CompleteRun inputs)

include run in
theorem exists_tellsOfImplements (hOp : op ∈ inputs.operations) (hEdge : op.placedEdge? = some edge)
    (hLabel : isImplementsLabel edge.label = true) :
    ∃ c cover name change, c.vertex = edge.source ∧ inputs.TellsOfImplements op c cover name change := by
  obtain ⟨finding, hJudge⟩ := run.exists_judge .implementsEdges (by decide) hOp
  exact Inputs.exists_tellsOfImplements hEdge hLabel hJudge

theorem findsGiven_of_judgeImplementsEdge (h : inputs.judgeImplementsEdge run.final op = .ok finding) :
    FindsGiven (inputs.GivesImplements run.report) op finding := by
  obtain ⟨c, cover, name, change, hTells, hFiled⟩ | ⟨hNot, rfl⟩ := tells_of_judgeImplementsEdge h
  · exact run.findsGiven_of_filed Inputs.TellsOfImplements.unique hTells hFiled
  · refine .inr ⟨?_, fun _ => rfl⟩
    rintro c name changes ⟨cover, change, hTells, _⟩
    exact hNot _ _ _ _ hTells

/-- What the last pass records under a name of a union is what the operation gives there. -/
theorem givesUnion_of_judge (h : inputs.judgeUnionMember run.final op = .ok finding) (name : String) :
    inputs.GivesUnion run.report name op ((finding.journal .union).detailsOf name) ∨
      ((∀ details, ¬ inputs.GivesUnion run.report name op details) ∧ (finding.journal .union).detailsOf name = []) := by
  obtain ⟨v, cover, filed, detail, hTells, hFiled⟩ | ⟨hNot, rfl⟩ := tells_of_judgeUnionMember h
  · have hReport : run.report.change? .union v.name = run.final.union.change? v.name := by
      rw [report, Ledgers.change?_toReport]
      rfl
    obtain ⟨hCovered, reason, rfl⟩ | ⟨hOpen, rfl⟩ := hFiled
    · refine .inr ⟨?_, rfl⟩
      rintro details ⟨v', cover', detail', hTells', hOpen, _⟩
      obtain ⟨rfl, rfl, _⟩ := hTells.unique hTells'
      exact hOpen (hReport.trans hCovered)
    · have hJournal : ((Finding.details .union filed [detail]).journal .union).detailsOf name =
          if filed = name then [detail] else [] := Journal.detailsOf_map_mk filed name [detail]
      rw [hJournal]
      by_cases hName : filed = name
      · subst hName
        rw [if_pos rfl]
        exact .inl ⟨v, cover, detail, hTells, fun hCovered => hOpen (hReport.symm.trans hCovered), rfl⟩
      · refine .inr ⟨?_, if_neg hName⟩
        rintro details ⟨v', cover', detail', hTells', _⟩
        obtain ⟨_, _, rfl, _⟩ := hTells.unique hTells'
        exact hName rfl
  · refine .inr ⟨?_, rfl⟩
    rintro details ⟨v, cover, detail, hTells, _⟩
    exact hNot _ _ _ _ hTells

theorem kind_of_mem_report_details {kind : TypeKind} {name : String} {detail : Detail}
    (h : detail ∈ run.report.details kind name) : detail.kind = kind := by
  rw [run.details_report, Journal.mem_detailsOf_iff, run.journal_eq] at h
  obtain ⟨pass, _, hEntry⟩ := List.mem_flatMap.mp h
  exact (run.kind_and_pass_of_mem hEntry).1

theorem details_implementsEdges_last {kind : TypeKind} (hKind : kind ≠ .union) (name : String) :
    run.report.details kind name =
      (run.report.details kind name).filter (·.recordedBy ∈ [.fieldVertices, .typeEdges]) ++
        (run.report.details kind name).filter (·.recordedBy = .implementsEdges) := by
  have hOnward : [Pass.fieldVertices, .typeEdges] ++ [.implementsEdges, .unionMembers] = Pass.fieldVertices.onward := rfl
  have hLast : (run.report.details kind name).filter (·.recordedBy ∈ [.implementsEdges, .unionMembers]) =
      (run.report.details kind name).filter (·.recordedBy = .implementsEdges) := by
    apply List.filter_congr
    intro detail hDetail
    have hNot : detail.recordedBy ≠ .unionMembers := by
      rw [ne_eq, ← detail.kind_eq_union_iff, run.kind_of_mem_report_details hDetail]
      exact hKind
    simp [hNot]
  rw [← hLast]
  exact run.details_split hOnward kind name

theorem details_union (name : String) :
    run.report.details .union name = (run.journal .unionMembers .union).detailsOf name := by
  rw [← run.filter_detailsOf (by decide), ← run.details_report, List.filter_eq_self.mpr]
  intro detail hDetail
  have hPass := detail.kind_eq_union_iff.mp (run.kind_of_mem_report_details hDetail)
  simpa using hPass

end CompleteRun

theorem CompleteRun.listsAffiliations (run : CompleteRun inputs) : run.report.ListsAffiliations inputs where
  implementer op hOp edge hEdge hLabel := by
    obtain ⟨c, cover, name, change, hSource, hTells⟩ := run.exists_tellsOfImplements hOp hEdge hLabel
    exact ⟨c, cover, name, change, hSource, hTells, fun _ _ _ _ => hTells.unique⟩
  union op hOp edge hEdge hKind := by
    obtain ⟨cover, name, detail, hTells⟩ := inputs.exists_tellsOfUnion hEdge hKind
    exact ⟨cover, name, detail, hTells, fun _ _ _ _ => hTells.unique⟩
  implementations kind name := by
    apply run.files_inOrder .implementsEdges (by decide) fun _ _ => run.findsGiven_of_judgeImplementsEdge
    rintro op c name changes c' name' changes' ⟨_, _, hTells, _, rfl⟩ ⟨_, _, hTells', _, rfl⟩
    obtain ⟨rfl, _, rfl, rfl⟩ := hTells.unique hTells'
    exact ⟨rfl, rfl, rfl⟩
  behind _ name hKind := run.details_implementsEdges_last hKind name
  members name := by
    rw [run.details_union]
    exact run.givenInOrder (by decide) fun _ _ _ hJudge => run.givesUnion_of_judge hJudge name

/-- Every report lists the implementations and the members of unions that the operations tell of, and there is no report
if the label of an implementation leaves a vertex that is no object and no interface. -/
theorem listsAffiliations_of_analyze (inputs : Inputs) :
    (∀ report, inputs.analyze.result = .ok report → report.ListsAffiliations inputs) ∧
    ((∃ op ∈ inputs.operations, ∃ edge, op.placedEdge? = some edge ∧ isImplementsLabel edge.label = true ∧
        edge.source.kind ≠ .type .object ∧ edge.source.kind ≠ .type .interface) →
      ∃ failure, inputs.analyze.result = .error failure) := by
  constructor
  · intro report hReport
    obtain ⟨run, rfl⟩ := Inputs.analyze_eq_ok_iff.mp hReport
    exact run.listsAffiliations
  · rintro ⟨op, hOp, edge, hEdge, hLabel, hObject, hInterface⟩
    cases hResult : inputs.analyze.result with
    | error failure => exact ⟨failure, rfl⟩
    | ok report =>
      obtain ⟨run, _⟩ := Inputs.analyze_eq_ok_iff.mp hResult
      obtain ⟨c, _, _, _, hSource, _⟩ := run.exists_tellsOfImplements hOp hEdge hLabel
      have hKind := Container.isSome_ofVertex?_iff.mp
        (Option.isSome_iff_exists.mpr ⟨c, Container.ofVertex?_eq_some_iff.mpr hSource⟩)
      exact absurd hKind (by simp [hObject, hInterface])

end

namespace Sample

def oldShop : Vertex := ⟨0, "Shop", .type .object, "Shop"⟩
def oldNode : Vertex := ⟨1, "Node", .type .interface, "Node"⟩
def oldHit : Vertex := ⟨2, "Hit", .type .union, "Hit"⟩

def newShop : Vertex := ⟨3, "Shop", .type .object, "Store"⟩
def newNode : Vertex := ⟨4, "Node", .type .interface, "Node"⟩
def newOwned : Vertex := ⟨5, "Owned", .type .interface, "Owned"⟩
def newHit : Vertex := ⟨6, "Hit", .type .union, "Hit"⟩
def newShelf : Vertex := ⟨7, "Shelf", .type .object, "Shelf"⟩

def oldShopNode : Edge := ⟨0, oldShop, oldNode, "implements Node"⟩
def oldHitShop : Edge := ⟨1, oldHit, oldShop, ""⟩
def newShopOwned : Edge := ⟨2, newShop, newOwned, "implements Owned"⟩
def newShelfOwned : Edge := ⟨3, newShelf, newOwned, "implements Owned"⟩
def newHitShelf : Edge := ⟨4, newHit, newShelf, ""⟩
def newHitOwned : Edge := ⟨5, newHit, newOwned, "implements Owned"⟩

/-- An object gets another name and implements one interface instead of another, an object that comes in implements that
interface too, and a union takes the one object in the other's place. -/
def affiliated : Inputs where
  oldGraph := {
    vertices := [oldShop, oldNode, oldHit]
    edges := [oldShopNode, oldHitShop]
    ids_nodup := by decide
    ends_nodup := by decide
    ends_mem := by decide }
  newGraph := {
    vertices := [newShop, newNode, newOwned, newHit, newShelf]
    edges := [newShopOwned, newShelfOwned, newHitShelf, newHitOwned]
    ids_nodup := by decide
    ends_nodup := by decide
    ends_mem := by decide }
  matching := {
    pairs := [(oldShop, newShop), (oldNode, newNode), (oldHit, newHit)]
    sources_nodup := by decide
    targets_nodup := by decide }
  operations := [.insertEdge newShelfOwned, .insertVertex newShelf, .deleteEdge oldHitShop, .changeVertex oldShop newShop,
    .deleteEdge oldShopNode, .insertVertex newOwned, .insertEdge newHitShelf, .insertEdge newShopOwned]

def affiliatedReport : Report where
  object := [
    ("Shelf", ⟨.object, "Shelf", .added⟩),
    ("Store", ⟨.object, "Store",
      .modified [.member .object (.implementsRemoved "Node"), .member .object (.implementsAdded "Owned")]⟩)]
  interface := [("Owned", ⟨.interface, "Owned", .added⟩)]
  union := [("Hit", ⟨.union, "Hit", .modified [.unionMemberRemoved "Shop", .unionMemberAdded "Shelf"]⟩)]
  enum := []
  inputObject := []
  scalar := []

theorem analyze_affiliated : affiliated.analyze.result = .ok affiliatedReport := rfl

/-- The same graphs with an edge from the union that has the label of an implementation. -/
def misaffiliated : Inputs := { affiliated with operations := [.insertEdge newHitOwned] }

end Sample

theorem listsAffiliations_of_analyze_sample :
    Sample.affiliated.analyze.result = .ok Sample.affiliatedReport ∧
    Sample.affiliatedReport.ListsAffiliations Sample.affiliated ∧
    ∃ failure, Sample.misaffiliated.analyze.result = .error failure := by
  have hLists := (listsAffiliations_of_analyze Sample.affiliated).1 _ Sample.analyze_affiliated
  have hFails := (listsAffiliations_of_analyze Sample.misaffiliated).2
    ⟨_, List.mem_singleton_self _, _, rfl, by decide +kernel, by decide, by decide⟩
  exact ⟨Sample.analyze_affiliated, hLists, hFails⟩

end SchemaChange
