import SchemaChange.Proofs.Recorded
import Mathlib.Data.List.Perm.Basic

/-! # Operations in another order

A pass reads of the list of operations only which type edge is removed from a vertex. If no vertex loses two, then the
passes find the same about each operation in whatever order the list has them, and the records come out with the same
details, though perhaps in another order.
-/
namespace SchemaChange

/-- Two changes of the same class; the details of modifications may come in different orders. -/
inductive Change.Reordered : Change → Change → Prop
  | added : Reordered .added .added
  | removed : Reordered .removed .removed
  | modified {details details' : List Detail} : details.Perm details' → Reordered (.modified details) (.modified details')

structure Difference.Reordered (d d' : Difference) : Prop where
  kind_eq : d.kind = d'.kind
  name_eq : d.name = d'.name
  change : d.change.Reordered d'.change

def Report.record? (report : Report) (kind : TypeKind) (name : String) : Option Difference :=
  ((report.get kind).find? (·.1 = name)).map (·.2)

/-- Two reports with the same names in each kind, and under each name records of one class with the same details. -/
structure Report.Reordered (report report' : Report) : Prop where
  keys : ∀ kind, ((report.get kind).map Prod.fst).Perm ((report'.get kind).map Prod.fst)
  records : ∀ kind name, Option.Rel Difference.Reordered (report.record? kind name) (report'.record? kind name)

def Ledgers.Reordered (a b : Ledgers) : Prop :=
  ∀ kind name, Option.Rel Change.Reordered ((a.get kind).change? name) ((b.get kind).change? name)

namespace Change

theorem Reordered.refl (change : Change) : change.Reordered change := by
  cases change with
  | added => exact .added
  | removed => exact .removed
  | modified details => exact .modified (.refl details)

theorem Reordered.extend {change change' : Change} (h : change.Reordered change') {more more' : List Detail}
    (hMore : more.Perm more') : (change.extend more).Reordered (change'.extend more') := by
  cases h with
  | added => exact .added
  | removed => exact .removed
  | modified hDetails => exact .modified (hDetails.append hMore)

theorem reordered_extend? {change change' : Option Change} (h : Option.Rel Reordered change change')
    {more more' : List Detail} (hMore : more.Perm more') :
    Option.Rel Reordered (extend? change more) (extend? change' more') := by
  cases h with
  | some h => exact .some (h.extend hMore)
  | none =>
    cases more with
    | nil =>
      cases hMore.nil_eq
      exact .none
    | cons detail more =>
      have hNe : more' ≠ [] := fun hNil => by simp [hNil] at hMore
      rw [extend?_none_of_ne_nil hNe]
      exact .some (.modified hMore)

end Change

namespace Ledgers

variable {a b : Ledgers}

theorem record?_toReport (ledgers : Ledgers) (kind : TypeKind) (name : String) :
    ledgers.toReport.record? kind name = ((ledgers.get kind).change? name).map (⟨kind, name, ·⟩) := by
  rw [Report.record?, get_toReport, Ledger.toRecords, List.find?_map, Option.map_map, Ledger.change?, Option.map_map]
  apply Option.map_congr
  intro entry hEntry
  have hName : entry.1 = name := by simpa using List.find?_some hEntry
  simp [hName]

namespace Reordered

theorem of_change?_eq (h : ∀ kind name, (a.get kind).change? name = (b.get kind).change? name) : a.Reordered b := by
  intro kind name
  rw [h]
  cases (b.get kind).change? name with
  | none => exact .none
  | some change => exact .some (.refl change)

theorem lookup (h : a.Reordered b) (kind : TypeKind) (name : String) :
    ((a.get kind).change? name = none ∧ (b.get kind).change? name = none) ∨
    ∃ change change', (a.get kind).change? name = some change ∧ (b.get kind).change? name = some change' ∧
      change.Reordered change' := by
  have hRel := h kind name
  generalize (a.get kind).change? name = found at hRel ⊢
  generalize (b.get kind).change? name = found' at hRel ⊢
  cases hRel with
  | none => exact .inl ⟨rfl, rfl⟩
  | some hChange => exact .inr ⟨_, _, rfl, rfl, hChange⟩

theorem added_iff (h : a.Reordered b) (kind : TypeKind) (name : String) :
    (a.get kind).change? name = some .added ↔ (b.get kind).change? name = some .added := by
  obtain ⟨ha, hb⟩ | ⟨_, _, ha, hb, hChange⟩ := h.lookup kind name
  · rw [ha, hb]
  · rw [ha, hb]
    cases hChange <;> simp

theorem removed_iff (h : a.Reordered b) (kind : TypeKind) (name : String) :
    (a.get kind).change? name = some .removed ↔ (b.get kind).change? name = some .removed := by
  obtain ⟨ha, hb⟩ | ⟨_, _, ha, hb, hChange⟩ := h.lookup kind name
  · rw [ha, hb]
  · rw [ha, hb]
    cases hChange <;> simp

theorem mem_names_iff (h : a.Reordered b) (kind : TypeKind) (name : String) :
    name ∈ (a.get kind).names ↔ name ∈ (b.get kind).names := by
  rw [Ledger.mem_names_iff, Ledger.mem_names_iff]
  obtain ⟨ha, hb⟩ | ⟨_, _, ha, hb, _⟩ := h.lookup kind name
  · rw [ha, hb]
  · simp [ha, hb]

theorem perm_details (h : a.Reordered b) (kind : TypeKind) (name : String) :
    ((a.get kind).details name).Perm ((b.get kind).details name) := by
  rw [Ledger.details, Ledger.details]
  obtain ⟨ha, hb⟩ | ⟨_, _, ha, hb, hChange⟩ := h.lookup kind name
  · rw [ha, hb]
  · rw [ha, hb]
    cases hChange with
    | added | removed => exact .refl _
    | modified hDetails => exact hDetails

theorem alike (h : a.Reordered b) (pass : Pass) : Alike pass a b where
  added := h.added_iff
  removed := h.removed_iff
  fields _ c field := by
    rw [fieldAdded, fieldAdded, Bool.eq_iff_iff, List.contains_iff_mem, List.contains_iff_mem]
    exact (h.perm_details c.kind.toTypeKind c.name).mem_iff

theorem toReport (h : a.Reordered b) : a.toReport.Reordered b.toReport where
  keys kind := by
    rw [keys_toReport, keys_toReport, List.perm_ext_iff_of_nodup (Ledger.nodup_names _) (Ledger.nodup_names _)]
    exact h.mem_names_iff kind
  records kind name := by
    rw [record?_toReport, record?_toReport]
    obtain ⟨ha, hb⟩ | ⟨_, _, ha, hb, hChange⟩ := h.lookup kind name
    · rw [ha, hb]
      exact .none
    · rw [ha, hb]
      exact .some ⟨rfl, rfl, hChange⟩

end Reordered

end Ledgers

def EditOperation.removedTypeEdge? : EditOperation → Option Edge
  | deleteEdge e => if isTypeLabel e.label then some e else none
  | _ => none

def removedTypeEdges (operations : List EditOperation) : List Edge := operations.filterMap (·.removedTypeEdge?)

/-- No vertex loses more than one type edge. -/
def RemovesTypesOnce (operations : List EditOperation) : Prop :=
  ((removedTypeEdges operations).map (·.source)).Nodup

instance (operations : List EditOperation) : Decidable (RemovesTypesOnce operations) :=
  inferInstanceAs (Decidable (List.Nodup _))

def Inputs.withOperations (inputs : Inputs) (operations : List EditOperation) : Inputs := { inputs with operations }

section

variable {inputs : Inputs} {operations operations' : List EditOperation}

theorem Inputs.removedTypeEdge?_eq_find? (operations : List EditOperation) (old : Vertex) :
    removedTypeEdge? operations old = (removedTypeEdges operations).find? (·.source = old) := by
  induction operations with
  | nil => rfl
  | cons op operations ih =>
    rw [removedTypeEdge?, removedTypeEdges] at *
    rw [List.findSome?_cons, List.filterMap_cons]
    cases op with
    | deleteEdge e =>
      by_cases hLabel : isTypeLabel e.label = true
      · by_cases hSource : e.source = old
        · simp [EditOperation.removedTypeEdge?, hLabel, hSource]
        · simpa [EditOperation.removedTypeEdge?, hLabel, hSource] using ih
      · simpa [EditOperation.removedTypeEdge?, hLabel] using ih
    | _ => exact ih

theorem RemovesTypesOnce.perm (h : RemovesTypesOnce operations) (hPerm : operations.Perm operations') :
    RemovesTypesOnce operations' :=
  ((hPerm.filterMap _).map _).nodup_iff.mp h

theorem RemovesTypesOnce.removedTypeEdge?_eq (h : RemovesTypesOnce operations) (hPerm : operations.Perm operations')
    (old : Vertex) : Inputs.removedTypeEdge? operations' old = Inputs.removedTypeEdge? operations old := by
  rw [Inputs.removedTypeEdge?_eq_find?, Inputs.removedTypeEdge?_eq_find?]
  exact (find?_eq_of_perm (hPerm.filterMap _) h old).symm

theorem Pass.judge_withOperations (hRemoved : ∀ old, Inputs.removedTypeEdge? operations old =
      Inputs.removedTypeEdge? inputs.operations old) (pass : Pass) (ledgers : Ledgers) (op : EditOperation) :
    pass.judge (inputs.withOperations operations) ledgers op = pass.judge inputs ledgers op := by
  have hPaired : (inputs.withOperations operations).pairedTypeEdge = inputs.pairedTypeEdge := by
    funext vertex op
    simp only [Inputs.pairedTypeEdge, Inputs.withOperations, hRemoved]
  cases pass with
  | typeEdges =>
    simp only [judge, Inputs.judgeTypeEdge, Inputs.judgeArgumentTypeInserted, Inputs.judgeFieldTypeInserted, hPaired]
    rfl
  | _ => rfl

namespace Pass

variable {pass : Pass} {start start' after : Ledgers} {found : List Finding}

/-- What a later pass finds about each of its operations, the ledgers at its start would find, and take. -/
theorem Walks.exists_takes (hPass : pass ≠ .typeVertices) (h : pass.Walks inputs start operations found after) :
    ∀ op ∈ operations, ∃ finding, pass.judge inputs start op = .ok finding ∧ start.Takes finding := by
  induction h with
  | nil => simp
  | cons hJudge hEnter _ ih =>
    refine List.forall_mem_cons.mpr ⟨⟨_, hJudge, Ledgers.exists_enter_iff.mp ⟨_, hEnter⟩⟩, fun op hOp => ?_⟩
    obtain ⟨finding, hFinding, hTakes⟩ := ih op hOp
    have hAlike := alike_of_enter hPass hJudge hEnter
    refine ⟨finding, (judge_congr hPass hAlike op).trans hFinding, ?_⟩
    exact (hAlike.takes_iff hPass (fits_of_judge hFinding)).mpr hTakes

/-- A later pass that gets to the end does so with its operations in another order too, and its records then differ in
the order of their details only. -/
theorem Walks.reordered (hPass : pass ≠ .typeVertices) (h : pass.Walks inputs start operations found after)
    (hJudge : ∀ ledgers op, pass.judge (inputs.withOperations operations') ledgers op = pass.judge inputs ledgers op)
    (hPerm : operations.Perm operations') (hStart : start.Reordered start') :
    ∃ found' after', pass.Walks (inputs.withOperations operations') start' operations' found' after' ∧
      after.Reordered after' := by
  have hAlike := hStart.alike pass
  have hTakes : ∀ op ∈ operations', ∃ finding, pass.judge (inputs.withOperations operations') start' op = .ok finding ∧
      start'.Takes finding := by
    intro op hOp
    obtain ⟨finding, hFinding, hTaken⟩ := h.exists_takes hPass op (hPerm.mem_iff.mpr hOp)
    refine ⟨finding, ?_, (hAlike.takes_iff hPass (fits_of_judge hFinding)).mp hTaken⟩
    rw [hJudge, ← judge_congr hPass hAlike, hFinding]
  obtain ⟨found', after', h'⟩ := exists_walks_of_takes pass hPass hTakes
  refine ⟨found', after', h', fun kind name => ?_⟩
  -- The findings of the two walks are those of the same ledgers, so they are permuted as the operations are.
  have hFound : found.Perm found' := by
    have hMap := hPerm.map (pass.judge inputs start)
    have hMap' := h'.map_judge_eq hPass hAlike.symm
    rw [funext (hJudge start)] at hMap'
    rw [h.map_judge_eq hPass (.refl pass start), hMap'] at hMap
    exact (List.map_perm_map_iff fun _ _ => Except.ok.inj).mp hMap
  have hJournal := (hFound.flatMap_right (·.journal kind)).filter (·.1 = name) |>.map Prod.snd
  rw [(h.records hPass (fun _ _ _ => fits_of_judge) kind).change?_eq,
    (h'.records hPass (fun _ _ _ => fits_of_judge) kind).change?_eq]
  exact Change.reordered_extend? (hStart kind name) hJournal

theorem Walks.reordered_typeVertices (h : typeVertices.Walks inputs Ledgers.empty inputs.operations found after)
    (hPerm : inputs.operations.Perm operations') : ∃ found' after',
      typeVertices.Walks (inputs.withOperations operations') Ledgers.empty operations' found' after' ∧
      after.Reordered after' := by
  have hSeeds : ∀ kind, (seeds kind inputs.operations).Perm (seeds kind operations') := fun _ => hPerm.filterMap _
  have hKept : ∀ op ∈ operations', op.KeepsTypeKind := fun op hOp =>
    keepsTypeKind_of_walks h op (hPerm.mem_iff.mpr hOp)
  have hNames : ∀ kind, ((Ledgers.empty.get kind).names ++ seedNames kind operations').Nodup := by
    intro kind
    have hEntries : (after.get kind).entries = seeds kind inputs.operations := by
      simpa [Ledger.empty] using entries_of_walks h kind
    have hNodup := (after.get kind).names_nodup
    rw [hEntries] at hNodup
    simpa [seedNames] using ((hSeeds kind).map Prod.fst).nodup_iff.mp hNodup
  obtain ⟨found', after', h'⟩ := exists_walks_typeVertices hKept hNames
  refine ⟨found', after', h', .of_change?_eq fun kind name => Option.ext fun change => ?_⟩
  exact (change?_seeded_iff h).trans ((hSeeds kind).mem_iff.trans (change?_seeded_iff h').symm)

end Pass

theorem CompleteRun.exists_reordered (run : CompleteRun inputs) (hPerm : inputs.operations.Perm operations)
    (hOnce : RemovesTypesOnce inputs.operations) :
    ∃ run' : CompleteRun (inputs.withOperations operations), run.final.Reordered run'.final := by
  have hJudge := Pass.judge_withOperations (hOnce.removedTypeEdge?_eq hPerm)
  obtain ⟨_, _, hTypes, hReordered⟩ := (run.walks .typeVertices).reordered_typeVertices hPerm
  obtain ⟨_, _, hFields, hReordered⟩ :=
    (run.walks .fieldVertices).reordered (by decide) (hJudge _) hPerm hReordered
  obtain ⟨_, _, hEdges, hReordered⟩ := (run.walks .typeEdges).reordered (by decide) (hJudge _) hPerm hReordered
  obtain ⟨_, _, hImplements, hReordered⟩ :=
    (run.walks .implementsEdges).reordered (by decide) (hJudge _) hPerm hReordered
  obtain ⟨_, _, hUnions, hReordered⟩ := (run.walks .unionMembers).reordered (by decide) (hJudge _) hPerm hReordered
  exact ⟨.ofWalks hTypes hFields hEdges hImplements hUnions, hReordered⟩

namespace Inputs

theorem exists_report_of_perm (hPerm : inputs.operations.Perm operations)
    (hOnce : RemovesTypesOnce inputs.operations) {report : Report} (h : inputs.analyze.result = .ok report) :
    ∃ report', (inputs.withOperations operations).analyze.result = .ok report' ∧ report.Reordered report' := by
  obtain ⟨run, rfl⟩ := analyze_eq_ok_iff.mp h
  obtain ⟨run', hReordered⟩ := run.exists_reordered hPerm hOnce
  exact ⟨run'.report, analyze_eq_ok_iff.mpr ⟨run', rfl⟩, hReordered.toReport⟩

theorem fails_iff {inputs : Inputs} :
    (∃ failure, inputs.analyze.result = .error failure) ↔ ∀ report, inputs.analyze.result ≠ .ok report := by
  cases inputs.analyze.result <;> simp

/-- Operations in another order fail exactly if the given ones do, and give the same report up to the order of records
and details, provided that no vertex loses two type edges. -/
theorem analyze_of_perm (hPerm : inputs.operations.Perm operations) (hOnce : RemovesTypesOnce inputs.operations) :
    ((∃ failure, (inputs.withOperations operations).analyze.result = .error failure) ↔
      ∃ failure, inputs.analyze.result = .error failure) ∧
    ∀ report report', inputs.analyze.result = .ok report →
      (inputs.withOperations operations).analyze.result = .ok report' → report.Reordered report' := by
  constructor
  · rw [fails_iff, fails_iff, not_iff_not.symm]
    simp only [not_forall, not_not]
    constructor
    · rintro ⟨report', h'⟩
      obtain ⟨report, h, _⟩ := exists_report_of_perm hPerm.symm (hOnce.perm hPerm) h'
      exact ⟨report, h⟩
    · rintro ⟨report, h⟩
      obtain ⟨report', h', _⟩ := exists_report_of_perm hPerm hOnce h
      exact ⟨report', h'⟩
  · intro report report' h h'
    obtain ⟨report'', h'', hReordered⟩ := exists_report_of_perm hPerm hOnce h
    cases h'.symm.trans h''
    exact hReordered

end Inputs

end

theorem analyze_of_perm_sample : RemovesTypesOnce Sample.inputs.operations ∧
    ∃ report, (Sample.inputs.withOperations Sample.inputs.operations.reverse).analyze.result = .ok report ∧
      Sample.report.Reordered report := by
  have hOnce : RemovesTypesOnce Sample.inputs.operations := by decide +kernel
  obtain ⟨hFails, hReports⟩ := Inputs.analyze_of_perm Sample.inputs.operations.reverse_perm.symm hOnce
  cases h : (Sample.inputs.withOperations Sample.inputs.operations.reverse).analyze.result with
  | ok report => exact ⟨hOnce, report, rfl, hReports _ report Sample.analyze_eq h⟩
  | error failure =>
    obtain ⟨failure', hFailure⟩ := hFails.mp ⟨failure, h⟩
    cases Sample.analyze_eq.symm.trans hFailure

end SchemaChange
