import SchemaChange.Proofs.Admission
import SchemaChange.Proofs.Guarded.Halt
import SchemaChange.Proofs.Ledger
import SchemaChange.Proofs.Stores.Table

/-! # Ledgers as tables

A ledger store keeps records under their names, and in a second table the details of those that are modifications. The
second table is read without a look whether the name is in it. It always is: every store that entries make has exactly
the records and details of a ledger.
-/
namespace SchemaChange

/-- The change that a record is made with; its details are kept apart. -/
def Change.bare : Change → Change
  | modified _ => modified []
  | change => change

@[simp] theorem Change.className_bare (change : Change) : change.bare.className = change.className := by
  cases change <;> rfl

@[simp] theorem Change.isModified_bare (change : Change) : change.bare.isModified = change.isModified := by
  cases change <;> rfl

def LedgerError.bare : LedgerError → LedgerError
  | alreadyRecorded existing new => alreadyRecorded existing.bare new
  | notModified found => notModified found.bare

/-- A modification with other details is a modification in the same place. -/
theorem Ledger.filter_isModified_replace {l : Ledger} {name : String} {earlier details : List Detail}
    (h : l.change? name = some (.modified earlier)) :
    (l.replace name (.modified details)).entries.filter (·.2.isModified) =
      (l.entries.filter (·.2.isModified)).map fun entry =>
        if entry.1 = name then (entry.1, .modified details) else entry := by
  rw [replace, List.filter_map]
  congr 1
  apply List.filter_congr
  intro entry hMem
  by_cases hName : entry.1 = name
  · have hEntry : l.change? name = some entry.2 := change?_eq_some_iff.mpr (hName ▸ hMem)
    rw [Function.comp_apply, if_pos hName, Option.some.inj (hEntry.symm.trans h)]
    rfl
  · rw [Function.comp_apply, if_neg hName]

structure LedgerStore where
  kind : TypeKind
  records : Table String Difference
  details : Table String (List Detail)

namespace LedgerStore

def empty (kind : TypeKind) : LedgerStore := ⟨kind, [], []⟩

/-- Whether a record is of the ledger's own class for modifications. -/
def isModification (s : LedgerStore) (record : Difference) : Bool := record.kind = s.kind && record.change.isModified

def wasAdded (s : LedgerStore) (name : String) : Bool :=
  (s.records.get? name).any fun record => record.kind = s.kind && record.change = .added

def wasRemoved (s : LedgerStore) (name : String) : Bool :=
  (s.records.get? name).any fun record => record.kind = s.kind && record.change = .removed

def seed (s : LedgerStore) (name : String) (change : Change) : Guarded LedgerError LedgerStore :=
  match s.records.get? name with
  | some existing => .raise (.alreadyRecorded existing.change change)
  | none =>
    let record : Difference := ⟨s.kind, name, change⟩
    .ok {
      kind := s.kind
      records := s.records.set name record
      details := if s.isModification record then s.details.set name [] else s.details }

/-- The store with a modification under the name, a new one if nothing is recorded. -/
def opened (s : LedgerStore) (name : String) : Guarded LedgerError LedgerStore :=
  match s.records.get? name with
  | none => .ok {
      kind := s.kind
      records := s.records.set name ⟨s.kind, name, .modified []⟩
      details := s.details.set name [] }
  | some record => if s.isModification record then .ok s else .raise (.notModified record.change)

/-- The modification under a name, by its details. -/
def modification (s : LedgerStore) (name : String) : Guarded LedgerError (LedgerStore × List Detail) := do
  let after ← s.opened name
  let recorded ← .demand (.keyMissing name) (after.details.get? name)
  .ok (after, recorded)

/-- Adds a detail at the end of a name's modification. -/
def append (s : LedgerStore) (name : String) (detail : Detail) : Guarded LedgerError LedgerStore := do
  let (after, recorded) ← s.modification name
  .ok { after with details := after.details.set name (recorded ++ [detail]) }

def recordedDetails (s : LedgerStore) (name : String) : List Detail := (s.details.get? name).getD []

/-- A record as it stands in a report: a modification takes its details. -/
def frozen {ε : Type} (s : LedgerStore) (entry : String × Difference) : Guarded ε (String × Difference) :=
  if s.isModification entry.2 then do
    let recorded ← .demand (.keyMissing entry.1) (s.details.get? entry.1)
    .ok (entry.1, { entry.2 with change := .modified recorded })
  else .ok entry

def freeze {ε : Type} (s : LedgerStore) : Guarded ε Records := s.records.mapM s.frozen

def ofLedger (kind : TypeKind) (l : Ledger) : LedgerStore where
  kind := kind
  records := l.entries.map fun entry => (entry.1, ⟨kind, entry.1, entry.2.bare⟩)
  details := (l.entries.filter (·.2.isModified)).map fun entry => (entry.1, entry.2.details)

variable {kind : TypeKind} {l : Ledger} {name : String}

theorem ext {s t : LedgerStore} (hKind : s.kind = t.kind) (hRecords : s.records = t.records)
    (hDetails : s.details = t.details) : s = t := by
  cases s
  cases t
  cases hKind
  cases hRecords
  cases hDetails
  rfl

@[simp] theorem records_get?_ofLedger :
    (ofLedger kind l).records.get? name = (l.change? name).map fun change => ⟨kind, name, change.bare⟩ := by
  refine (Table.get?_ofList l.entries (·.1) (fun entry => (⟨kind, entry.1, entry.2.bare⟩ : Difference)) name).trans ?_
  rw [Ledger.change?]
  cases h : l.entries.find? (·.1 = name) with
  | none => rfl
  | some entry =>
    have hName : entry.1 = name := by simpa using List.find?_some h
    simp [hName]

@[simp] theorem isModification_ofLedger (change : Change) :
    (ofLedger kind l).isModification ⟨kind, name, change⟩ = change.isModified := by
  simp [isModification, ofLedger]

theorem details_get?_of_modified {details : List Detail} (h : l.change? name = some (.modified details)) :
    (ofLedger kind l).details.get? name = some details := by
  refine (Table.get?_ofList (l.entries.filter (·.2.isModified)) (·.1) (·.2.details) name).trans ?_
  have hNodup : ((l.entries.filter (·.2.isModified)).map Prod.fst).Nodup :=
    l.names_nodup.sublist (List.filter_sublist.map Prod.fst)
  have hMem : (name, .modified details) ∈ l.entries.filter (·.2.isModified) :=
    List.mem_filter.mpr ⟨Ledger.change?_eq_some_iff.mp h, rfl⟩
  rw [find?_eq_some_of_nodup hNodup hMem]
  rfl

theorem details_get?_eq_none (h : ∀ details, l.change? name ≠ some (.modified details)) :
    (ofLedger kind l).details.get? name = none := by
  refine (Table.get?_ofList (l.entries.filter (·.2.isModified)) (·.1) (·.2.details) name).trans ?_
  rw [Option.map_eq_none_iff]
  refine List.find?_eq_none.mpr fun entry hEntry hName => ?_
  obtain ⟨hMem, hModified⟩ := List.mem_filter.mp hEntry
  obtain ⟨other, change⟩ := entry
  obtain rfl : other = name := by simpa using hName
  cases change with
  | added | removed => cases hModified
  | modified details => exact h details (Ledger.change?_eq_some_iff.mpr hMem)

@[simp] theorem wasAdded_ofLedger : (ofLedger kind l).wasAdded name = l.wasAdded name := by
  rw [wasAdded, records_get?_ofLedger, Ledger.wasAdded]
  cases l.change? name with
  | none => rfl
  | some change => cases change <;> simp [ofLedger, Change.bare]

@[simp] theorem wasRemoved_ofLedger : (ofLedger kind l).wasRemoved name = l.wasRemoved name := by
  rw [wasRemoved, records_get?_ofLedger, Ledger.wasRemoved]
  cases l.change? name with
  | none => rfl
  | some change => cases change <;> simp [ofLedger, Change.bare]

@[simp] theorem recordedDetails_ofLedger : (ofLedger kind l).recordedDetails name = l.details name := by
  rw [recordedDetails, Ledger.details]
  cases h : l.change? name with
  | none =>
    rw [details_get?_eq_none (by simp [h])]
    rfl
  | some change =>
    cases change with
    | added | removed =>
      rw [details_get?_eq_none (by simp [h])]
      rfl
    | modified details =>
      rw [details_get?_of_modified h]
      rfl

theorem insert_ofLedger {change : Change} (h : l.change? name = none) (hBare : change.bare = change) :
    (⟨kind, (ofLedger kind l).records.set name ⟨kind, name, change⟩,
      if change.isModified then (ofLedger kind l).details.set name [] else (ofLedger kind l).details⟩ : LedgerStore) =
      ofLedger kind (l.insert name change h) := by
  have hDetails : (ofLedger kind l).details.get? name = none := details_get?_eq_none (by simp [h])
  refine ext rfl ?_ ?_
  · refine (Table.set_of_none (by simp [h])).trans ?_
    simp only [ofLedger, Ledger.insert, List.map_append, List.map_singleton, hBare]
  · cases change with
    | added | removed => simp [ofLedger, Ledger.insert, Change.isModified]
    | modified details =>
      cases hBare
      refine (Table.set_of_none hDetails).trans ?_
      simp [ofLedger, Ledger.insert, Change.isModified, Change.details]

theorem seed_ofLedger {change : Change} (hBare : change.bare = change) : (ofLedger kind l).seed name change =
    (Guarded.plain ((l.seed name change).mapError (·.bare))).map (ofLedger kind) := by
  cases h : l.change? name with
  | some existing =>
    have hSeed : l.seed name change = .error (.alreadyRecorded existing change) :=
      (Ledger.seed_eq_error_iff _).mpr ⟨existing, h, rfl⟩
    rw [seed, records_get?_ofLedger, h, hSeed]
    rfl
  | none =>
    have hSeed : l.seed name change = .ok (l.insert name change h) := Ledger.seed_eq_ok_iff.mpr ⟨h, rfl⟩
    rw [seed, records_get?_ofLedger, h, hSeed]
    simp only [Option.map_none]
    rw [show (ofLedger kind l).kind = kind from rfl, isModification_ofLedger]
    exact congrArg Except.ok (insert_ofLedger h hBare)

/-- The details of one modification grow; its record and those of the other names stay. -/
theorem replace_ofLedger {earlier details : List Detail} (h : l.change? name = some (.modified earlier)) :
    (⟨kind, (ofLedger kind l).records, (ofLedger kind l).details.set name details⟩ : LedgerStore) =
      ofLedger kind (l.replace name (.modified details)) := by
  have hEntry : ∀ entry ∈ l.entries, entry.1 = name → entry.2 = .modified earlier := by
    intro entry hMem hName
    have hSome : l.change? name = some entry.2 := Ledger.change?_eq_some_iff.mpr (hName ▸ hMem)
    exact Option.some.inj (hSome.symm.trans h)
  refine ext rfl ?_ ?_
  · simp only [ofLedger, Ledger.replace, List.map_map]
    apply List.map_congr_left
    intro entry hMem
    by_cases hName : entry.1 = name
    · simp [hName, hEntry entry hMem hName, Change.bare]
    · simp [hName]
  · have hDetails : (ofLedger kind l).details.get? name = some earlier := details_get?_of_modified h
    refine (Table.set_ofList_of_some hDetails).trans ?_
    simp only [ofLedger, Ledger.filter_isModified_replace h, List.map_map, Function.comp_def]
    apply List.map_congr_left
    intro entry _
    by_cases hName : entry.1 = name
    · simp [hName, Change.details]
    · simp [hName]

/-- The details of a modification are read where it is recorded as one, old or new. -/
theorem append_ofLedger (detail : Detail) : (ofLedger kind l).append name detail =
    (Guarded.plain ((l.amend name [detail]).mapError (·.bare))).map (ofLedger kind) := by
  cases h : l.change? name with
  | none =>
    have hDetails : (ofLedger kind l).details.get? name = none := details_get?_eq_none (by simp [h])
    have hOpened : (ofLedger kind l).opened name = .ok ⟨kind, (ofLedger kind l).records.set name ⟨kind, name, .modified []⟩,
        (ofLedger kind l).details ++ [(name, [])]⟩ := by
      rw [opened, records_get?_ofLedger, h, Table.set_of_none hDetails]
      rfl
    rw [Ledger.amend_of_none h, append, modification, hOpened]
    simp only [Guarded.ok_bind, Table.get?_append_of_none hDetails, Guarded.demand_some,
      Table.set_append_of_none hDetails]
    refine congrArg Except.ok (ext rfl ?_ ?_)
    · refine (Table.set_of_none (by simp [h])).trans ?_
      simp only [ofLedger, Ledger.insert, List.map_append, List.map_singleton]
      rfl
    · simp [ofLedger, Ledger.insert, Change.isModified, Change.details]
  | some change =>
    cases change with
    | modified earlier =>
      have hOpened : (ofLedger kind l).opened name = .ok (ofLedger kind l) := by
        rw [opened, records_get?_ofLedger, h, Option.map_some]
        exact if_pos (isModification_ofLedger _)
      rw [Ledger.amend_of_modified h, append, modification, hOpened]
      simp only [Guarded.ok_bind, details_get?_of_modified h, Guarded.demand_some]
      exact congrArg Except.ok (replace_ofLedger h)
    | added | removed =>
      rw [(Ledger.amend_eq_error_iff _).mpr ⟨_, h, by simp [Ledger.Open, h], rfl⟩, append, modification, opened,
        records_get?_ofLedger, h]
      simp only [Option.map_some, isModification_ofLedger]
      rfl

theorem frozen_ofLedger {ε : Type} {entry : String × Change} (hMem : entry ∈ l.entries) :
    (ofLedger kind l).frozen (entry.1, ⟨kind, entry.1, entry.2.bare⟩) =
      (.ok (entry.1, ⟨kind, entry.1, entry.2⟩) : Guarded ε (String × Difference)) := by
  obtain ⟨name, change⟩ := entry
  have hChange : l.change? name = some change := Ledger.change?_eq_some_iff.mpr hMem
  cases change with
  | added | removed =>
    simp only [frozen, isModification_ofLedger]
    rfl
  | modified details =>
    simp only [frozen, isModification_ofLedger, Change.isModified_bare, details_get?_of_modified hChange]
    rfl

/-- Every modification that a report takes has its details in the store. -/
theorem freeze_ofLedger {ε : Type} (kind : TypeKind) (l : Ledger) :
    (ofLedger kind l).freeze = (.ok (l.toRecords kind) : Guarded ε Records) := by
  have hEach : List.Forall₂ (fun entry record => (ofLedger kind l).frozen entry = (.ok record : Guarded ε _))
      (l.entries.map fun entry => (entry.1, ⟨kind, entry.1, entry.2.bare⟩)) (l.toRecords kind) := by
    rw [List.forall₂_map_left_iff, Ledger.toRecords, List.forall₂_map_right_iff, List.forall₂_same]
    exact fun entry hMem => frozen_ofLedger hMem
  exact mapM_eq_ok_iff.mpr hEach

end LedgerStore

end SchemaChange
