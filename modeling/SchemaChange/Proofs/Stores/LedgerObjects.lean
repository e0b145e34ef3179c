import SchemaChange.Proofs.Histories
import SchemaChange.Proofs.Stores.Ledger

/-! # Ledgers with lists as objects

A list of details is an object of its own. A ledger's second table refers to it, a call for details hands it out, and
whoever holds it may append to it at any time without going through the ledger. Here a list is known by its place among
all lists that were made. The objects that hold a ledger are determined by it and by the lists that were handed out, and
an entry of the ledger changes them as the calls do.
-/
namespace SchemaChange

open History

theorem Change.exists_details {change : Change} (h : change.isModified = true) :
    ∃ details, change = .modified details := by
  cases change with
  | added | removed => cases h
  | modified details => exact ⟨details, rfl⟩

namespace Ledger

variable {l after : Ledger} {name : String} {change : Change} {details : List Detail}

/-- The names that have a modification, in the order in which they were first recorded. -/
def modifiedNames (l : Ledger) : List String := (l.entries.filter (·.2.isModified)).map Prod.fst

theorem nodup_modifiedNames (l : Ledger) : l.modifiedNames.Nodup :=
  l.names_nodup.sublist (List.filter_sublist.map Prod.fst)

theorem mem_modifiedNames_iff :
    name ∈ l.modifiedNames ↔ ∃ details, l.change? name = some (.modified details) := by
  simp only [modifiedNames, List.mem_map, List.mem_filter, change?_eq_some_iff]
  constructor
  · rintro ⟨⟨_, change⟩, ⟨hMem, hModified⟩, rfl⟩
    cases change with
    | added | removed => cases hModified
    | modified details => exact ⟨details, hMem⟩
  · rintro ⟨details, hMem⟩
    exact ⟨_, ⟨hMem, rfl⟩, rfl⟩

theorem mem_modifiedNames_iff_of_some (h : l.change? name = some change) :
    name ∈ l.modifiedNames ↔ change.isModified = true := by
  rw [mem_modifiedNames_iff, h]
  cases change <;> simp [Change.isModified]

theorem not_mem_modifiedNames (h : l.change? name = none) : name ∉ l.modifiedNames := by
  simp [mem_modifiedNames_iff, h]

theorem modifiedNames_insert (h : l.change? name = none) : (l.insert name change h).modifiedNames =
    if change.isModified then l.modifiedNames ++ [name] else l.modifiedNames := by
  cases change <;> simp [modifiedNames, insert, Change.isModified]

theorem details_insert (h : l.change? name = none) (other : String) :
    (l.insert name change h).details other = if other = name then change.details else l.details other := by
  simp only [Ledger.details, change?_insert]
  split <;> rfl

/-- A new name does not come between what others have recorded. -/
theorem map_details_insert (h : l.change? name = none) :
    l.modifiedNames.map (l.insert name change h).details = l.modifiedNames.map l.details := by
  apply List.map_congr_left
  intro other hOther
  have hne : other ≠ name := fun hSame => not_mem_modifiedNames h (hSame ▸ hOther)
  rw [details_insert, if_neg hne]

theorem modifiedNames_replace {earlier : List Detail} (h : l.change? name = some (.modified earlier)) :
    (l.replace name (.modified details)).modifiedNames = l.modifiedNames := by
  rw [modifiedNames, filter_isModified_replace h, List.map_map]
  apply List.map_congr_left
  intro entry _
  simp only [Function.comp]
  split <;> rfl

theorem details_replace (h : name ∈ l.names) (other : String) :
    (l.replace name change).details other = if other = name then change.details else l.details other := by
  simp only [Ledger.details, change?_replace h]
  split <;> rfl

theorem modifiedNames_of_seed (h : l.seed name change = .ok after) : after.modifiedNames =
    if change.isModified then l.modifiedNames ++ [name] else l.modifiedNames := by
  obtain ⟨hNone, rfl⟩ := seed_eq_ok_iff.mp h
  exact modifiedNames_insert hNone

theorem modifiedNames_of_amend (h : l.amend name details = .ok after) : after.modifiedNames =
    if name ∈ l.modifiedNames then l.modifiedNames else l.modifiedNames ++ [name] := by
  unfold amend at h
  split at h
  · rename_i hNone
    cases h
    rw [modifiedNames_insert, if_neg (not_mem_modifiedNames hNone)]
    rfl
  · rename_i earlier hModified
    cases h
    rw [modifiedNames_replace hModified, if_pos (mem_modifiedNames_iff.mpr ⟨_, hModified⟩)]
  · cases h

/-- A modification that gets no further details stays as it is. -/
theorem amend_nil_of_modified {earlier : List Detail} (h : l.change? name = some (.modified earlier)) :
    l.amend name [] = .ok l := by
  rw [amend_of_modified h, List.append_nil]
  refine congrArg Except.ok (ext_entries ((List.map_congr_left fun entry hMem => ?_).trans (List.map_id _)))
  split
  · rename_i hName
    have hEntry : l.change? name = some entry.2 := change?_eq_some_iff.mpr (hName ▸ hMem)
    exact Prod.ext rfl (Option.some.inj (h.symm.trans hEntry))
  · rfl

end Ledger

/-- A change at the place of an element changes the value of this element only. -/
theorem modify_idxOf_map {α β : Type} [DecidableEq α] {xs : List α} (h : xs.Nodup) {x : α} (f : α → β)
    (g : β → β) :
    (xs.map f).modify (xs.idxOf x) g = xs.map fun y => if y = x then g (f y) else f y := by
  apply List.ext_getElem (by simp)
  intro i hLeft hRight
  have hi : i < xs.length := by simpa using hRight
  simp only [List.getElem_modify, List.getElem_map]
  by_cases hx : xs[i] = x
  · rw [if_pos hx, if_pos (hx ▸ h.idxOf_getElem i hi)]
  · have hPlace : xs.idxOf x ≠ i := by
      rintro rfl
      exact hx (List.getElem_idxOf hi)
    rw [if_neg hx, if_neg hPlace]

namespace Table

variable {κ : Type} [DecidableEq κ] {keys later : List κ} {key : κ}

/-- Each key with its place among the keys. -/
def places (keys : List κ) : Table κ Nat := keys.map fun key => (key, keys.idxOf key)

theorem get?_places_of_mem (h : keys.Nodup) (hKey : key ∈ keys) :
    (places keys).get? key = some (keys.idxOf key) := by
  refine (get?_ofList keys id keys.idxOf key).trans ?_
  have hFind : keys.find? (id · = key) = some key :=
    find?_eq_some_of_nodup ((List.map_id keys).symm ▸ h) hKey
  rw [hFind]
  rfl

theorem get?_places_of_not_mem (hKey : key ∉ keys) : (places keys).get? key = none := by
  refine (get?_ofList keys id keys.idxOf key).trans ?_
  rw [Option.map_eq_none_iff]
  refine List.find?_eq_none.mpr fun other hOther hSame => hKey ?_
  obtain rfl : other = key := by simpa using hSame
  exact hOther

/-- Keys keep their places when others come behind. -/
theorem places_append (keys later : List κ) :
    places (keys ++ later) = places keys ++ later.map fun key => (key, (keys ++ later).idxOf key) := by
  rw [places, List.map_append]
  congr 1
  apply List.map_congr_left
  intro key hKey
  rw [List.idxOf_append_of_mem hKey]

theorem places_concat (h : key ∉ keys) : places (keys ++ [key]) = places keys ++ [(key, keys.length)] := by
  rw [places_append, List.map_singleton, List.idxOf_append_of_notMem h, List.idxOf_cons_self]
  rfl

theorem nodup_places (keys : List κ) (h : keys.Nodup) : ((places keys).map Prod.snd).Nodup := by
  rw [places, List.map_map]
  exact h.map_on fun key hKey _ _ hSame => (List.idxOf_inj hKey).mp hSame

end Table

/-- The tables of a ledger, the lists that were made, and the places of those that were handed out. -/
@[ext] structure LedgerObjects where
  kind : TypeKind
  records : Table String Difference
  places : Table String Nat
  lists : List (List Detail)
  handles : List Nat

namespace LedgerObjects

def empty (kind : TypeKind) : LedgerObjects := ⟨kind, [], [], [], []⟩

def list (t : LedgerObjects) (place : Nat) : List Detail := t.lists.getD place []

/-- The tables with the lists as they are at the moment. -/
def contents (t : LedgerObjects) : LedgerStore where
  kind := t.kind
  records := t.records
  details := t.places.map fun entry => (entry.1, t.list entry.2)

def isModification (t : LedgerObjects) (record : Difference) : Bool := record.kind = t.kind && record.change.isModified

/-- Each modification takes a copy of its list. -/
def freeze {ε : Type} (t : LedgerObjects) : Guarded ε Records := t.contents.freeze

/-- An empty list for a name. -/
def makeList (name : String) : Procedure LedgerObjects LedgerError Unit := do
  let place := (← get).lists.length
  modify fun t => { t with lists := t.lists ++ [[]] }
  modify fun t => { t with places := t.places.set name place }

def seed (name : String) (change : Change) : Procedure LedgerObjects LedgerError Unit := do
  match (← get).records.get? name with
  | some existing => throw (.raised (.alreadyRecorded existing.change change))
  | none => pure ()
  let record : Difference := ⟨(← get).kind, name, change⟩
  modify fun t => { t with records := t.records.set name record }
  if (← get).isModification record then makeList name

/-- Hands out the list of a name's modification, a new one if nothing is recorded. -/
def handOut (name : String) : Procedure LedgerObjects LedgerError Unit := do
  match (← get).records.get? name with
  | none =>
    modify fun t => { t with records := t.records.set name ⟨t.kind, name, .modified []⟩ }
    makeList name
  | some record => if !(← get).isModification record then throw (.raised (.notModified record.change))
  let place ← require (.keyMissing name) ((← get).places.get? name)
  modify fun t => { t with handles := t.handles ++ [place] }

/-- Appends to a list that was handed out. Where there is none, there is nothing to append to. -/
def append (handle : Nat) (detail : Detail) : Procedure LedgerObjects LedgerError Unit :=
  modify fun t =>
    match t.handles[handle]? with
    | some place => { t with lists := t.lists.modify place (· ++ [detail]) }
    | none => t

variable {t : LedgerObjects} {name : String} {change : Change}

theorem perform_seed (t : LedgerObjects) (name : String) (change : Change) : perform (seed name change) t =
    match t.records.get? name with
    | some existing => (.error (.raised (.alreadyRecorded existing.change change)), t)
    | none => (.ok (),
        if change.isModified then {
          t with
          records := t.records.set name ⟨t.kind, name, change⟩
          places := t.places.set name t.lists.length
          lists := t.lists ++ [[]] }
        else { t with records := t.records.set name ⟨t.kind, name, change⟩ }) := by
  simp only [seed, perform_get_bind]
  cases t.records.get? name with
  | some existing => rfl
  | none =>
    cases hModified : change.isModified with
    | true => simp [isModification, hModified, makeList]
    | false =>
      simp only [perform_get_bind, perform_modify_bind, isModification, hModified, Bool.and_false]
      rfl

theorem perform_handOut_of_none (h : t.records.get? name = none) (hPlace : t.places.get? name = none) :
    perform (handOut name) t = (.ok (), {
      t with
      records := t.records.set name ⟨t.kind, name, .modified []⟩
      places := t.places ++ [(name, t.lists.length)]
      lists := t.lists ++ [[]]
      handles := t.handles ++ [t.lists.length] }) := by
  simp [handOut, makeList, h, Table.set_of_none hPlace, Table.get?_append_of_none hPlace]

theorem perform_handOut_of_modification {record : Difference} {place : Nat} (h : t.records.get? name = some record)
    (hModified : t.isModification record = true) (hPlace : t.places.get? name = some place) :
    perform (handOut name) t = (.ok (), { t with handles := t.handles ++ [place] }) := by
  simp [handOut, h, hModified, hPlace]

theorem perform_handOut_of_other {record : Difference} (h : t.records.get? name = some record)
    (hModified : t.isModification record = false) :
    perform (handOut name) t = (.error (.raised (.notModified record.change)), t) := by
  simp [handOut, h, hModified]

theorem perform_append_of_some {handle place : Nat} (h : t.handles[handle]? = some place) (detail : Detail) :
    perform (append handle detail) t = (.ok (), { t with lists := t.lists.modify place (· ++ [detail]) }) := by
  simp [append, h]

theorem perform_append_of_none {handle : Nat} (h : t.handles[handle]? = none) (detail : Detail) :
    perform (append handle detail) t = (.ok (), t) := by
  simp [append, h]

/-- The objects that hold a ledger after the lists of some names were handed out. -/
def ofLedger (kind : TypeKind) (l : Ledger) (handles : List String) : LedgerObjects where
  kind := kind
  records := l.entries.map fun entry => (entry.1, ⟨kind, entry.1, entry.2.bare⟩)
  places := Table.places l.modifiedNames
  lists := l.modifiedNames.map l.details
  handles := handles.map l.modifiedNames.idxOf

variable {kind : TypeKind} {l : Ledger} {handles : List String}

@[simp] theorem records_get?_ofLedger : (ofLedger kind l handles).records.get? name =
    (l.change? name).map fun change => ⟨kind, name, change.bare⟩ :=
  LedgerStore.records_get?_ofLedger

@[simp] theorem isModification_ofLedger (change : Change) :
    (ofLedger kind l handles).isModification ⟨kind, name, change⟩ = change.isModified := by
  simp [isModification, ofLedger]

theorem places_get?_of_modified {details : List Detail} (h : l.change? name = some (.modified details)) :
    (ofLedger kind l handles).places.get? name = some (l.modifiedNames.idxOf name) :=
  Table.get?_places_of_mem l.nodup_modifiedNames (Ledger.mem_modifiedNames_iff.mpr ⟨details, h⟩)

/-- A list that was handed out is the one that its name has. -/
theorem handles_eq_place (hHandles : handles ⊆ l.modifiedNames) {handle : Nat} (h : handles[handle]? = some name) :
    (ofLedger kind l handles).handles[handle]? = (ofLedger kind l handles).places.get? name := by
  have hName : name ∈ l.modifiedNames := hHandles (List.mem_of_getElem? h)
  rw [ofLedger, List.getElem?_map, h, Table.get?_places_of_mem l.nodup_modifiedNames hName]
  rfl

theorem places_get?_of_none (h : l.change? name = none) : (ofLedger kind l handles).places.get? name = none :=
  Table.get?_places_of_not_mem (Ledger.not_mem_modifiedNames h)

/-- A name has a list exactly if its record is a modification. -/
theorem exists_place_iff : (∃ place, (ofLedger kind l handles).places.get? name = some place) ↔
    ∃ record, (ofLedger kind l handles).records.get? name = some record ∧
      (ofLedger kind l handles).isModification record = true := by
  rw [records_get?_ofLedger]
  cases h : l.change? name with
  | none => simp [places_get?_of_none h]
  | some change =>
    have hMem := Ledger.mem_modifiedNames_iff_of_some h
    cases hClass : change.isModified with
    | true =>
      have hPlace := Table.get?_places_of_mem l.nodup_modifiedNames (hMem.mpr hClass)
      simp [ofLedger, hPlace, isModification, hClass]
    | false =>
      have hPlace := Table.get?_places_of_not_mem (mt hMem.mp (by simp [hClass]))
      simp [ofLedger, hPlace, isModification, hClass]

theorem list_idxOf_ofLedger (h : name ∈ l.modifiedNames) :
    (ofLedger kind l handles).list (l.modifiedNames.idxOf name) = l.details name := by
  rw [list, ofLedger, List.getD_eq_getElem?_getD, List.getElem?_map, List.getElem?_idxOf h]
  rfl

/-- Read as tables, the objects are the tables of the ledger. -/
theorem contents_ofLedger : (ofLedger kind l handles).contents = .ofLedger kind l := by
  refine LedgerStore.ext rfl rfl ?_
  have hPlaces : (ofLedger kind l handles).places =
      (l.entries.filter (·.2.isModified)).map fun entry => (entry.1, l.modifiedNames.idxOf entry.1) :=
    List.map_map
  rw [contents, hPlaces, List.map_map]
  apply List.map_congr_left
  rintro ⟨name, change⟩ hMem
  have hName : name ∈ l.modifiedNames := List.mem_map.mpr ⟨_, hMem, rfl⟩
  have hChange : l.change? name = some change := Ledger.change?_eq_some_iff.mpr (List.mem_filter.mp hMem).1
  rw [Function.comp_apply, list_idxOf_ofLedger hName, Ledger.details, hChange]
  rfl

theorem records_insert (h : l.change? name = none) (hBare : change.bare = change) :
    (ofLedger kind (l.insert name change h) handles).records =
      (ofLedger kind l handles).records ++ [(name, ⟨kind, name, change⟩)] := by
  simp [ofLedger, Ledger.insert, hBare]

/-- A change that takes no details has a record and no list. -/
theorem ofLedger_insert_of_final (h : l.change? name = none) (hFinal : change.isModified = false) :
    ofLedger kind (l.insert name change h) handles =
      { ofLedger kind l handles with
        records := (ofLedger kind l handles).records ++ [(name, ⟨kind, name, change⟩)] } := by
  have hNames : (l.insert name change h).modifiedNames = l.modifiedNames := by
    rw [Ledger.modifiedNames_insert, hFinal]
    rfl
  have hBare : change.bare = change := by
    cases change with
    | added | removed => rfl
    | modified details => cases hFinal
  refine LedgerObjects.ext rfl (records_insert h hBare) ?places ?lists ?handles
  case places | handles => simp only [ofLedger, hNames]
  case lists => simp only [ofLedger, hNames, Ledger.map_details_insert h]

/-- A new modification has an empty list, which is the last one. -/
theorem ofLedger_insert_modified (h : l.change? name = none) (hHandles : handles ⊆ l.modifiedNames) :
    ofLedger kind (l.insert name (.modified []) h) handles =
      { ofLedger kind l handles with
        records := (ofLedger kind l handles).records ++ [(name, ⟨kind, name, .modified []⟩)]
        places := (ofLedger kind l handles).places ++ [(name, (ofLedger kind l handles).lists.length)]
        lists := (ofLedger kind l handles).lists ++ [[]] } := by
  have hNames : (l.insert name (.modified []) h).modifiedNames = l.modifiedNames ++ [name] := by
    rw [Ledger.modifiedNames_insert]
    rfl
  refine LedgerObjects.ext rfl (records_insert h rfl) ?places ?lists ?handles <;> simp only [ofLedger, hNames]
  case places => rw [Table.places_concat (Ledger.not_mem_modifiedNames h), List.length_map]
  case lists =>
    rw [List.map_append, Ledger.map_details_insert h, List.map_singleton, Ledger.details_insert, if_pos rfl]
    rfl
  case handles => exact List.map_congr_left fun _ hHandle => List.idxOf_append_of_mem (hHandles hHandle)

/-- Further details of a modification are appended to its list, and nothing else changes. -/
theorem ofLedger_replace {earlier : List Detail} (h : l.change? name = some (.modified earlier)) (more : List Detail) :
    ofLedger kind (l.replace name (.modified (earlier ++ more))) handles =
      { ofLedger kind l handles with
        lists := (ofLedger kind l handles).lists.modify (l.modifiedNames.idxOf name) (· ++ more) } := by
  have hNames : (l.replace name (.modified (earlier ++ more))).modifiedNames = l.modifiedNames :=
    Ledger.modifiedNames_replace h
  have hRecords : (LedgerStore.ofLedger kind (l.replace name (.modified (earlier ++ more)))).records =
      (LedgerStore.ofLedger kind l).records :=
    (congrArg LedgerStore.records (LedgerStore.replace_ofLedger h)).symm
  have hLists : l.modifiedNames.map (l.replace name (.modified (earlier ++ more))).details =
      (l.modifiedNames.map l.details).modify (l.modifiedNames.idxOf name) (· ++ more) := by
    rw [modify_idxOf_map l.nodup_modifiedNames]
    apply List.map_congr_left
    intro other _
    rw [Ledger.details_replace (Ledger.mem_names_iff.mpr ⟨_, h⟩)]
    by_cases hSame : other = name
    · rw [if_pos hSame, if_pos hSame, hSame, Ledger.details, h]
      rfl
    · rw [if_neg hSame, if_neg hSame]
  refine LedgerObjects.ext rfl hRecords ?places ?lists ?handles
  case places | handles => simp only [ofLedger, hNames]
  case lists => simp only [ofLedger, hNames, hLists]

/-- A list that is handed out is named by its place. -/
theorem ofLedger_handOut (kind : TypeKind) (l : Ledger) (handles : List String) (name : String) :
    ofLedger kind l (handles ++ [name]) =
      { ofLedger kind l handles with
        handles := (ofLedger kind l handles).handles ++ [l.modifiedNames.idxOf name] } := by
  simp [ofLedger]

theorem perform_seed_ofLedger_of_some {existing : Change} (h : l.change? name = some existing) :
    perform (seed name change) (ofLedger kind l handles) =
      (.error (.raised (.alreadyRecorded existing.bare change)), ofLedger kind l handles) := by
  rw [perform_seed, records_get?_ofLedger, h]
  rfl

theorem perform_seed_ofLedger_of_none (h : l.change? name = none) (hBare : change.bare = change)
    (hHandles : handles ⊆ l.modifiedNames) : perform (seed name change) (ofLedger kind l handles) =
      (.ok (), ofLedger kind (l.insert name change h) handles) := by
  have hRecord : (ofLedger kind l handles).records.get? name = none := by simp [h]
  simp only [perform_seed, hRecord, Table.set_of_none hRecord, Table.set_of_none (places_get?_of_none h)]
  cases change with
  | added | removed => exact congrArg _ (ofLedger_insert_of_final h rfl).symm
  | modified details =>
    cases hBare
    exact congrArg _ (ofLedger_insert_modified h hHandles).symm

theorem perform_handOut_ofLedger_of_none (h : l.change? name = none) (hHandles : handles ⊆ l.modifiedNames) :
    perform (handOut name) (ofLedger kind l handles) =
      (.ok (), ofLedger kind (l.insert name (.modified []) h) (handles ++ [name])) := by
  have hRecord : (ofLedger kind l handles).records.get? name = none := by simp [h]
  have hPlace : (l.insert name (.modified []) h).modifiedNames.idxOf name = (ofLedger kind l handles).lists.length := by
    have hFresh := Ledger.not_mem_modifiedNames h
    simp [Ledger.modifiedNames_insert, Change.isModified, List.idxOf_append_of_notMem hFresh, ofLedger]
  rw [perform_handOut_of_none hRecord (places_get?_of_none h), Table.set_of_none hRecord, ofLedger_handOut, hPlace,
    ofLedger_insert_modified h hHandles]
  rfl

theorem perform_handOut_ofLedger_of_modified {details : List Detail} (h : l.change? name = some (.modified details)) :
    perform (handOut name) (ofLedger kind l handles) = (.ok (), ofLedger kind l (handles ++ [name])) := by
  have hRecord : (ofLedger kind l handles).records.get? name = some ⟨kind, name, .modified []⟩ := by
    rw [records_get?_ofLedger, h]
    rfl
  rw [perform_handOut_of_modification hRecord (isModification_ofLedger _) (places_get?_of_modified h), ofLedger_handOut]

theorem perform_handOut_ofLedger_of_final (h : l.change? name = some change) (hFinal : change.isModified = false) :
    perform (handOut name) (ofLedger kind l handles) =
      (.error (.raised (.notModified change.bare)), ofLedger kind l handles) := by
  have hRecord : (ofLedger kind l handles).records.get? name = some ⟨kind, name, change.bare⟩ := by
    rw [records_get?_ofLedger, h]
    rfl
  have hOther : (ofLedger kind l handles).isModification ⟨kind, name, change.bare⟩ = false := by
    rw [isModification_ofLedger, Change.isModified_bare, hFinal]
  exact perform_handOut_of_other hRecord hOther

/-- Only the list of an addition or a removal is refused. -/
theorem perform_handOut_stops_iff (hHandles : handles ⊆ l.modifiedNames) {halt : Halt LedgerError} :
    (perform (handOut name) (ofLedger kind l handles)).1 = .error halt ↔
      ∃ record, (ofLedger kind l handles).records.get? name = some record ∧
        (ofLedger kind l handles).isModification record = false ∧ halt = .raised (.notModified record.change) := by
  rw [records_get?_ofLedger]
  cases h : l.change? name with
  | none => simp [perform_handOut_ofLedger_of_none h hHandles]
  | some change =>
    cases hClass : change.isModified with
    | true =>
      obtain ⟨details, rfl⟩ := Change.exists_details hClass
      simp [perform_handOut_ofLedger_of_modified h, hClass]
    | false =>
      rw [perform_handOut_ofLedger_of_final h hClass]
      constructor
      · rintro ⟨⟩
        exact ⟨_, rfl, by simp [hClass], rfl⟩
      · rintro ⟨_, ⟨⟩, _, rfl⟩
        rfl

theorem perform_append_ofLedger_of_some {handle : Nat} {earlier : List Detail} (hHandle : handles[handle]? = some name)
    (h : l.change? name = some (.modified earlier)) (detail : Detail) :
    perform (append handle detail) (ofLedger kind l handles) =
      (.ok (), ofLedger kind (l.replace name (.modified (earlier ++ [detail]))) handles) := by
  have hPlace : (ofLedger kind l handles).handles[handle]? = some (l.modifiedNames.idxOf name) := by
    simp [ofLedger, hHandle]
  rw [perform_append_of_some hPlace, ofLedger_replace h]

theorem perform_append_ofLedger_of_none {handle : Nat} (hHandle : handles[handle]? = none) (detail : Detail) :
    perform (append handle detail) (ofLedger kind l handles) = (.ok (), ofLedger kind l handles) := by
  refine perform_append_of_none ?_ detail
  rw [ofLedger, List.getElem?_map, hHandle]
  rfl

end LedgerObjects

end SchemaChange
