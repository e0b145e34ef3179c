import SchemaChange.Difference.Report

/-! # Ledgers

A ledger keeps the changes of one kind of type in the order in which their names were first recorded. A name has one
change: additions and removals are final, modifications collect details. A refused entry changes nothing.
-/
namespace SchemaChange

inductive LedgerError where
  | alreadyRecorded (existing new : Change)
  | notModified (found : Change)
  deriving DecidableEq, Repr

structure Ledger where
  entries : List (String × Change)
  names_nodup : (entries.map Prod.fst).Nodup

namespace Ledger

def empty : Ledger := ⟨[], List.nodup_nil⟩

def size (l : Ledger) : Nat := l.entries.length

def change? (l : Ledger) (name : String) : Option Change :=
  (l.entries.find? (·.1 = name)).map (·.2)

def wasAdded (l : Ledger) (name : String) : Bool := l.change? name = some .added

def wasRemoved (l : Ledger) (name : String) : Bool := l.change? name = some .removed

/-- The details recorded so far for a name; none unless it is recorded as a modification. -/
def details (l : Ledger) (name : String) : List Detail := ((l.change? name).map (·.details)).getD []

theorem name_not_mem_of_change? {l : Ledger} {name : String} (h : l.change? name = none) :
    name ∉ l.entries.map Prod.fst := by
  intro hMem
  obtain ⟨e, he, rfl⟩ := List.mem_map.1 hMem
  simpa using List.find?_eq_none.1 (Option.map_eq_none_iff.1 h) e he

def insert (l : Ledger) (name : String) (change : Change) (h : l.change? name = none) : Ledger where
  entries := l.entries ++ [(name, change)]
  names_nodup := by
    rw [List.map_append]
    exact nodup_concat l.names_nodup (name_not_mem_of_change? h)

/-- The same names in the same places, with another change for one of them. -/
def replace (l : Ledger) (name : String) (change : Change) : Ledger where
  entries := l.entries.map fun e => if e.1 = name then (e.1, change) else e
  names_nodup := by
    have h : (l.entries.map fun e => if e.1 = name then (e.1, change) else e).map Prod.fst
        = l.entries.map Prod.fst := by
      rw [List.map_map]
      apply List.map_congr_left
      intro e _
      simp only [Function.comp]
      split <;> rfl
    rw [h]
    exact l.names_nodup

/-- Records a change for a name that has none yet. -/
def seed (l : Ledger) (name : String) (change : Change) : Except LedgerError Ledger :=
  match h : l.change? name with
  | some existing => .error (.alreadyRecorded existing change)
  | none => .ok (l.insert name change h)

/-- Appends details to the modification of a name, which is made if the name has no change yet. -/
def amend (l : Ledger) (name : String) (details : List Detail) : Except LedgerError Ledger :=
  match h : l.change? name with
  | none => .ok (l.insert name (.modified details) h)
  | some (.modified earlier) => .ok (l.replace name (.modified (earlier ++ details)))
  | some found => .error (.notModified found)

/-- The entries as records of a report, each under its own name. -/
def toRecords (l : Ledger) (kind : TypeKind) : Records :=
  l.entries.map fun e => (e.1, ⟨kind, e.1, e.2⟩)

end Ledger

abbrev Ledgers := ByKind Ledger

namespace Ledgers

def empty : Ledgers := ByKind.ofFn fun _ => Ledger.empty

def toReport (ledgers : Ledgers) : Report := ByKind.ofFn fun kind => (ledgers.get kind).toRecords kind

def sizes (ledgers : Ledgers) : ByKind Nat := ByKind.ofFn fun kind => (ledgers.get kind).size

end Ledgers

end SchemaChange
