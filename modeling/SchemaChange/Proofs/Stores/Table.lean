import SchemaChange.Proofs.Distinct

/-! # Tables

A table keeps entries in the order in which their keys were first set. Setting a key that is there replaces its value
in place.
-/
namespace SchemaChange

abbrev Table (κ α : Type) := List (κ × α)

namespace Table

variable {κ α β : Type} [DecidableEq κ]

def get? (t : Table κ α) (key : κ) : Option α := (t.find? (·.1 = key)).map (·.2)

def set (t : Table κ α) (key : κ) (value : α) : Table κ α :=
  if (t.get? key).isSome then t.map fun entry => if entry.1 = key then (key, value) else entry
  else t ++ [(key, value)]

/-- A key that is there keeps its value. -/
def setDefault (t : Table κ α) (key : κ) (value : α) : Table κ α :=
  if (t.get? key).isSome then t else t ++ [(key, value)]

theorem get?_ofList (xs : List β) (f : β → κ) (g : β → α) (key : κ) :
    get? (xs.map fun x => (f x, g x)) key = (xs.find? (f · = key)).map g := by
  rw [get?, List.find?_map, Option.map_map]
  rfl

theorem set_of_none {t : Table κ α} {key : κ} {value : α} (h : t.get? key = none) :
    t.set key value = t ++ [(key, value)] := by
  rw [set, h]
  rfl

/-- A key that is set to the value it has leaves the table as it is. -/
theorem set_of_get? {t : Table κ α} {key : κ} {value : α} (hKeys : (t.map Prod.fst).Nodup)
    (h : t.get? key = some value) : t.set key value = t := by
  obtain ⟨held, hHeld, rfl⟩ := Option.map_eq_some_iff.mp h
  have hKey : held.1 = key := by simpa using List.find?_some hHeld
  rw [set, h, Option.isSome_some, if_pos rfl]
  refine (List.map_congr_left fun entry hEntry => ?_).trans (List.map_id t)
  split
  · rename_i hSame
    have hFound : t.find? (·.1 = key) = some entry := hSame ▸ find?_eq_some_of_nodup hKeys hEntry
    cases hHeld.symm.trans hFound
    rw [← hKey]
    rfl
  · rfl

theorem setDefault_of_none {t : Table κ α} {key : κ} {value : α} (h : t.get? key = none) :
    t.setDefault key value = t ++ [(key, value)] := by
  rw [setDefault, h]
  rfl

theorem setDefault_of_some {t : Table κ α} {key : κ} {value held : α} (h : t.get? key = some held) :
    t.setDefault key value = t := by
  rw [setDefault, h]
  rfl

theorem get?_append_of_none {t : Table κ α} {key : κ} (h : t.get? key = none) (value : α) :
    get? (t ++ [(key, value)]) key = some value := by
  rw [get?, List.find?_append, Option.map_eq_none_iff.mp h]
  simp

/-- The entry of a new key takes a second value in place. -/
theorem set_append_of_none {t : Table κ α} {key : κ} (h : t.get? key = none) (first second : α) :
    set (t ++ [(key, first)]) key second = t ++ [(key, second)] := by
  have hKept : t.map (fun entry => if entry.1 = key then (key, second) else entry) = t.map id := by
    apply List.map_congr_left
    intro entry hEntry
    have hKey : entry.1 ≠ key := by simpa using List.find?_eq_none.mp (Option.map_eq_none_iff.mp h) entry hEntry
    exact if_neg hKey
  rw [set, get?_append_of_none h, Option.isSome_some, if_pos rfl, List.map_append, hKept, List.map_id]
  simp

/-- In a table with an entry for each element of a list, setting a key replaces the values of the elements under it. -/
theorem set_ofList_of_some {xs : List β} {f : β → κ} {g : β → α} {key : κ} {value held : α}
    (h : get? (xs.map fun x => (f x, g x)) key = some held) :
    set (xs.map fun x => (f x, g x)) key value = xs.map fun x => (f x, if f x = key then value else g x) := by
  rw [set, h, Option.isSome_some, if_pos rfl, List.map_map]
  apply List.map_congr_left
  intro x _
  by_cases hKey : f x = key
  · simp [hKey]
  · simp [hKey]

end Table

end SchemaChange
