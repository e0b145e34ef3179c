import Mathlib.Data.List.Nodup

/-! # Lists without repetitions

In a list whose elements differ in some key an element is found by its key. Dropping repetitions keeps the first
occurrence of each element, so a list without repetitions stays in front.
-/
namespace SchemaChange

theorem find?_eq_some_of_nodup {α β : Type} [DecidableEq β] {f : α → β} {xs : List α} (h : (xs.map f).Nodup) {x : α}
    (hx : x ∈ xs) : xs.find? (f · = f x) = some x := by
  cases hFind : xs.find? (f · = f x) with
  | none => simpa using List.find?_eq_none.mp hFind x hx
  | some y =>
    have hEq : f y = f x := by simpa using List.find?_some hFind
    rw [List.inj_on_of_nodup_map h (List.mem_of_find?_eq_some hFind) hx hEq]

/-- Where an element is found by its key, it does not matter in which order the elements stand. -/
theorem find?_eq_of_perm {α β : Type} [DecidableEq β] {f : α → β} {xs ys : List α} (hPerm : xs.Perm ys)
    (h : (xs.map f).Nodup) (b : β) : xs.find? (f · = b) = ys.find? (f · = b) := by
  have hYs : (ys.map f).Nodup := (hPerm.map f).nodup_iff.mp h
  cases hFind : ys.find? (f · = b) with
  | some y =>
    have hKey : f y = b := by simpa using List.find?_some hFind
    rw [← hKey]
    exact find?_eq_some_of_nodup h (hPerm.mem_iff.mpr (List.mem_of_find?_eq_some hFind))
  | none =>
    refine List.find?_eq_none.mpr fun x hx => ?_
    exact List.find?_eq_none.mp hFind x (hPerm.mem_iff.mp hx)

theorem eraseDups_eq_self {α : Type} [BEq α] [LawfulBEq α] {xs : List α} (h : xs.Nodup) : xs.eraseDups = xs := by
  induction xs with
  | nil => rfl
  | cons x xs ih =>
    obtain ⟨hx, hxs⟩ := List.nodup_cons.mp h
    have hFilter : xs.filter (fun y => !y == x) = xs := by
      apply List.filter_eq_self.mpr
      intro y hy
      have hyx : y ≠ x := fun hEq => hx (hEq ▸ hy)
      simpa using hyx
    rw [List.eraseDups_cons, hFilter, ih hxs]

theorem nodup_eraseDups {α : Type} [BEq α] [LawfulBEq α] : ∀ xs : List α, xs.eraseDups.Nodup
  | [] => List.nodup_nil
  | x :: xs => by
    rw [List.eraseDups_cons]
    refine List.nodup_cons.mpr ⟨?_, nodup_eraseDups _⟩
    rw [List.mem_eraseDups, List.mem_filter]
    simp
termination_by xs => xs.length
decreasing_by exact Nat.lt_succ_of_le (List.length_filter_le _ _)

theorem eraseDups_append_of_nodup {α : Type} [BEq α] [LawfulBEq α] {xs : List α} (h : xs.Nodup) (ys : List α) :
    (xs ++ ys).eraseDups = xs ++ (ys.filter (!xs.contains ·)).eraseDups := by
  rw [List.eraseDups_append, eraseDups_eq_self h]
  rfl

theorem eraseDups_concat {α : Type} [DecidableEq α] (xs : List α) (x : α) :
    (xs ++ [x]).eraseDups = if x ∈ xs then xs.eraseDups else xs.eraseDups ++ [x] := by
  rw [List.eraseDups_append]
  by_cases h : x ∈ xs
  · simp [h, List.removeAll]
  · simp [h, List.removeAll, List.eraseDups_cons]

theorem eraseDups_append_eraseDups {α : Type} [BEq α] [LawfulBEq α] (xs ys : List α) :
    (xs.eraseDups ++ ys).eraseDups = (xs ++ ys).eraseDups := by
  rw [eraseDups_append_of_nodup (nodup_eraseDups xs), List.eraseDups_append]
  congr 2
  apply List.filter_congr
  intro y _
  simp [List.mem_eraseDups]

end SchemaChange
