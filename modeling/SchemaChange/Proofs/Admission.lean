import Mathlib.Data.List.Forall2
import SchemaChange.Proofs.Walk

/-! # Loops that may refuse an element

A loop whose steps may fail goes through a list exactly if every step admits its element after those before it. Where
the admitted lists are known, and what has been built from them, a fact about one step gives the fact about the loop.
-/
namespace SchemaChange

variable {ε ε' α β σ : Type}

theorem mapError_eq_ok_iff {f : ε → ε'} {x : Except ε α} {a : α} : x.mapError f = .ok a ↔ x = .ok a := by
  cases x <;> simp [Except.mapError]

theorem map_eq_ok_iff {f : α → β} {x : Except ε α} {b : β} : x.map f = .ok b ↔ ∃ a, x = .ok a ∧ b = f a := by
  cases x <;> simp [Except.map, eq_comm]

theorem mapM_eq_ok_iff {f : α → Except ε β} {xs : List α} {ys : List β} :
    xs.mapM f = .ok ys ↔ List.Forall₂ (fun x y => f x = .ok y) xs ys := by
  induction xs generalizing ys with
  | nil => simp [pure, Except.pure, eq_comm]
  | cons x xs ih =>
    simp only [List.mapM_cons, bind_eq_ok_iff, List.forall₂_cons_left_iff]
    constructor
    · rintro ⟨y, hy, rest, hRest, ⟨⟩⟩
      exact ⟨y, rest, hy, ih.mp hRest, rfl⟩
    · rintro ⟨y, rest, hy, hRest, rfl⟩
      exact ⟨y, hy, rest, ih.mpr hRest, rfl⟩

theorem exists_mapM_iff {f : α → Except ε β} {xs : List α} :
    (∃ ys, xs.mapM f = .ok ys) ↔ ∀ x ∈ xs, ∃ y, f x = .ok y := by
  simp only [mapM_eq_ok_iff]
  induction xs with
  | nil => simp
  | cons x xs ih =>
    simp only [List.forall₂_cons_left_iff, List.forall_mem_cons, ← ih]
    constructor
    · rintro ⟨_, y, rest, hy, hRest, rfl⟩
      exact ⟨⟨y, hy⟩, rest, hRest⟩
    · rintro ⟨⟨y, hy⟩, rest, hRest⟩
      exact ⟨y :: rest, y, rest, hy, hRest, rfl⟩

/-- What every step keeps of the elements before it and the state, a loop keeps. -/
theorem made_of_steps {step : σ → α → Except ε σ} {Made : List α → σ → Prop}
    (hStep : ∀ {xs s x s'}, Made xs s → step s x = .ok s' → Made (xs ++ [x]) s') {xs ys : List α} {s s' : σ}
    (hMade : Made xs s) (hLoop : ys.foldlM step s = .ok s') : Made (xs ++ ys) s' := by
  induction ys generalizing xs s with
  | nil =>
    cases hLoop
    rwa [List.append_nil]
  | cons y ys ih =>
    rw [List.foldlM_cons, bind_eq_ok_iff] at hLoop
    obtain ⟨next, hHead, hRest⟩ := hLoop
    rw [List.append_cons]
    exact ih (hStep hMade hHead) hRest

/-- From a state made from some elements a step admits one more exactly if this one agrees with them, and what it
leaves is made from all of them. -/
structure Admits (step : σ → α → Except ε σ) (Agree : List α → Prop) (Made : List α → σ → Prop) : Prop where
  agree : ∀ {xs s}, Made xs s → Agree xs
  agree_left : ∀ {xs ys}, Agree (xs ++ ys) → Agree xs
  admitted : ∀ {xs s x}, Made xs s → Agree (xs ++ [x]) → ∃ s', step s x = .ok s'
  made : ∀ {xs s x s'}, Made xs s → step s x = .ok s' → Made (xs ++ [x]) s'

namespace Admits

variable {step : σ → α → Except ε σ} {Agree : List α → Prop} {Made : List α → σ → Prop} (h : Admits step Agree Made)
include h

theorem made_of_foldlM {xs ys : List α} {s s' : σ} (hMade : Made xs s) (hLoop : ys.foldlM step s = .ok s') :
    Made (xs ++ ys) s' :=
  made_of_steps h.made hMade hLoop

theorem exists_foldlM_iff {xs : List α} {s : σ} (hMade : Made xs s) (ys : List α) :
    (∃ s', ys.foldlM step s = .ok s') ↔ Agree (xs ++ ys) := by
  constructor
  · rintro ⟨s', hLoop⟩
    exact h.agree (h.made_of_foldlM hMade hLoop)
  · intro hAgree
    induction ys generalizing xs s with
    | nil => exact ⟨s, rfl⟩
    | cons y ys ih =>
      rw [List.append_cons] at hAgree
      obtain ⟨next, hStep⟩ := h.admitted hMade (h.agree_left hAgree)
      obtain ⟨s', hRest⟩ := ih (h.made hMade hStep) hAgree
      refine ⟨s', ?_⟩
      rw [List.foldlM_cons, hStep]
      exact hRest

end Admits

end SchemaChange
