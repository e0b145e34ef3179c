import SchemaChange.Graph.Vertex

/-! # Guarded computations

A guarded computation may end in an error that its callers expect, or break on a defect: an assertion fails, a key is
missing, a case comes up that nothing should lead to. A computation without such places is a special case.
-/
namespace SchemaChange

inductive Defect where
  /-- An operation lacks a side that operations of its kind have. -/
  | sideAbsent
  | keyMissing (key : String)
  | cannotContain (vertex : Vertex)
  | notContainer (vertex : Vertex)
  | unknownClass (className : String)
  deriving DecidableEq, Repr

inductive Halt (ε : Type) where
  | raised (error : ε)
  | broken (defect : Defect)
  deriving DecidableEq, Repr

abbrev Guarded (ε α : Type) := Except (Halt ε) α

namespace Guarded

variable {ε ε' α β : Type}

/-- What has to be there; if it is not, the computation breaks. -/
def demand (defect : Defect) : Option α → Guarded ε α
  | some a => .ok a
  | none => .error (.broken defect)

def raise (error : ε) : Guarded ε α := .error (.raised error)

/-- A computation without places to break. -/
def plain (x : Except ε α) : Guarded ε α := x.mapError .raised

/-- The same computation with other words for its errors. -/
def rephrase (f : ε → ε') : Guarded ε α → Guarded ε' α
  | .ok a => .ok a
  | .error (.raised error) => raise (f error)
  | .error (.broken defect) => .error (.broken defect)

/-- Every end is a result or an error that was raised. -/
def Contained (x : Guarded ε α) : Prop := ∀ defect, x ≠ .error (.broken defect)

@[simp] theorem demand_some (defect : Defect) (a : α) : (demand defect (some a) : Guarded ε α) = .ok a := rfl

@[simp] theorem plain_ok (a : α) : plain (.ok a : Except ε α) = .ok a := rfl

@[simp] theorem plain_error (error : ε) : plain (.error error : Except ε α) = raise error := rfl

@[simp] theorem ok_bind (a : α) (f : α → Guarded ε β) : ((.ok a : Guarded ε α) >>= f) = f a := rfl

theorem plain_bind (x : Except ε α) (f : α → Except ε β) : plain (x >>= f) = plain x >>= fun a => plain (f a) := by
  cases x <;> rfl

theorem map_bind {γ : Type} (f : α → β) (x : Guarded ε α) (k : β → Guarded ε γ) :
    (x.map f >>= k) = x >>= fun a => k (f a) := by
  cases x <;> rfl

theorem rephrase_plain (f : ε → ε') (x : Except ε α) : rephrase f (plain x) = plain (x.mapError f) := by
  cases x <;> rfl

theorem rephrase_map (f : ε → ε') (g : α → β) (x : Guarded ε α) : rephrase f (x.map g) = (rephrase f x).map g := by
  cases x with
  | ok a => rfl
  | error halt => cases halt <;> rfl

/-- Steps that agree with steps without places to break, from state to state. -/
theorem foldlM_map_eq {σ τ : Type} {step : σ → α → Except ε σ} {guarded : τ → α → Guarded ε τ} {embed : σ → τ}
    (h : ∀ s a, guarded (embed s) a = (plain (step s a)).map embed) (xs : List α) (s : σ) :
    xs.foldlM guarded (embed s) = (plain (xs.foldlM step s)).map embed := by
  induction xs generalizing s with
  | nil => rfl
  | cons x xs ih =>
    rw [List.foldlM_cons, List.foldlM_cons, h]
    cases step s x with
    | error error => rfl
    | ok next => exact ih next

theorem foldlM_plain_eq {σ : Type} {step : σ → α → Except ε σ} {guarded : σ → α → Guarded ε σ}
    (h : ∀ s a, guarded s a = plain (step s a)) (xs : List α) (s : σ) :
    xs.foldlM guarded s = plain (xs.foldlM step s) := by
  have hSteps : guarded = fun s a => plain (step s a) := funext fun s => funext (h s)
  rw [hSteps]
  induction xs generalizing s with
  | nil => rfl
  | cons x xs ih =>
    rw [List.foldlM_cons, List.foldlM_cons, plain_bind]
    exact congrArg (plain (step s x) >>= ·) (funext ih)

theorem mapM_map_eq {step : α → Except ε β} {γ : Type} {guarded : α → Guarded ε γ} {embed : β → γ}
    (h : ∀ a, guarded a = (plain (step a)).map embed) (xs : List α) :
    xs.mapM guarded = (plain (xs.mapM step)).map (List.map embed) := by
  induction xs with
  | nil => rfl
  | cons x xs ih =>
    rw [List.mapM_cons, List.mapM_cons, h, ih]
    cases step x with
    | error error => rfl
    | ok b => cases xs.mapM step <;> rfl

theorem mapM_eq_ok {f : α → Guarded ε β} {g : α → β} (h : ∀ a, f a = .ok (g a)) (xs : List α) :
    xs.mapM f = .ok (xs.map g) := by
  rw [funext h]
  exact List.mapM_pure

theorem contained_plain (x : Except ε α) : Contained (plain x) := by
  intro defect h
  cases x <;> cases h

theorem Contained.map {x : Guarded ε α} (h : Contained x) (f : α → β) : Contained (x.map f) := by
  intro defect hBroken
  cases x with
  | ok a => cases hBroken
  | error halt =>
    cases hBroken
    exact h defect rfl

end Guarded

end SchemaChange
