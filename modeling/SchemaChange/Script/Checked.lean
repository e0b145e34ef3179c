import SchemaChange.Script.Value

/-! # Checks that report every problem

A check gives a result or a list of located problems. Checks are combined so that the problems of all parts are kept,
in the order of the parts; none hides another.
-/
namespace SchemaChange

inductive ProblemKind where
  | missing | notObject | notList | notText | brokenText | notInEnum | unknownKey | invalidKey
  | notPair | tooLong | notChoice | notBoolean
  deriving DecidableEq, Repr

def ProblemKind.title : ProblemKind → String
  | missing => "missing"
  | notObject => "model_type"
  | notList => "list_type"
  | notText => "string_type"
  | brokenText => "string_unicode"
  | notInEnum => "enum"
  | unknownKey => "extra_forbidden"
  | invalidKey => "invalid_key"
  | notPair => "tuple_type"
  | tooLong => "too_long"
  | notChoice => "literal_error"
  | notBoolean => "bool_parsing"

structure Problem where
  location : List Step
  kind : ProblemKind
  deriving DecidableEq, Repr

/-- A result, or all problems in order. -/
abbrev Checked (α : Type) := Except (List Problem) α

namespace Checked

variable {α β γ δ : Type}

def fail (kind : ProblemKind) : Checked α := .error [⟨[], kind⟩]

/-- The problems of a part, located from the whole. -/
def under (step : Step) : Checked α → Checked α
  | .ok a => .ok a
  | .error problems => .error (problems.map fun p => { p with location := step :: p.location })

def both : Checked α → Checked β → Checked (α × β)
  | .ok a, .ok b => .ok (a, b)
  | .ok _, .error q => .error q
  | .error p, .ok _ => .error p
  | .error p, .error q => .error (p ++ q)

def all : List (Checked α) → Checked (List α)
  | [] => .ok []
  | x :: rest => (both x (all rest)).map fun pair => pair.1 :: pair.2

@[simp] theorem both_eq_ok_iff {x : Checked α} {y : Checked β} {p : α × β} :
    both x y = .ok p ↔ x = .ok p.1 ∧ y = .ok p.2 := by
  obtain ⟨a, b⟩ := p
  cases x <;> cases y <;> simp [both]

@[simp] theorem under_eq_ok_iff {step : Step} {x : Checked α} {a : α} :
    under step x = .ok a ↔ x = .ok a := by
  cases x <;> simp [under]

theorem map_map (f : α → β) (g : β → γ) (x : Checked α) : (x.map f).map g = x.map fun a => g (f a) := by
  cases x <;> rfl

theorem bind_map (x : Checked α) (f : α → β) (g : β → Checked γ) : x.map f >>= g = x >>= fun a => g (f a) := by
  cases x <;> rfl

theorem map_bind (x : Checked α) (g : α → Checked β) (f : β → γ) : (x >>= g).map f = x >>= fun a => (g a).map f := by
  cases x <;> rfl

theorem under_map (f : α → β) (step : Step) (x : Checked α) : under step (x.map f) = (under step x).map f := by
  cases x <;> rfl

theorem both_map_left (f : α → β) (x : Checked α) (y : Checked γ) :
    both (x.map f) y = (both x y).map fun pair => (f pair.1, pair.2) := by
  cases x <;> cases y <;> rfl

theorem both_map_right (g : γ → δ) (x : Checked α) (y : Checked γ) :
    both x (y.map g) = (both x y).map fun pair => (pair.1, g pair.2) := by
  cases x <;> cases y <;> rfl

theorem both_ok_right (x : Checked α) (b : β) : both x (.ok b) = x.map fun a => (a, b) := by
  cases x <;> rfl

end Checked

end SchemaChange
