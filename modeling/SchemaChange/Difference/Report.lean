import SchemaChange.Difference.Record

/-! # Reports

A report holds for each kind of type a list of records under keys, in the order in which the records were made.
All views of a report go through the kinds in one order, `TypeKind.all`.
-/
namespace SchemaChange

structure ByKind (α : Type) where
  object : α
  interface : α
  union : α
  enum : α
  inputObject : α
  scalar : α
  deriving DecidableEq, Repr

namespace ByKind

variable {α β : Type}

def get (values : ByKind α) : TypeKind → α
  | .object => values.object
  | .interface => values.interface
  | .union => values.union
  | .enum => values.enum
  | .inputObject => values.inputObject
  | .scalar => values.scalar

def ofFn (f : TypeKind → α) : ByKind α :=
  ⟨f .object, f .interface, f .union, f .enum, f .inputObject, f .scalar⟩

def set (values : ByKind α) (kind : TypeKind) (value : α) : ByKind α :=
  ofFn fun k => if k = kind then value else values.get k

@[simp] theorem get_ofFn (f : TypeKind → α) (k : TypeKind) : (ofFn f).get k = f k := by
  cases k <;> rfl

@[simp] theorem get_set (values : ByKind α) (kind k : TypeKind) (value : α) :
    (values.set kind value).get k = if k = kind then value else values.get k := by
  simp [set]

@[ext] theorem ext_get {a b : ByKind α} (h : ∀ k, a.get k = b.get k) : a = b := by
  obtain ⟨a₁, a₂, a₃, a₄, a₅, a₆⟩ := a
  obtain ⟨b₁, b₂, b₃, b₄, b₅, b₆⟩ := b
  have h₁ := h .object
  have h₂ := h .interface
  have h₃ := h .union
  have h₄ := h .enum
  have h₅ := h .inputObject
  have h₆ := h .scalar
  simp only [get] at h₁ h₂ h₃ h₄ h₅ h₆
  rw [h₁, h₂, h₃, h₄, h₅, h₆]

theorem set_set (values : ByKind α) (kind : TypeKind) (first second : α) :
    (values.set kind first).set kind second = values.set kind second := by
  ext k
  by_cases h : k = kind <;> simp [h]

end ByKind

def TypeKind.key : TypeKind → String
  | object => "object"
  | interface => "interface"
  | union => "union"
  | enum => "enum"
  | inputObject => "input_object"
  | scalar => "scalar"

def TypeKind.heading : TypeKind → String
  | object => "Objects"
  | interface => "Interfaces"
  | union => "Unions"
  | enum => "Enums"
  | inputObject => "Input objects"
  | scalar => "Scalars"

/-- Keyed records of one kind. -/
abbrev Records := List (String × Difference)

/-- Gives a key its record. A key that is there already keeps its place and takes the new record. -/
def Records.put (records : Records) (key : String) (difference : Difference) : Records :=
  if records.any (·.1 = key) then
    records.map fun entry => if entry.1 = key then (key, difference) else entry
  else records ++ [(key, difference)]

abbrev Report := ByKind Records

namespace Report

def empty : Report := ByKind.ofFn fun _ => []

/-- Records from lists that may repeat a key. -/
def ofLists (lists : TypeKind → List (String × Difference)) : Report :=
  ByKind.ofFn fun kind => (lists kind).foldl (fun records entry => records.put entry.1 entry.2) []

/-- Each kind with its records, in report order. -/
def sections (report : Report) : List (TypeKind × Records) :=
  TypeKind.all.map fun kind => (kind, report.get kind)

/-- Every record, grouped by kind. -/
def differences (report : Report) : List Difference :=
  report.sections.flatMap fun part => part.2.map (·.2)

def isEmpty (report : Report) : Bool := report.differences.isEmpty

def summary (report : Report) : String :=
  "\n".intercalate (report.sections.map fun part =>
    part.1.heading ++ ": " ++ toString part.2.length)

/-- An object per kind, with one object per record under its key. -/
def toJson (report : Report) : JsonValue :=
  .object (report.sections.map fun part =>
    (part.1.key, .object (part.2.map fun entry => (entry.1, entry.2.toJson))))

/-- The details of a class, for every modification. -/
def detailsOf (report : Report) (className : String) : List (List Detail) :=
  (report.differences.filter (·.change.isModified)).map fun difference =>
    difference.change.details.filter (·.className = className)

def recordLines (key : String) (difference : Difference) : List String :=
  ("  " ++ key ++ ": " ++ difference.change.status)
    :: difference.change.details.map fun detail => "    - " ++ detail.describe

/-- The lines of one kind in the plain table; none if it has no records. -/
def sectionLines (kind : TypeKind) (records : Records) : List String :=
  if records.isEmpty then []
  else (kind.heading ++ ":") :: records.flatMap fun entry => recordLines entry.1 entry.2

def plainLines (report : Report) : List String :=
  report.sections.flatMap fun part => sectionLines part.1 part.2

end Report

end SchemaChange
