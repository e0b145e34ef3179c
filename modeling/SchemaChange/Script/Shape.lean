import SchemaChange.Script.Checked

/-! # Shapes of values

A shape says what a value has to look like and what is made of it. A check by a shape gives a result or every problem:
those of the fields in their order, then those of unknown keys, and those of list elements in order.
-/
namespace SchemaChange

/-- The keys of a mapping with their values, in the order written. -/
abbrev Entries := List (Value × Value)

/-- How a field is called: by its name, or by an alias in its place. -/
structure FieldName where
  name : String
  alias? : Option String
  deriving DecidableEq, Repr

/-- What goes for the keys of a mapping: whether a field with an alias is also known by its name, and whether unknown
keys are refused. -/
structure KeyRules where
  byName : Bool
  closed : Bool
  deriving DecidableEq, Repr

mutual

inductive Shape : Type → Type 1 where
  | text : Shape String
  | oneOf {α : Type} (ofTitle? : String → Option α) : Shape α
  | nullable {α : Type} (shape : Shape α) : Shape (Option α)
  | list {α : Type} (item : Shape α) : Shape (List α)
  | pair {α β : Type} (first : Shape α) (second : Shape β) : Shape (α × β)
  /-- A text or else another shape, whose problems go under a title. -/
  | textOr {α β : Type} (ofText : String → β) (title : String) (other : Shape α) (ofOther : α → β) : Shape β
  | model {α β : Type} (rules : KeyRules) (fields : Fields α) (build : α → β) : Shape β

/-- Fields in their order, each required or with a default. -/
inductive Fields : Type → Type 1 where
  | nil : Fields Unit
  | cons {α β : Type} (field : FieldName) (default : Option α) (shape : Shape α) (rest : Fields β) : Fields (α × β)

end

namespace Fields

variable {α β : Type}

def required (name : String) (shape : Shape α) (rest : Fields β) : Fields (α × β) := cons ⟨name, none⟩ none shape rest

def aliased (name alternative : String) (shape : Shape α) (rest : Fields β) : Fields (α × β) :=
  cons ⟨name, some alternative⟩ none shape rest

def optional (name : String) (default : α) (shape : Shape α) (rest : Fields β) : Fields (α × β) :=
  cons ⟨name, none⟩ (some default) shape rest

end Fields

namespace Value

open Checked

variable {α β : Type}

def checkText : Value → Checked String
  | .string text => .ok text
  | .bytes content =>
    match String.fromUTF8? content with
    | some text => .ok (Text.ofPlain text)
    | none => fail .brokenText
  | _ => fail .notText

/-- One of the names of an enumeration. A text that is no proper one is not compared with them. -/
def checkName (ofTitle? : String → Option α) (value : Value) : Checked α :=
  match checkText value with
  | .ok text =>
    if Text.hasHalf text.toList then fail .brokenText
    else
      match ofTitle? text with
      | some a => .ok a
      | none => fail .notInEnum
  | .error _ => fail .notInEnum

def checkEntries : Value → Checked Entries
  | .map entries => .ok entries
  | _ => fail .notObject

/-- The elements of a list; a set counts as one. -/
def checkItems : Value → Checked (List Value)
  | .list items => .ok items
  | .set items => .ok items
  | _ => fail .notList

def checkList (check : Value → Checked α) (value : Value) : Checked (List α) := do
  let items ← checkItems value
  all (items.mapIdx fun i item => under (.index i) (check item))

def checkElement (check : Value → Checked α) (items : List Value) (position : Nat) : Checked α :=
  under (.index position) <|
    match items[position]? with
    | some item => check item
    | none => fail .missing

def checkPair (first : Value → Checked α) (second : Value → Checked β) (value : Value) : Checked (α × β) :=
  match checkItems value with
  | .error _ => fail .notPair
  | .ok items =>
    if items.length > 2 then fail .tooLong
    else both (checkElement first items 0) (checkElement second items 1)

/-- A reading as a text comes before any other. What has neither reading has the problems of both. -/
def eitherReading (ofText : String → β) (ofOther : α → β) : Checked String → Checked α → Checked β
  | .ok text, _ => .ok (ofText text)
  | .error _, .ok a => .ok (ofOther a)
  | .error p, .error q => .error (p ++ q)

def requiredField (entries : Entries) (name : String) (check : Value → Checked α) : Checked α :=
  under (.key name) <|
    match Value.lookup? entries name with
    | some value => check value
    | none => fail .missing

def optionalField (entries : Entries) (name : String) (default : α) (check : Value → Checked α) : Checked α :=
  match Value.lookup? entries name with
  | some value => under (.key name) (check value)
  | none => .ok default

def checkField (entries : Entries) (name : String) (default : Option α) (check : Value → Checked α) : Checked α :=
  match default with
  | none => requiredField entries name check
  | some a => optionalField entries name a check

/-- A field's problem is reported under the spelling that the document uses. The first spelling wins. -/
def spelling (entries : Entries) (name alternative : String) : String :=
  if (Value.lookup? entries name).isNone && (Value.lookup? entries alternative).isSome then alternative
  else name

/-- The problem of one key that is not among the known ones. -/
def checkKey (known : List String) (key : Value) : Checked Unit :=
  match key with
  | .string name => if known.contains name then .ok () else under (.key name) (fail .unknownKey)
  | _ => under (Step.ofKey key) (fail .invalidKey)

def checkKeys (known : List String) (entries : Entries) : Checked Unit :=
  (all (entries.map fun entry => checkKey known entry.1)).map fun _ => ()

def isBrokenKey : Value → Bool
  | .string name => Text.hasHalf name.toList
  | _ => false

/-- The entries of a mapping whose keys are all looked at. If one of them is no proper text, that is the only problem
of the mapping. -/
def checkKeyedEntries (value : Value) : Checked Entries := do
  let entries ← checkEntries value
  if entries.any fun entry => isBrokenKey entry.1 then fail .brokenText else .ok entries

theorem checkKeyedEntries_map (entries : Entries) : checkKeyedEntries (.map entries) =
    if entries.any fun entry => isBrokenKey entry.1 then fail .brokenText else .ok entries := rfl

end Value

/-- The key under which a field is looked for in a mapping. -/
def FieldName.key (field : FieldName) (byName : Bool) (entries : Entries) : String :=
  match field.alias? with
  | none => field.name
  | some other => if byName then Value.spelling entries other field.name else other

def Fields.keys (byName : Bool) (entries : Entries) : {α : Type} → Fields α → List String
  | _, .nil => []
  | _, .cons field _ _ rest => field.key byName entries :: rest.keys byName entries

/-- What is checked after the fields: that all keys are theirs, where unknown ones are refused. -/
def Fields.checkRest {α : Type} (rules : KeyRules) (fields : Fields α) (entries : Entries) : Checked Unit :=
  if rules.closed then Value.checkKeys (fields.keys rules.byName entries) entries else .ok ()

open Value in
mutual

def Shape.check : {α : Type} → Shape α → Value → Checked α
  | _, .text, value => checkText value
  | _, .oneOf ofTitle?, value => checkName ofTitle? value
  | _, .nullable shape, value =>
    match value with
    | .null => .ok none
    | value => (shape.check value).map some
  | _, .list item, value => checkList item.check value
  | _, .pair first second, value => checkPair first.check second.check value
  | _, .textOr ofText title other ofOther, value =>
    eitherReading ofText ofOther (Checked.under (.key "str") (checkText value))
      (Checked.under (.key title) (other.check value))
  | _, .model rules fields build, value => do
    let entries ← if rules.closed then checkKeyedEntries value else checkEntries value
    (fields.check rules.byName entries (fields.checkRest rules entries)).map build

/-- The fields of a mapping, and another check after them. -/
def Fields.check : {α : Type} → Fields α → Bool → Entries → Checked Unit → Checked α
  | _, .nil, _, _, rest => rest
  | _, .cons field default shape fields, byName, entries, rest =>
    Checked.both (Value.checkField entries (field.key byName entries) default shape.check)
      (fields.check byName entries rest)

end

/-- Something that reads values by their shapes. -/
structure Validator where
  check {α : Type} (shape : Shape α) (value : Value) : Checked α

def Validator.standard : Validator := ⟨Shape.check⟩

end SchemaChange
