import SchemaChange.Text.Quoted

/-! # JSON text

Values with ordered fields, written over several lines with two spaces per level. All characters outside printable
ASCII are written as escapes of UTF-16 units, so the text is plain ASCII.
-/
namespace SchemaChange

/-- The JSON values that reports are made of. Fields keep their order. -/
inductive JsonValue where
  | null
  | string (text : String)
  | list (items : List JsonValue)
  | object (fields : List (String × JsonValue))
  deriving Inhabited, Repr, BEq

namespace JsonValue

/-- The first field of an object with the given name. -/
def field? (value : JsonValue) (name : String) : Option JsonValue :=
  match value with
  | object fields => (fields.find? (·.1 = name)).map (·.2)
  | _ => none

/-- The escape of one UTF-16 unit. -/
def unitEscape (unit : Nat) : List Char := '\\' :: 'u' :: Text.hexDigits 4 unit

/-- One code point inside a JSON string; above the basic plane it takes a surrogate pair. -/
def escapeCode (code : Nat) : List Char :=
  let c := Char.ofNat code
  if c = '"' ∨ c = '\\' then ['\\', c]
  else if c = '\n' then ['\\', 'n']
  else if c = '\r' then ['\\', 'r']
  else if c = '\t' then ['\\', 't']
  else if c = '\x08' then ['\\', 'b']
  else if c = '\x0c' then ['\\', 'f']
  else if ' ' ≤ c ∧ c ≤ '~' then [c]
  else if code < 0x10000 then unitEscape code
  else unitEscape (0xD800 + (code - 0x10000) / 0x400) ++ unitEscape (0xDC00 + (code - 0x10000) % 0x400)

def stringText (text : String) : String :=
  "\"" ++ String.ofList ((Text.codePoints text.toList).flatMap escapeCode) ++ "\""

def lineStart (level : Nat) : String := "\n" ++ String.ofList (List.replicate (2 * level) ' ')

/-- Items between brackets, each on a line of its own; without items the brackets stand together. -/
def enclose (opening closing : String) (level : Nat) (items : List String) : String :=
  if items.isEmpty then opening ++ closing
  else opening ++ lineStart (level + 1) ++ ("," ++ lineStart (level + 1)).intercalate items
    ++ lineStart level ++ closing

mutual

def renderAt (level : Nat) : JsonValue → String
  | null => "null"
  | string text => stringText text
  | list items => enclose "[" "]" level (renderItems (level + 1) items)
  | object fields => enclose "\x7b" "\x7d" level (renderFields (level + 1) fields)

def renderItems (level : Nat) : List JsonValue → List String
  | [] => []
  | item :: rest => renderAt level item :: renderItems level rest

def renderFields (level : Nat) : List (String × JsonValue) → List String
  | [] => []
  | (name, value) :: rest => (stringText name ++ ": " ++ renderAt level value) :: renderFields level rest

end

def render (value : JsonValue) : String := renderAt 0 value

end JsonValue

end SchemaChange
