import SchemaChange.Calendar
import SchemaChange.Yaml.Cursor

/-! # YAML tags

A tag says which type a node has. A plain scalar without a tag has the type that its text matches, in the order:
boolean, real number, whole number, merge key, null, timestamp, default key, indicator; text otherwise. One line break
at the end of a text does not count for this.
-/
namespace SchemaChange.Yaml

inductive Tag where
  | null | boolean | whole | real | timestamp | binary | string | sequence | mapping | set | orderedMap | pairs
  | merge | default
  | unknown
  deriving DecidableEq, Repr, Inhabited

namespace Tag

/-- The tags with a meaning, by their names after the common start. -/
def names : List (String × Tag) :=
  [("null", null), ("bool", boolean), ("int", whole), ("float", real), ("timestamp", timestamp),
    ("binary", binary), ("str", string), ("seq", sequence), ("map", mapping), ("set", set),
    ("omap", orderedMap), ("pairs", pairs), ("merge", merge), ("value", default)]

def ofName (name : String) : Tag :=
  ((names.find? fun entry => "tag:yaml.org,2002:" ++ entry.1 = name).map (·.2)).getD unknown

def isDigitOrLine (c : Char) : Bool := c.isDigit || c = '_'

def dropSign : List Char → List Char
  | '+' :: rest => rest
  | '-' :: rest => rest
  | s => s

/-- Whether a text is one or two digits, the first of two at most five. -/
def isSixtieth : List Char → Bool
  | [d] => d.isDigit
  | [t, d] => '0' ≤ t && t ≤ '5' && d.isDigit
  | _ => false

def splitColons : List Char → List (List Char)
  | [] => [[]]
  | ':' :: rest => [] :: splitColons rest
  | c :: rest =>
    match splitColons rest with
    | part :: more => (c :: part) :: more
    | [] => [[c]]

/-- Whether a text has digits, then one part or more of sixty, separated by colons. -/
def isSexagesimal (startsWith : Char → Bool) (s : List Char) : Bool :=
  match splitColons s with
  | (d :: digits) :: part :: more => startsWith d && digits.all isDigitOrLine && (part :: more).all isSixtieth
  | _ => false

def isWhole (s : List Char) : Bool :=
  let body := dropSign s
  let nonZero (d : Char) : Bool := d.isDigit && d ≠ '0'
  match body with
  | ['0'] => true
  | '0' :: 'b' :: digits => !digits.isEmpty && digits.all fun d => d = '0' || d = '1' || d = '_'
  | '0' :: 'x' :: digits =>
    !digits.isEmpty && digits.all fun d =>
      isDigitOrLine d || ('a' ≤ d && d ≤ 'f') || ('A' ≤ d && d ≤ 'F')
  | '0' :: digits => digits.all fun d => d = '_' || ('0' ≤ d && d ≤ '7')
  | d :: digits => (nonZero d && digits.all isDigitOrLine) || isSexagesimal nonZero body
  | [] => false

def isExponent : List Char → Bool
  | [] => true
  | e :: sign :: digits =>
    (e = 'e' || e = 'E') && (sign = '+' || sign = '-') && !digits.isEmpty && digits.all Char.isDigit
  | _ => false

def isFraction (s : List Char) : Bool := isExponent (s.dropWhile isDigitOrLine)

def isReal (s : List Char) : Bool :=
  let body := dropSign s
  let whole := body.takeWhile (· ≠ '.')
  match body.drop whole.length with
  | '.' :: fraction =>
    match whole with
    | d :: digits =>
      (d.isDigit && digits.all isDigitOrLine && isFraction fraction)
        || (isSexagesimal Char.isDigit whole && fraction.all isDigitOrLine)
    | [] =>
      let name := String.ofList fraction
      ["inf", "Inf", "INF"].contains name
        || (body.length = s.length
          && (["nan", "NaN", "NAN"].contains name
            || ((fraction.head?.map Char.isDigit).getD false && isFraction fraction)))
  | _ => false

def number (digits : List Char) : Nat := digits.foldl (fun n d => 10 * n + (d.toNat - '0'.toNat)) 0

/-- A number of at least `least` and at most `most` digits at the start of a text. -/
def takeNumber (least most : Nat) (s : List Char) : Option (Nat × List Char) :=
  let digits := (s.take most).takeWhile Char.isDigit
  if digits.length < least then none else some (number digits, s.drop digits.length)

def takeMark (mark : Char) : List Char → Option (List Char)
  | c :: rest => if c = mark then some rest else none
  | [] => none

def dropBlanks (s : List Char) : List Char := s.dropWhile fun c => c = ' ' || c = '\t'

def offset (sign : Char) (hours minutes : Nat) : Int :=
  if sign = '-' then -(60 * hours + minutes : Nat) else (60 * hours + minutes : Nat)

/-- The zone at the end of a time: none, `Z` or an offset. -/
def zone? (s : List Char) : Option (Option Int) :=
  match s, dropBlanks s with
  | [], _ => some none
  | _, ['Z'] => some (some 0)
  | _, sign :: rest =>
    if sign = '+' || sign = '-' then do
      let (hours, rest) ← takeNumber 1 2 rest
      match rest with
      | [] => some (some (offset sign hours 0))
      | ':' :: rest => do
        let (minutes, rest) ← takeNumber 2 2 rest
        if rest.isEmpty then some (some (offset sign hours minutes)) else none
      | _ => none
    else none
  | _, [] => none

/-- What separates a date from a time: a letter or blanks. -/
def takeTimeMark : List Char → Option (List Char)
  | 'T' :: rest => some rest
  | 't' :: rest => some rest
  | ' ' :: rest => some (dropBlanks rest)
  | '\t' :: rest => some (dropBlanks rest)
  | _ => none

/-- The microseconds of a fraction of a second: its first six digits. -/
def microseconds (fraction : List Char) : Nat :=
  number (fraction.take 6 ++ List.replicate (6 - fraction.length) '0')

def moment? (s : List Char) : Option Moment := do
  let (year, rest) ← takeNumber 4 4 s
  let (month, rest) ← takeNumber 1 2 (← takeMark '-' rest)
  let (day, rest) ← takeNumber 1 2 (← takeMark '-' rest)
  if rest.isEmpty then return ⟨year, month, day, none⟩
  let (hour, rest) ← takeNumber 1 2 (← takeTimeMark rest)
  let (minute, rest) ← takeNumber 2 2 (← takeMark ':' rest)
  let (second, rest) ← takeNumber 2 2 (← takeMark ':' rest)
  let (fraction, rest) := match rest with
    | '.' :: rest => (rest.takeWhile Char.isDigit, rest.dropWhile Char.isDigit)
    | rest => ([], rest)
  let zone ← zone? rest
  return ⟨year, month, day, some ⟨hour, minute, second, microseconds fraction, zone⟩⟩

/-- A date alone is a timestamp only with two digits for month and day. -/
def isTimestamp (s : List Char) : Bool :=
  match moment? s with
  | some moment => moment.clock.isSome || s.length = 10
  | none => false

def booleanTexts : List String :=
  ["yes", "Yes", "YES", "no", "No", "NO", "true", "True", "TRUE", "false", "False", "FALSE", "on", "On", "ON",
    "off", "Off", "OFF"]

def nullTexts : List String := ["~", "null", "Null", "NULL"]

/-- The indicators of tags, anchors and aliases; as texts of scalars they have a type without values. -/
def indicatorTexts : List String := ["!", "&", "*"]

def dropFinalBreak : List Char → List Char
  | [] => []
  | ['\n'] => []
  | c :: rest => c :: dropFinalBreak rest

def ofPlain (text : String) : Tag :=
  let s := dropFinalBreak text.toList
  let text := if text = "\n" then text else String.ofList s
  if booleanTexts.contains text then boolean
  else if isReal s then real
  else if isWhole s then whole
  else if text = "<<" then merge
  else if text.isEmpty || nullTexts.contains text then null
  else if isTimestamp s then timestamp
  else if text = "=" then default
  else if indicatorTexts.contains text then unknown
  else string

end Tag

end SchemaChange.Yaml
