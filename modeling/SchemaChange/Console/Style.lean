import SchemaChange.Console.ColorNames
import SchemaChange.Text.DecimalDigit
import SchemaChange.Text.LowerCase

/-! # Styles

A style definition is a list of words: attributes, a colour, a colour after `on`, and an address after `link`. Its
normal form has the attributes under their full names and in a fixed order, so that styles of the same effect have the
same normal form.
-/
namespace SchemaChange.Console

/-- Why a text is no style: a word that means nothing, or a colour component that is no number. -/
inductive StyleError where
  | unknown
  | noNumber
  deriving DecidableEq, Repr

structure Style where
  attributes : List (String × Bool)
  color : Option String
  background : Option String
  link : Option String
  deriving DecidableEq, Repr

namespace Style

def attributeNames : List String :=
  ["bold", "dim", "italic", "underline", "blink", "blink2", "reverse", "conceal", "strike", "underline2", "frame",
    "encircle", "overline"]

def shortNames : List (String × String) :=
  [("b", "bold"), ("d", "dim"), ("i", "italic"), ("u", "underline"), ("r", "reverse"), ("c", "conceal"),
    ("s", "strike"), ("uu", "underline2"), ("o", "overline")]

def attribute? (word : String) : Option String :=
  if attributeNames.contains word then some word else shortNames.lookup word

/-- The greatest number of a colour and of a component of one. -/
def greatestComponent : Nat := 255

def componentDigits : Nat := 4300

def component (digits : List Char) : Except StyleError Nat :=
  match digits.mapM Text.decimalDigit? with
  | none => .error .noNumber
  | some values =>
    if values.isEmpty ∨ componentDigits < values.length then .error .noNumber
    else .ok (values.foldl (fun n d => 10 * n + d) 0)

def isLowerHex (c : Char) : Bool := c.isDigit || ('a' ≤ c && c ≤ 'f')

/-- What stands between a given start and a closing parenthesis at the end. -/
def enclosed? (start : String) (s : List Char) : Option (List Char) :=
  let n := start.toList.length
  if s.take n = start.toList ∧ s.getLast? = some ')' ∧ n < s.length then some ((s.drop n).dropLast) else none

/-- Whether a text without blanks is a colour: a name, six hexadecimal digits, a number or three components. -/
def checkColor (s : List Char) : Except StyleError Unit :=
  let name := String.ofList s
  let withinRange (numbers : List Nat) : Except StyleError Unit :=
    if numbers.all (· ≤ greatestComponent) then .ok () else .error .unknown
  if name = "default" ∨ colorNames.contains name then .ok ()
  else
    match s, enclosed? "color(" s, enclosed? "rgb(" s with
    | '#' :: digits, _, _ => if digits.length = 6 ∧ digits.all isLowerHex then .ok () else .error .unknown
    | _, some digits, _ =>
      if digits.isEmpty ∨ 3 < digits.length ∨ !digits.all Char.isDigit then .error .unknown
      else do withinRange [← component digits]
    | _, none, some inside =>
      let parts := Text.splitWith (· = ',') inside
      if inside.isEmpty ∨ parts.length ≠ 3 ∨ !inside.all (fun c => c = ',' || (Text.decimalDigit? c).isSome) then
        .error .unknown
      else do withinRange (← parts.mapM component)
    | _, none, none => .error .unknown

def colorName (word : List Char) : Except StyleError String := do
  let name := Text.lower word
  checkColor name
  .ok (String.ofList name)

def setAttribute (style : Style) (name : String) (value : Bool) : Style :=
  { style with attributes := (name, value) :: style.attributes }

def readWords (style : Style) : List (List Char) → Except StyleError Style
  | [] => .ok style
  | word :: rest =>
    let small := String.ofList (Text.lower word)
    if small = "on" then
      match rest with
      | [] => .error .unknown
      | color :: rest => do readWords { style with background := some (← colorName color) } rest
    else if small = "not" then
      match rest with
      | [] => .error .unknown
      | name :: rest =>
        match attribute? (String.ofList name) with
        | some name => readWords (style.setAttribute name false) rest
        | none => .error .unknown
    else if small = "link" then
      match rest with
      | [] => .error .unknown
      | address :: rest => readWords { style with link := some (String.ofList address) } rest
    else
      match attribute? small with
      | some name => readWords (style.setAttribute name true) rest
      | none => do readWords { style with color := some (← colorName word) } rest

def plain : Style := ⟨[], none, none, none⟩

def read (definition : String) : Except StyleError Style :=
  let parts := Text.words definition.toList
  if parts = ["none".toList] then .ok plain else readWords plain parts

def wordsOf (style : Style) : List String :=
  (attributeNames.filterMap fun name =>
      (style.attributes.lookup name).map fun value => if value then name else "not " ++ name)
    ++ style.color.toList ++ (style.background.toList.map ("on " ++ ·)) ++ (style.link.toList.map ("link " ++ ·))

def text (style : Style) : String :=
  if style.wordsOf.isEmpty then "none" else " ".intercalate style.wordsOf

/-- The normal form of a definition. A definition that means nothing is kept in small letters. -/
def normal (definition : List Char) : Except StyleError String :=
  match read (String.ofList definition) with
  | .ok style => .ok style.text
  | .error .unknown => .ok (String.ofList (Text.lower (Text.trim definition)))
  | .error .noNumber => .error .noNumber

end Style

end SchemaChange.Console
