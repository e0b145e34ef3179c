import SchemaChange.Console.Emoji
import SchemaChange.Console.Literal
import SchemaChange.Console.StyledText

/-! # Console markup

A bracket group that starts with a lower-case letter, `#`, `/` or `@` is a tag and is not shown; an odd number of
backslashes before it makes it plain text. A closing tag has to close an open one, and the parameters of an action have
to be a literal value when it is closed. `escape` writes a text so that its groups are shown.
-/
namespace SchemaChange.Console

namespace Markup

def startsTag (c : Char) : Bool := c.isLower || c = '#' || c = '/' || c = '@'

/-- The inside of a bracket group and what follows it: up to the first closing bracket, with no opening one. -/
def group? : List Char → Option (List Char × List Char)
  | [] => none
  | ']' :: rest => some ([], rest)
  | '[' :: _ => none
  | c :: rest => (group? rest).map fun (inside, after) => (c :: inside, after)

def tag? : List Char → Option (List Char × List Char)
  | [] => none
  | c :: rest =>
    if startsTag c then (group? rest).map fun (inside, after) => (c :: inside, after) else none

/-- A run of backslashes and a tag after it, at the start of a text. -/
def tagAfterBackslashes? (s : List Char) : Option (Nat × List Char × List Char) :=
  match s.dropWhile (· = '\\') with
  | '[' :: rest => (tag? rest).map fun (tag, after) => ((s.takeWhile (· = '\\')).length, tag, after)
  | _ => none

/-- A part of a markup: plain text or a tag. The parameters of a tag follow an equals sign. -/
inductive Piece where
  | plain (text : List Char)
  | tag (name : List Char) (parameters : Option (List Char))
  deriving DecidableEq, Repr

def plainPiece (text : List Char) : List Piece := if text.isEmpty then [] else [.plain text]

def tagPiece (tag : List Char) : Piece :=
  let name := tag.takeWhile (· ≠ '=')
  .tag name (if name.length < tag.length then some (tag.drop (name.length + 1)) else none)

/-- The pieces of a tag with backslashes before it: of two backslashes one is shown, a last one shows the tag. -/
def tagPieces (backslashes : Nat) (tag : List Char) : List Piece :=
  plainPiece (List.replicate (backslashes / 2) '\\')
    ++ [if backslashes % 2 = 1 then .plain ('[' :: tag ++ [']']) else tagPiece tag]

/-- The pieces of a text after plain text, whose last character comes first. -/
def piecesAfter : Nat → List Char → List Char → List Piece
  | 0, before, _ => plainPiece before.reverse
  | _, before, [] => plainPiece before.reverse
  | fuel + 1, before, c :: rest =>
    match tagAfterBackslashes? (c :: rest) with
    | some (backslashes, tag, after) =>
      plainPiece before.reverse ++ tagPieces backslashes tag ++ piecesAfter fuel [] after
    | none =>
      -- a run of backslashes without a tag after it is plain as a whole
      if c = '\\' then
        piecesAfter fuel ((c :: rest.takeWhile (· = '\\')).reverse ++ before) (rest.dropWhile (· = '\\'))
      else piecesAfter fuel (c :: before) rest

def pieces (s : List Char) : List Piece := piecesAfter (s.length + 1) [] s

/-- In plain text a backslash before an opening bracket is not shown. -/
def unescapeBrackets : List Char → List Char
  | '\\' :: '[' :: rest => '[' :: unescapeBrackets rest
  | c :: rest => c :: unescapeBrackets rest
  | [] => []

def leftOut : List Char := ['\x07', '\x08', '\x0b', '\x0c', '\r']

def shownPlain (text : List Char) : List Char :=
  (Emoji.replace (unescapeBrackets text)).filter fun c => !leftOut.contains c

/-- A tag that is open: its name in normal form, its parameters and where it was opened. -/
structure OpenTag where
  name : String
  parameters : Option String
  start : Nat
  deriving DecidableEq, Repr

def OpenTag.isAction (tag : OpenTag) : Bool := tag.name.toList.head? = some '@'

def OpenTag.style (tag : OpenTag) : String :=
  match tag.parameters with
  | some parameters => tag.name ++ " " ++ parameters
  | none => tag.name

/-- A markup shown up to some place: its text, and its open tags, the innermost first. -/
structure Progress where
  text : StyledText
  opened : List OpenTag
  deriving DecidableEq, Repr

/-- The arguments in the parameters of an action: those in parentheses after the name of a handler, none after a name
alone, or else the whole text. -/
def arguments (parameters : List Char) : List Char :=
  let rest := parameters.dropWhile fun c => Text.isWordChar c || c = '.'
  if rest.isEmpty then ['(', ')']
  else if rest.head? = some '(' ∧ rest.getLast? = some ')' ∧ !rest.contains '\n' then rest
  else parameters

/-- The parameters of an action that is closed have to be a literal value, unless there are none. -/
def checkAction (tag : OpenTag) : Except MarkupError Unit :=
  match tag.parameters with
  | some parameters =>
    if parameters.isEmpty ∨ Literal.isLiteral (arguments (Text.trim parameters.toList)) then .ok ()
    else .error (.badParameters parameters)
  | none => .ok ()

/-- The part of a text that an open tag is for, up to its end. An action has no style. -/
def spanOf (tag : OpenTag) (text : StyledText) (style : String) : Span := ⟨tag.start, text.chars.length, style⟩

def close (p : Progress) (tag : OpenTag) : Except MarkupError Progress :=
  let opened := p.opened.erase tag
  if tag.isAction then do
    checkAction tag
    .ok ⟨{ p.text with spans := spanOf tag p.text "" :: p.text.spans }, opened⟩
  else .ok ⟨{ p.text with spans := spanOf tag p.text tag.style :: p.text.spans }, opened⟩

/-- The normal form of a tag's name. -/
def normalName (name : List Char) : Except MarkupError String := (Style.normal name).mapError fun _ => .noNumber

/-- The open tag that a closing tag closes: the innermost of its name, or without a name the innermost one. -/
def closed? (p : Progress) (name : List Char) : Except MarkupError (Option OpenTag) :=
  let name := Text.trim name
  if name.isEmpty then .ok p.opened.head?
  else do
    let name ← normalName name
    .ok (p.opened.find? (·.name = name))

def step (p : Progress) : Piece → Except MarkupError Progress
  | .plain text => .ok { p with text := p.text.append ⟨shownPlain text, []⟩ }
  | .tag ('/' :: name) _ => do
    match ← closed? p name with
    | some tag => close p tag
    | none => .error (.closesNothing (String.ofList ('/' :: name)))
  | .tag name parameters => do
    let name ← normalName name
    .ok { p with opened := ⟨name, parameters.map String.ofList, p.text.chars.length⟩ :: p.opened }

def finish (p : Progress) : StyledText :=
  { p.text with spans := (p.opened.map fun tag => spanOf tag p.text tag.style) ++ p.text.spans }

def shown (s : List Char) : Except MarkupError StyledText :=
  ((pieces s).foldlM step ⟨.empty, []⟩).map finish

def escapeWithin : Nat → List Char → List Char
  | 0, _ => []
  | _, [] => []
  | fuel + 1, c :: rest =>
    match tagAfterBackslashes? (c :: rest) with
    | some (backslashes, tag, after) =>
      List.replicate (2 * backslashes + 1) '\\' ++ '[' :: tag ++ ']' :: escapeWithin fuel after
    | none =>
      if c = '\\' then
        c :: rest.takeWhile (· = '\\') ++ escapeWithin fuel (rest.dropWhile (· = '\\'))
      else c :: escapeWithin fuel rest

def endsInBackslash (s : List Char) : Bool :=
  match s.reverse with
  | '\\' :: '\\' :: _ => false
  | '\\' :: _ => true
  | _ => false

/-- Markup that shows a text's bracket groups. A single backslash at the end is doubled, so that it does not act on
what follows. -/
def escape (s : List Char) : List Char :=
  let escaped := escapeWithin (s.length + 1) s
  if endsInBackslash escaped then escaped ++ ['\\'] else escaped

end Markup

end SchemaChange.Console
