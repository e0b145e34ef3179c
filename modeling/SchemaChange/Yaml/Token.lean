import SchemaChange.Text.CodePoint
import SchemaChange.Yaml.Cursor

/-! # YAML tokens

The tokens of a YAML text, and how the tokens that have an inside are read: directives, anchors, tags and scalars in
all their styles. Each reader gets the cursor at the token and gives the token and the cursor after it.
-/
namespace SchemaChange.Yaml

inductive Directive where
  | version (major : Nat)
  | tag (handle start : String)
  | unknown
  deriving DecidableEq, Repr

/-- The tokens. A fault stands where no further token can be read. -/
inductive Token where
  | directive (directive : Directive)
  | documentStart
  | documentEnd
  | blockSequenceStart
  | blockMappingStart
  | blockEnd
  | flowSequenceStart
  | flowSequenceEnd
  | flowMappingStart
  | flowMappingEnd
  | blockEntry
  | flowEntry
  | key
  | value
  | alias (name : String)
  | anchor (name : String)
  | tag (handle : Option String) (suffix : String)
  | scalar (content : String) (plain : Bool)
  | fault (error : ReadError)
  deriving DecidableEq, Repr

abbrev Read (α : Type) := Except ReadError α

def unreadable {α : Type} : Read α := .error .unreadable

/-- A result that needs a condition. -/
def require (condition : Bool) : Read Unit := if condition then .ok () else unreadable

def isNameChar (c : Char) : Bool := c.isAlphanum || c = '-' || c = '_'

def readName (c : Cursor) : Read (String × Cursor) :=
  let (name, after) := c.takeWhile isNameChar
  if name.isEmpty then unreadable else .ok (String.ofList name, after)

def digitLimit : Nat := 4300

def tooManyDigits {α : Type} (count : Nat) : Read α :=
  .error (.noValue ("Exceeds the limit (" ++ toString digitLimit ++ " digits) for integer string conversion: value has "
    ++ toString count ++ " digits; use sys.set_int_max_str_digits() to increase the limit"))

def readNumber (c : Cursor) : Read (Nat × Cursor) :=
  let (digits, after) := c.takeWhile Char.isDigit
  if digits.isEmpty then unreadable
  else if digitLimit < digits.length then tooManyDigits digits.length
  else .ok (digits.foldl (fun n d => 10 * n + (d.toNat - '0'.toNat)) 0, after)

def isHexDigit (c : Char) : Bool := c.isDigit || ('a' ≤ c && c ≤ 'f') || ('A' ≤ c && c ≤ 'F')

def hexValue (c : Char) : Nat :=
  if c.isDigit then c.toNat - '0'.toNat
  else if 'a' ≤ c then c.toNat - 'a'.toNat + 10
  else c.toNat - 'A'.toNat + 10

def readHex (digits : Nat) (c : Cursor) : Read (Nat × Cursor) :=
  let text := c.rest.take digits
  if text.length = digits && text.all isHexDigit then
    .ok (text.foldl (fun n d => 16 * n + hexValue d) 0, c.skip digits)
  else unreadable

/-- Bytes written as `%` and two digits, at least one. -/
def readEscapedBytes : Nat → Cursor → Read (List UInt8 × Cursor)
  | 0, c => .ok ([], c)
  | fuel + 1, c =>
    if c.peek 0 = some '%' then do
      let (byte, after) ← readHex 2 c.next
      let (bytes, after) ← readEscapedBytes fuel after
      .ok (UInt8.ofNat byte :: bytes, after)
    else .ok ([], c)

def isTagChar (c : Char) : Bool := c.isAlphanum || "-;/?:@&=+$,_.!~*'()[]".toList.contains c

/-- The characters of a tag, with escaped bytes decoded. -/
def readTagTextWithin : Nat → Cursor → Read (List Char × Cursor)
  | 0, c => .ok ([], c)
  | fuel + 1, c =>
    match c.peek 0 with
    | some '%' => do
      let (bytes, after) ← readEscapedBytes c.left c
      match String.fromUTF8? ⟨bytes.toArray⟩ with
      | none => unreadable
      | some text => do
        let (more, after) ← readTagTextWithin fuel after
        .ok (text.toList ++ more, after)
    | some ch =>
      if isTagChar ch then do
        let (more, after) ← readTagTextWithin fuel c.next
        .ok (ch :: more, after)
      else .ok ([], c)
    | none => .ok ([], c)

def readTagText (c : Cursor) : Read (String × Cursor) := do
  let (text, after) ← readTagTextWithin (c.left + 1) c
  -- an escape that decodes to nothing cannot occur, so an empty text means that no character was read
  if text.isEmpty then unreadable else .ok (String.ofList text, after)

def readTagHandle (c : Cursor) : Read (String × Cursor) :=
  if c.peek 0 ≠ some '!' then unreadable
  else if c.peek 1 = some ' ' then .ok ("!", c.next)
  else
    let (name, after) := c.next.takeWhile isNameChar
    if after.peek 0 = some '!' then .ok (String.ofList ('!' :: name ++ ['!']), after.next) else unreadable

/-- What follows a directive on its line. -/
def endLine (c : Cursor) : Read Cursor :=
  let after := c.skipSpaces.skipComment
  if isBreakOrEnd (after.peek 0) then .ok after.takeBreak.2 else unreadable

def readDirective (c : Cursor) : Read (Token × Cursor) := do
  let (name, after) ← readName c.next
  require (isSpaceOrEnd (after.peek 0))
  if name = "YAML" then
    let (major, after) ← readNumber after.skipSpaces
    require (after.peek 0 = some '.')
    let (_, after) ← readNumber after.next
    require (isSpaceOrEnd (after.peek 0))
    .ok (.directive (.version major), ← endLine after)
  else if name = "TAG" then
    let (handle, after) ← readTagHandle after.skipSpaces
    require (after.peek 0 = some ' ')
    let (start, after) ← readTagText after.skipSpaces
    require (isSpaceOrEnd (after.peek 0))
    .ok (.directive (.tag handle start), ← endLine after)
  else .ok (.directive .unknown, ← endLine (after.skipWhile (!isBreak ·)))

def readAnchor (c : Cursor) : Read (String × Cursor) := do
  let (name, after) ← readName c.next
  let next := after.peek 0
  require (isBlankOrEnd next || (next.map "?:,]\x7d%@\u0060".toList.contains).getD true)
  .ok (name, after)

def readTag (c : Cursor) : Read (Token × Cursor) := do
  let (tag, after) ← tagAt
  require (isSpaceOrEnd (after.peek 0))
  .ok (tag, after)
where
  /-- Whether a second exclamation mark comes before the next blank or line break. -/
  hasHandle : Bool := (c.next.rest.takeWhile fun ch => !isSpaceOrEnd (some ch)).contains '!'
  tagAt : Read (Token × Cursor) :=
    if c.peek 1 = some '<' then do
      let (suffix, after) ← readTagText (c.skip 2)
      require (after.peek 0 = some '>')
      .ok (.tag none suffix, after.next)
    else if isBlankOrEnd (c.peek 1) then .ok (.tag none "!", c.next)
    else if hasHandle then do
      let (handle, after) ← readTagHandle c
      let (suffix, after) ← readTagText after
      .ok (.tag (some handle) suffix, after)
    else do
      let (suffix, after) ← readTagText c.next
      .ok (.tag (some "!") suffix, after)

/-- What happens to the line breaks at the end of a block scalar. -/
inductive Chomping where
  | strip | clip | keep
  deriving DecidableEq, Repr

def chomping? : Option Char → Option Chomping
  | some '+' => some .keep
  | some '-' => some .strip
  | _ => none

/-- An indentation indicator, which is not zero. -/
def increment? (c : Cursor) : Read (Option Nat × Cursor) :=
  match c.peek 0 with
  | some d =>
    if d = '0' then unreadable
    else if d.isDigit then .ok (some (d.toNat - '0'.toNat), c.next)
    else .ok (none, c)
  | none => .ok (none, c)

def readBlockHeader (c : Cursor) : Read (Chomping × Option Nat × Cursor) := do
  let (chomping, increment, after) ← match chomping? (c.peek 0) with
    | some chomping => do
      let (increment, after) ← increment? c.next
      pure (chomping, increment, after)
    | none => do
      let (increment, after) ← increment? c
      match increment, chomping? (after.peek 0) with
      | some _, some chomping => pure (chomping, increment, after.next)
      | _, _ => pure (.clip, increment, after)
  require (isSpaceOrEnd (after.peek 0))
  .ok (chomping, increment, after)

/-- Line breaks, each followed by spaces up to the indentation. -/
def takeIndentedBreaks : Nat → Nat → Cursor → List Char × Cursor
  | 0, _, c => ([], c)
  | fuel + 1, indent, c =>
    match c.takeBreak with
    | (some b, after) =>
      let (more, after) := takeIndentedBreaks fuel indent (after.skipSpacesTo indent)
      (b :: more, after)
    | (none, _) => ([], c)

def takeBreaks (indent : Nat) (c : Cursor) : List Char × Cursor :=
  takeIndentedBreaks (c.left + 1) indent (c.skipSpacesTo indent)

/-- Leading blank lines, and the furthest column that their spaces reach. -/
def takeLeadingLines : Nat → Nat → Cursor → List Char × Nat × Cursor
  | 0, widest, c => ([], widest, c)
  | fuel + 1, widest, c =>
    if c.peek 0 = some ' ' then takeLeadingLines fuel (max widest c.next.column) c.next
    else
      match c.takeBreak with
      | (some b, after) =>
        let (more, widest, after) := takeLeadingLines fuel widest after
        (b :: more, widest, after)
      | (none, _) => ([], widest, c)

def isBlank (c : Option Char) : Bool := c = some ' ' || c = some '\t'

/-- The lines of a block scalar from the first that is not blank: the text up to its last character, the break after
it and the blank lines behind. -/
def takeBlockLines (folded : Bool) (indent : Nat) : Nat → List Char → Cursor →
    List Char × Option Char × List Char × Cursor
  | 0, breaks, c => ([], none, breaks, c)
  | fuel + 1, breaks, c =>
    if c.column = indent && (c.peek 0).isSome then
      let startsBlank := isBlank (c.peek 0)
      let (line, after) := c.takeWhile (!isBreak ·)
      let (lineBreak, after) := after.takeBreak
      let (nextBreaks, after) := takeBreaks indent after
      if after.column = indent && (after.peek 0).isSome then
        let joint : List Char :=
          if folded && lineBreak = some '\n' && !startsBlank && !isBlank (after.peek 0) then
            if nextBreaks.isEmpty then [' '] else []
          else lineBreak.toList
        let (more, last, tail, after) := takeBlockLines folded indent fuel nextBreaks after
        (breaks ++ line ++ joint ++ more, last, tail, after)
      else (breaks ++ line, lineBreak, nextBreaks, after)
    else ([], none, breaks, c)

/-- A literal or folded scalar inside a block that is indented by `blockIndent`. -/
def readBlockScalar (folded : Bool) (blockIndent : Int) (c : Cursor) : Read (Token × Cursor) := do
  let (chomping, increment, after) ← readBlockHeader c.next
  let start ← endLine after
  let least := (max 1 (blockIndent + 1)).toNat
  let (indent, breaks, start) := match increment with
    | some n => (least + n - 1, takeBreaks (least + n - 1) start)
    | none =>
      let (breaks, widest, start) := takeLeadingLines (start.left + 1) 0 start
      (max least widest, breaks, start)
  let (text, lineBreak, tail, after) := takeBlockLines folded indent (start.left + 1) breaks start
  let ending : List Char := match chomping with
    | .strip => []
    | .clip => lineBreak.toList
    | .keep => lineBreak.toList ++ tail
  .ok (.scalar (String.ofList (text ++ ending)) false, after)

def escapedCode (code : Nat) : Read (List Char) :=
  if 0x7FFFFFFF < code then .error .tooLarge
  else if 0x10FFFF < code then .error (.noValue "chr() arg not in range(0x110000)")
  else .ok (Text.charsOf code)

def escapes : List (Char × Char) :=
  [('0', '\x00'), ('a', '\x07'), ('b', '\x08'), ('t', '\t'), ('\t', '\t'), ('n', '\n'), ('v', '\x0b'),
    ('f', '\x0c'), ('r', '\r'), ('e', '\x1b'), (' ', ' '), ('"', '"'), ('\\', '\\'), ('/', '/'),
    ('N', '\u0085'), ('_', '\u00A0'), ('L', '\u2028'), ('P', '\u2029')]

/-- The number of digits after the escapes that give a character's number. -/
def escapeDigits : List (Char × Nat) := [('x', 2), ('u', 4), ('U', 8)]

/-- The blank lines after a break in a quoted scalar. A document marker may not stand at the start of a line. -/
def takeQuotedBreaks : Nat → Cursor → Read (List Char × Cursor)
  | 0, c => .ok ([], c)
  | fuel + 1, c =>
    if c.atAnyMarker then unreadable
    else
      let start := c.skipWhile fun ch => ch = ' ' || ch = '\t'
      match start.takeBreak with
      | (some b, after) => do
        let (more, after) ← takeQuotedBreaks fuel after
        .ok (b :: more, after)
      | (none, _) => .ok ([], start)

/-- Blanks inside a quoted scalar: kept inside a line, folded around line breaks. -/
def readQuotedBlanks (c : Cursor) : Read (List Char × Cursor) :=
  let (blanks, after) := c.takeWhile fun ch => ch = ' ' || ch = '\t'
  if (after.peek 0).isNone then unreadable
  else
    match after.takeBreak with
    | (some b, after) => do
      let (breaks, after) ← takeQuotedBreaks (after.left + 1) after
      .ok ((if b ≠ '\n' then [b] else if breaks.isEmpty then [' '] else []) ++ breaks, after)
    | (none, _) => .ok (blanks, after)

/-- What the character or line break after a backslash stands for. -/
def readEscape (c : Cursor) : Read (List Char × Cursor) :=
  match c.peek 0 with
  | none => unreadable
  | some ch =>
    match escapes.lookup ch, escapeDigits.lookup ch with
    | some meant, _ => .ok ([meant], c.next)
    | none, some digits => do
      let (code, after) ← readHex digits c.next
      .ok (← escapedCode code, after)
    | none, none =>
      if isBreak ch then takeQuotedBreaks (c.left + 1) c.takeBreak.2 else unreadable

/-- A quoted scalar from its first character to the quote that ends it. The characters read so far are given, the last
one first. -/
def readQuotedWithin (quote : Char) : Nat → List Char → Cursor → Read (List Char × Cursor)
  | 0, _, _ => unreadable
  | fuel + 1, before, c =>
    match c.peek 0 with
    | none => unreadable
    | some ch =>
      if ch = quote then
        if quote = '\'' && c.peek 1 = some '\'' then readQuotedWithin quote fuel ('\'' :: before) (c.skip 2)
        else .ok (before.reverse, c.next)
      else if ch = '\\' && quote = '"' then do
        let (meant, after) ← readEscape c.next
        readQuotedWithin quote fuel (meant.reverse ++ before) after
      else if ch = ' ' || ch = '\t' || isBreak ch then do
        let (blanks, after) ← readQuotedBlanks c
        readQuotedWithin quote fuel (blanks.reverse ++ before) after
      else readQuotedWithin quote fuel (ch :: before) c.next

def readQuoted (quote : Char) (c : Cursor) : Read (Token × Cursor) := do
  let (content, after) ← readQuotedWithin quote (c.left + 1) [] c.next
  .ok (.scalar (String.ofList content) false, after)

/-- Whether a plain scalar ends before the character at the cursor. -/
def endsPlain (inFlow : Bool) (c : Cursor) : Bool :=
  let flowMarks := [',', '[', ']', '\x7b', '\x7d']
  match c.peek 0 with
  | none => true
  | some ch =>
    isBlankOrEnd (some ch)
      || (ch = ':' && (isBlankOrEnd (c.peek 1) || (inFlow && (c.peek 1).any flowMarks.contains)))
      || (inFlow && (ch = '?' || flowMarks.contains ch))

/-- The characters of a plain scalar up to a blank or its end. -/
def takePlainRun (inFlow : Bool) : Nat → Cursor → List Char × Cursor
  | 0, c => ([], c)
  | fuel + 1, c =>
    match c.rest with
    | [] => ([], c)
    | ch :: _ =>
      if endsPlain inFlow c then ([], c)
      else
        let (run, after) := takePlainRun inFlow fuel c.next
        (ch :: run, after)

/-- Blank lines inside a plain scalar; none is given if a document marker follows. -/
def takePlainBreaks : Nat → Cursor → Option (List Char) × Cursor
  | 0, c => (some [], c)
  | fuel + 1, c =>
    if c.peek 0 = some ' ' then takePlainBreaks fuel c.next
    else
      match c.takeBreak with
      | (some b, after) =>
        if after.atAnyMarker then (none, after)
        else
          let (more, after) := takePlainBreaks fuel after
          (more.map (b :: ·), after)
      | (none, _) => (some [], c)

/-- The blanks after a run of a plain scalar: as they count if the scalar goes on, the cursor after them, and whether
a line ended. -/
def takePlainBlanks (c : Cursor) : List Char × Cursor × Bool :=
  let (spaces, after) := c.takeWhile (· = ' ')
  match after.takeBreak with
  | (none, _) => (spaces, after, false)
  | (some b, after) =>
    if after.atAnyMarker then ([], after, true)
    else
      match takePlainBreaks (after.left + 1) after with
      | (none, after) => ([], after, true)
      | (some breaks, after) =>
        ((if b ≠ '\n' then [b] else if breaks.isEmpty then [' '] else []) ++ breaks, after, true)

/-- The runs of a plain scalar: its text, the cursor after it, and whether it ended at the start of a line. -/
def takePlain (inFlow : Bool) (indent : Int) : Nat → List Char → Bool → Cursor → List Char × Cursor × Bool
  | 0, _, lineEnded, c => ([], c, lineEnded)
  | fuel + 1, blanks, lineEnded, c =>
    if c.peek 0 = some '#' then ([], c, lineEnded)
    else
      let (run, after) := takePlainRun inFlow (c.left + 1) c
      if run.isEmpty then ([], c, lineEnded)
      else
        let (nextBlanks, after, lineEnded) := takePlainBlanks after
        if nextBlanks.isEmpty || after.peek 0 = some '#' || (!inFlow && (after.column : Int) < indent) then
          (blanks ++ run, after, lineEnded)
        else
          let (more, after, lineEnded) := takePlain inFlow indent fuel nextBlanks lineEnded after
          (blanks ++ run ++ more, after, lineEnded)

end SchemaChange.Yaml
