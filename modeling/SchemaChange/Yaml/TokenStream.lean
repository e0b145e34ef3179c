import SchemaChange.Yaml.Token

/-! # The tokens of a YAML text

Indentation and position decide where blocks begin and end, and a colon can show that an earlier token began a key.
So the tokens read so far stay open to insertions: each flow level remembers the place where a key may have begun.
-/
namespace SchemaChange.Yaml

/-- A place where a key may have begun: the number of its first token and its position. A required one has to turn
out to be a key. -/
structure KeyStart where
  token : Nat
  required : Bool
  index : Nat
  line : Nat
  column : Nat

/-- A text up to a cursor, with the tokens read so far, the last one first, and their count. -/
structure TokenStream where
  cursor : Cursor
  tokens : List Token
  count : Nat
  flowLevel : Nat
  indent : Int
  outerIndents : List Int
  keyAllowed : Bool
  keyStarts : List (Nat × KeyStart)

namespace TokenStream

def ofText (text : List Char) : TokenStream := ⟨Cursor.ofText text, [], 0, 0, -1, [], true, []⟩

def inFlow (s : TokenStream) : Bool := s.flowLevel ≠ 0

def push (s : TokenStream) (t : Token) : TokenStream := { s with tokens := t :: s.tokens, count := s.count + 1 }

/-- Puts a token in front of the one with a given number. -/
def insert (s : TokenStream) (place : Nat) (t : Token) : TokenStream :=
  let later := s.count - place
  { s with tokens := s.tokens.take later ++ t :: s.tokens.drop later, count := s.count + 1 }

def skip (s : TokenStream) (n : Nat) : TokenStream := { s with cursor := s.cursor.skip n }

def allowKey (s : TokenStream) (allowed : Bool) : TokenStream := { s with keyAllowed := allowed }

/-- Spaces, comments and line breaks before a token; in a block, a new line allows a key. -/
def skipToToken : Nat → TokenStream → TokenStream
  | 0, s => s
  | fuel + 1, s =>
    match s.cursor.skipSpaces.skipComment.takeBreak with
    | (some _, after) =>
      skipToToken fuel { s with cursor := after, keyAllowed := s.keyAllowed || !s.inFlow }
    | (none, after) => { s with cursor := after }

/-- Whether a place is near enough for a key: on this line, and at most 1024 characters away. -/
def isNear (s : TokenStream) (k : KeyStart) : Bool := k.line = s.cursor.line && s.cursor.index - k.index ≤ 1024

/-- Forgets the places that are too far back for a key. -/
def dropStale (s : TokenStream) : Read TokenStream := do
  require (s.keyStarts.all fun (_, k) => s.isNear k || !k.required)
  .ok { s with keyStarts := s.keyStarts.filter fun (_, k) => s.isNear k }

/-- How many tokens are settled: no further token can still show that one of them begins a key. -/
def settled (s : TokenStream) : Nat :=
  ((s.keyStarts.filter fun (_, k) => s.isNear k).map fun (_, k) => k.token).foldl min s.count

/-- Ends the blocks that are indented further than a column. -/
def unwind (column : Int) : List Int → TokenStream → TokenStream
  | [], s => s
  | outer :: rest, s =>
    if s.indent > column then unwind column rest { s.push .blockEnd with indent := outer, outerIndents := rest }
    else s

def unwindTo (s : TokenStream) (column : Int) : TokenStream :=
  if s.inFlow then s else unwind column s.outerIndents s

/-- Begins a block at a column that is indented further, with a token at a given place. -/
def openBlock (s : TokenStream) (column : Nat) (t : Token) (place : Nat) : TokenStream :=
  if s.indent < column then
    { s.insert place t with
      outerIndents := s.indent :: s.outerIndents
      indent := column }
  else s

def dropKeyStart (s : TokenStream) : Read TokenStream := do
  require (!s.keyStarts.any fun (level, k) => level = s.flowLevel && k.required)
  .ok { s with keyStarts := s.keyStarts.filter (·.1 ≠ s.flowLevel) }

/-- Remembers that a key may begin with the next token. -/
def markKeyStart (s : TokenStream) : Read TokenStream :=
  if s.keyAllowed then do
    let s ← s.dropKeyStart
    let c := s.cursor
    let start : KeyStart :=
      ⟨s.count, !s.inFlow && s.indent = c.column, c.index, c.line, c.column⟩
    .ok { s with keyStarts := (s.flowLevel, start) :: s.keyStarts }
  else .ok s

/-- A token that ends all blocks: a directive or a document marker. -/
def atDocumentLevel (s : TokenStream) : Read TokenStream := do
  let s ← (s.unwindTo (-1)).dropKeyStart
  .ok (s.allowKey false)

def openFlow (s : TokenStream) (t : Token) : Read TokenStream := do
  let s ← s.markKeyStart
  .ok (({ s with flowLevel := s.flowLevel + 1 }.allowKey true).push t |>.skip 1)

def closeFlow (s : TokenStream) (t : Token) : Read TokenStream := do
  let s ← s.dropKeyStart
  .ok (({ s with flowLevel := s.flowLevel - 1 }.allowKey false).push t |>.skip 1)

def takeFlowEntry (s : TokenStream) : Read TokenStream := do
  let s ← (s.allowKey true).dropKeyStart
  .ok (s.push .flowEntry |>.skip 1)

/-- A block indicator: it may stand where a key may, and begins a block if it is indented further. -/
def openIndicated (s : TokenStream) (start : Token) : Read TokenStream := do
  if s.inFlow then .ok s
  else
    require s.keyAllowed
    .ok (s.openBlock s.cursor.column start s.count)

def takeBlockEntry (s : TokenStream) : Read TokenStream := do
  let s ← s.openIndicated .blockSequenceStart
  let s ← (s.allowKey true).dropKeyStart
  .ok (s.push .blockEntry |>.skip 1)

def takeKey (s : TokenStream) : Read TokenStream := do
  let s ← s.openIndicated .blockMappingStart
  let s ← (s.allowKey (!s.inFlow)).dropKeyStart
  .ok (s.push .key |>.skip 1)

/-- A colon: the key begins where one may have begun on this flow level, or it was given before by itself. -/
def takeValue (s : TokenStream) : Read TokenStream := do
  let s ← match s.keyStarts.lookup s.flowLevel with
    | some k =>
      let s := { s.insert k.token .key with keyStarts := s.keyStarts.filter (·.1 ≠ s.flowLevel) }
      let s := if s.inFlow then s else s.openBlock k.column .blockMappingStart k.token
      pure (s.allowKey false)
    | none => do
      let s ← s.openIndicated .blockMappingStart
      (s.allowKey (!s.inFlow)).dropKeyStart
  .ok (s.push .value |>.skip 1)

/-- A token that may begin a key, and after which no other may. -/
def takeScalar (s : TokenStream) (read : Cursor → Read (Token × Cursor)) : Read TokenStream := do
  let s ← s.markKeyStart
  let (t, after) ← read s.cursor
  .ok (({ s with cursor := after }.allowKey false).push t)

def takeBlockScalar (s : TokenStream) (folded : Bool) : Read TokenStream := do
  let s ← (s.allowKey true).dropKeyStart
  let (t, after) ← readBlockScalar folded s.indent s.cursor
  .ok ({ s with cursor := after }.push t)

/-- A plain scalar allows a key after it if it ended with its line. -/
def takePlainScalar (s : TokenStream) : Read TokenStream := do
  let s ← s.markKeyStart
  let c := s.cursor
  let (text, after, lineEnded) := takePlain s.inFlow (s.indent + 1) (c.left + 1) [] false c
  .ok ({ s with cursor := after, keyAllowed := lineEnded }.push (.scalar (String.ofList text) true))

/-- Whether a character begins a plain scalar; some indicators do if no blank follows. -/
def beginsPlain (inFlow : Bool) (ch : Char) (following : Option Char) : Bool :=
  let indicators := "-?:,[]\x7b\x7d#&*!|>'\"%@\u0060".toList
  (!isBlankOrEnd (some ch) && !indicators.contains ch)
    || (!isBlankOrEnd following && (ch = '-' || (!inFlow && (ch = '?' || ch = ':'))))

def takeToken (s : TokenStream) (ch : Char) : Read TokenStream :=
  let c := s.cursor
  let blankFollows := isBlankOrEnd (c.peek 1)
  if ch = '%' && c.column = 0 then do
    let s ← s.atDocumentLevel
    let (t, after) ← readDirective s.cursor
    .ok ({ s with cursor := after }.push t)
  else if c.column = 0 && c.atMarker '-' then do
    let s ← s.atDocumentLevel
    .ok (s.push .documentStart |>.skip 3)
  else if c.column = 0 && c.atMarker '.' then do
    let s ← s.atDocumentLevel
    .ok (s.push .documentEnd |>.skip 3)
  else if ch = '[' then s.openFlow .flowSequenceStart
  else if ch = '\x7b' then s.openFlow .flowMappingStart
  else if ch = ']' then s.closeFlow .flowSequenceEnd
  else if ch = '\x7d' then s.closeFlow .flowMappingEnd
  else if ch = ',' then s.takeFlowEntry
  else if ch = '-' && blankFollows then s.takeBlockEntry
  else if ch = '?' && (s.inFlow || blankFollows) then s.takeKey
  else if ch = ':' && (s.inFlow || blankFollows) then s.takeValue
  else if ch = '*' then s.takeScalar fun c => (readAnchor c).map fun (name, after) => (.alias name, after)
  else if ch = '&' then s.takeScalar fun c => (readAnchor c).map fun (name, after) => (.anchor name, after)
  else if ch = '!' then s.takeScalar readTag
  else if ch = '|' && !s.inFlow then s.takeBlockScalar false
  else if ch = '>' && !s.inFlow then s.takeBlockScalar true
  else if ch = '\'' || ch = '"' then s.takeScalar (readQuoted ch)
  else if beginsPlain s.inFlow ch (c.peek 1) then s.takePlainScalar
  else unreadable

/-- One step: the next token with those that it brings, or at the end of the text those that end with it. -/
def step (s : TokenStream) : Read (TokenStream × Bool) := do
  let s ← (skipToToken (s.cursor.left + 1) s).dropStale
  let s := s.unwindTo s.cursor.column
  match s.cursor.peek 0 with
  | none => do
    let s ← (s.unwindTo (-1)).dropKeyStart
    .ok (s, true)
  | some ch => do
    let s ← s.takeToken ch
    .ok (s, false)

/-- The tokens up to the end of the text, with the fault that the end stands for, if any. Where a step fails, a fault
follows the tokens that are settled: whoever needs more of them meets the fault. -/
def readAll (ending : List Token) : Nat → TokenStream → List Token
  | 0, _ => [.fault .unreadable]
  | fuel + 1, s =>
    match s.step with
    | .ok (s, true) => s.tokens.reverse ++ ending
    | .ok (s, false) => readAll ending fuel s
    | .error e => s.tokens.reverse.take s.settled ++ [.fault e]

end TokenStream

/-- The line breaks of a text as a file gives them. -/
def plainBreaks : List Char → List Char
  | '\r' :: '\n' :: rest => '\n' :: plainBreaks rest
  | '\r' :: rest => '\n' :: plainBreaks rest
  | c :: rest => c :: plainBreaks rest
  | [] => []

def dropMark : List Char → List Char
  | '\uFEFF' :: rest => rest
  | s => s

/-- The characters are looked at in blocks before any token in them is read. -/
def blockSize : Nat := 4096

/-- Where the block of a character starts; the first two blocks are looked at together. -/
def blockStart (index : Nat) : Nat := if index < 2 * blockSize then 0 else index / blockSize * blockSize

/-- The tokens of a text. A character that may not stand in it is a fault where its block starts. -/
def tokens (text : String) : List Token :=
  let chars := plainBreaks text.toList
  let allowed := (chars.takeWhile isAllowed).length
  if allowed = chars.length then
    (TokenStream.ofText (dropMark chars)).readAll [] (chars.length + 1)
  else
    let before := chars.take (blockStart allowed)
    if before.isEmpty then [.fault .unreadable]
    else (TokenStream.ofText (dropMark before)).readAll [.fault .unreadable] (before.length + 1)

end SchemaChange.Yaml
