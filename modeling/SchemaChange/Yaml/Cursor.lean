/-! # Positions in a YAML text

A cursor holds the text that is still to be read and how far the part before it reaches: in characters, lines and
columns. It knows how many characters are left without counting them. It also says which characters break lines and
which may stand in a text at all.
-/
namespace SchemaChange.Yaml

/-- Why a text gives no value: it is not YAML that can be read, or a part of it does not fit its type, has no value or
goes beyond a bound. -/
inductive ReadError where
  | unreadable
  /-- A number without any digit. -/
  | emptyNumber
  /-- A word that is neither yes nor no. -/
  | notBoolean
  | notTimestamp
  /-- A timestamp given by the default entry of a mapping. -/
  | timestampEntry
  /-- A part with the form of its type and no value. -/
  | noValue (message : String)
  | tooLarge
  | tooDeep
  deriving DecidableEq, Repr

def isBreak (c : Char) : Bool :=
  c = '\n' || c = '\r' || c = '\u0085' || c = '\u2028' || c = '\u2029'

/-- Whether a character breaks a line, or there is none. -/
def isBreakOrEnd : Option Char → Bool
  | none => true
  | some c => isBreak c

def isSpaceOrEnd (c : Option Char) : Bool := c = some ' ' || isBreakOrEnd c

def isBlankOrEnd (c : Option Char) : Bool := c = some '\t' || isSpaceOrEnd c

/-- The characters that a YAML text may hold. -/
def isAllowed (c : Char) : Bool :=
  let n := c.toNat
  n = 0x09 || n = 0x0A || n = 0x0D || n = 0x85 || (0x20 ≤ n && n ≤ 0x7E) || (0xA0 ≤ n && n ≤ 0xD7FF)
    || (0xE000 ≤ n && n ≤ 0xFFFD) || 0x10000 ≤ n

/-- A position in a text of a given number of characters. -/
structure Cursor where
  rest : List Char
  index : Nat
  line : Nat
  column : Nat
  size : Nat
  size_eq : size = index + rest.length

namespace Cursor

def ofText (text : List Char) : Cursor := ⟨text, 0, 0, 0, text.length, by simp⟩

def left (c : Cursor) : Nat := c.size - c.index

def peek (c : Cursor) (ahead : Nat) : Option Char := c.rest[ahead]?

def next (c : Cursor) : Cursor :=
  match h : c.rest with
  | [] => c
  | ch :: rest =>
    have size_eq : c.size = c.index + 1 + rest.length := by
      have := c.size_eq
      simp only [h, List.length_cons] at this
      omega
    if isBreak ch && !(ch = '\r' && rest.head? = some '\n') then ⟨rest, c.index + 1, c.line + 1, 0, c.size, size_eq⟩
    else ⟨rest, c.index + 1, c.line, if ch = '\uFEFF' then c.column else c.column + 1, c.size, size_eq⟩

def skip (c : Cursor) : Nat → Cursor
  | 0 => c
  | n + 1 => c.next.skip n

/-- The longest run of characters of a class, and the cursor after it. -/
def takeWhile (c : Cursor) (p : Char → Bool) : List Char × Cursor :=
  let taken := c.rest.takeWhile p
  (taken, c.skip taken.length)

def skipWhile (c : Cursor) (p : Char → Bool) : Cursor := (c.takeWhile p).2

def skipSpaces (c : Cursor) : Cursor := c.skipWhile (· = ' ')

def skipSpacesTo (c : Cursor) (column : Nat) : Cursor :=
  c.skip (min (c.rest.takeWhile (· = ' ')).length (column - c.column))

def skipComment (c : Cursor) : Cursor :=
  if c.peek 0 = some '#' then c.skipWhile (!isBreak ·) else c

/-- A line break as it counts in a text, and the cursor after it. Only the separators U+2028 and U+2029 stay what
they are. -/
def takeBreak (c : Cursor) : Option Char × Cursor :=
  match c.rest with
  | '\r' :: '\n' :: _ => (some '\n', c.skip 2)
  | ch :: _ =>
    if ch = '\u2028' || ch = '\u2029' then (some ch, c.next)
    else if isBreak ch then (some '\n', c.next)
    else (none, c)
  | [] => (none, c)

/-- Whether a document marker (`---` or `...`) starts here and ends after three characters. -/
def atMarker (c : Cursor) (mark : Char) : Bool :=
  c.peek 0 = some mark && c.peek 1 = some mark && c.peek 2 = some mark && isBlankOrEnd (c.peek 3)

def atAnyMarker (c : Cursor) : Bool := c.atMarker '-' || c.atMarker '.'

end Cursor

end SchemaChange.Yaml
