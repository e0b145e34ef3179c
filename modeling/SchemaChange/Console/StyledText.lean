import SchemaChange.Console.CellWidth
import SchemaChange.Console.Display
import SchemaChange.Console.Style
import SchemaChange.Text.Blank

/-! # Layout of styled texts

Tabs become blanks, and lines are broken between words and filled up or cut to a width. The styles are not shown, but
their ends part a line into segments, which are measured one by one.
-/
namespace SchemaChange.Console

namespace StyledText

def empty : StyledText := ⟨[], []⟩

def append (s t : StyledText) : StyledText :=
  let n := s.chars.length
  ⟨s.chars ++ t.chars, s.spans ++ t.spans.map fun span => { span with first := span.first + n, last := span.last + n }⟩

/-- The text between two positions, with what its spans have there. -/
def slice (t : StyledText) (first last : Nat) : StyledText :=
  ⟨(t.chars.drop first).take (last - first), t.spans.filterMap fun span =>
    if max span.first first < min span.last last then
      some ⟨max span.first first - first, min span.last last - first, span.style⟩
    else none⟩

/-- The texts between the positions in ascending order, which also begins and ends at the ends of the text. -/
def divide (t : StyledText) (positions : List Nat) : List StyledText :=
  if positions.isEmpty then [t]
  else ((0 :: positions).zip (positions ++ [t.chars.length])).map fun (first, last) => t.slice first last

def positionsOf (mark : Char) (t : StyledText) : List Nat :=
  ((t.chars.zipIdx).filter fun entry => entry.1 = mark).map (·.2)

/-- The lines of a text, at least one. -/
def lines (t : StyledText) : List StyledText :=
  let ends := t.positionsOf '\n'
  if ends.isEmpty then [t]
  else ((0 :: ends.map (· + 1)).zip (ends ++ [t.chars.length])).map fun (first, last) => t.slice first last

def tabSize : Nat := 8

/-- Adds blanks; a span that reaches the end of the text reaches the new end. -/
def addBlanks (t : StyledText) (n : Nat) : StyledText :=
  ⟨t.chars ++ List.replicate n ' ', t.spans.map fun span =>
    if t.chars.length ≤ span.last then { span with last := span.last + n } else span⟩

/-- Parts that end in tabs, from a column on. A tab is a blank, and as many more as lead to the next tab stop. -/
def joinTabs (column : Nat) : List StyledText → StyledText
  | [] => empty
  | part :: rest =>
    if part.chars.getLast? = some '\t' then
      let part : StyledText := { part with chars := part.chars.dropLast ++ [' '] }
      let column := column + width part.chars
      let blanks := (tabSize - column % tabSize) % tabSize
      (part.addBlanks blanks).append (joinTabs (column + blanks) rest)
    else part.append (joinTabs (column + width part.chars) rest)

def expandTabs (t : StyledText) : StyledText :=
  let tabs := t.positionsOf '\t'
  if tabs.isEmpty then t else joinTabs 0 (t.divide (tabs.map (· + 1)))

/-- The words of a line by their positions. Blanks belong to the word before them, and those at the start of the line
to the first word. -/
def wordsFrom (position : Nat) : Nat → List Char → List (Nat × List Char)
  | 0, _ => []
  | fuel + 1, s =>
    let leading := s.takeWhile Text.isBlank
    let body := (s.drop leading.length).takeWhile (!Text.isBlank ·)
    if body.isEmpty then []
    else
      let trailing := (s.drop (leading.length + body.length)).takeWhile Text.isBlank
      let word := leading ++ body ++ trailing
      (position, word) :: wordsFrom (position + word.length) fuel (s.drop word.length)

/-- Where a line of words is broken so that each part fits, given the cells that are taken already. A word that fits
nowhere has a line for itself. -/
def breaks (total : Nat) : Nat → List (Nat × List Char) → List Nat
  | _, [] => []
  | cells, (start, word) :: rest =>
    let needed := width (Text.trimEnd word)
    if cells + needed ≤ total then breaks total (cells + width word) rest
    else if total < needed then
      (if start = 0 then [] else [start]) ++ breaks total (width word) rest
    else if cells = 0 ∨ start = 0 then breaks total cells rest
    else start :: breaks total (width word) rest

/-- The text before a position, with the spans that begin before it. -/
def takeFirst (t : StyledText) (n : Nat) : StyledText :=
  if t.chars.length ≤ n then t
  else
    ⟨t.chars.take n,
      (t.spans.filter (·.first < n)).map fun span => { span with last := min n span.last }⟩

/-- A line without the blanks at its end that are too many for a number of characters. -/
def trimTo (t : StyledText) (total : Nat) : StyledText :=
  let blanks := (t.chars.reverse.takeWhile Text.isBlank).length
  t.takeFirst (t.chars.length - min blanks (t.chars.length - total))

/-- What ends a line that was cut. -/
def ellipsis : Char := '…'

/-- A line of a given width: filled up with blanks, or cut with an ellipsis in its last cell. -/
def padded (t : StyledText) (total : Nat) : StyledText :=
  let cells := width t.chars
  if cells ≤ total then { t with chars := t.chars ++ List.replicate (total - cells) ' ' }
  else
    let chars := fitted (total - 1) t.chars ++ [ellipsis]
    ⟨chars, (t.takeFirst chars.length).spans⟩

def wrapped (t : StyledText) (total : Nat) : List StyledText :=
  t.lines.flatMap fun line =>
    let line := line.expandTabs
    let words := wordsFrom 0 (line.chars.length + 1) line.chars
    (line.divide (breaks total 0 words)).map fun part => (part.trimTo total).padded total

/-- The parts of a line between the ends of its spans. -/
def segments (t : StyledText) : List (List Char) :=
  let ends := t.spans.flatMap fun span => [span.first, span.last]
  let cuts := (List.range t.chars.length).filter fun i => 0 < i && ends.contains i
  ((0 :: cuts).zip (cuts ++ [t.chars.length])).map fun (first, last) => (t.chars.drop first).take (last - first)

/-- The first segments up to a width; the last one is made to fit what is left. -/
def takeSegments (room : Nat) : List (List Char) → List Char
  | [] => []
  | segment :: rest =>
    if width segment < room then segment ++ takeSegments (room - width segment) rest else fitted room segment

/-- A line of a given width, by the widths of its segments. -/
def shownLine (t : StyledText) (total : Nat) : List Char :=
  let cells := (t.segments.map width).foldl (· + ·) 0
  if cells ≤ total then t.chars ++ List.replicate (total - cells) ' ' else takeSegments total t.segments

/-- Whether every style that is used can be read. One that means nothing is left out. -/
def checkStyles (lines : List StyledText) : Except StyleError Unit :=
  lines.forM fun line => line.spans.forM fun span =>
    match Style.read span.style with
    | .error .noNumber => .error .noNumber
    | _ => .ok ()

end StyledText

end SchemaChange.Console
