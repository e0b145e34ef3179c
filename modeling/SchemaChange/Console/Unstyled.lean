import SchemaChange.Console.ControlSequence
import SchemaChange.Console.Markup

/-! # A display without styles

Texts are printed without their styles, and a table is drawn as a box below its title. A column is as wide as the widest
line of its cells, with a blank on each side; a row is as high as its highest cell.
-/
namespace SchemaChange.Console

namespace StyledText

/-- The cells that a text needs: those of its widest line. -/
def neededWidth (text : StyledText) : Nat := ((Text.lineParts text.chars).map width).foldl max 0

/-- What is printed for a text: its lines without tabs. -/
def printed (text : StyledText) : Except MarkupError String := do
  let lines := text.lines.map expandTabs
  (checkStyles lines).mapError fun _ => .noNumber
  .ok ("\n".intercalate (lines.map fun line => String.ofList line.chars) ++ "\n")

/-- The lines that a text has in a column of a given width. -/
def layOut (total : Nat) (text : StyledText) : Except MarkupError (List (List Char)) := do
  let lines := text.wrapped total
  (checkStyles lines).mapError fun _ => .noNumber
  .ok (lines.map fun line => line.shownLine total)

end StyledText

namespace TextTable

abbrev Cell := List (List Char)

def columnWidth (column : TextColumn) : Nat :=
  ((column.header :: column.cells).map StyledText.neededWidth).foldl max 0

def height (table : TextTable) : Nat := (table.columns.map (·.cells.length)).foldr max 0

/-- A horizontal line: its left end, its stroke, its crossings and its right end. -/
def rule (left stroke crossing right : Char) (widths : List Nat) : List Char :=
  left :: [crossing].intercalate (widths.map fun w => List.replicate (w + 2) stroke) ++ [right]

def rowLine (bar : Char) (widths : List Nat) (row : List Cell) (i : Nat) : List Char :=
  bar :: [bar].intercalate
    ((widths.zip row).map fun (w, cell) => ' ' :: cell.getD i (List.replicate w ' ') ++ [' ']) ++ [bar]

def rowLines (bar : Char) (widths : List Nat) (row : List Cell) : List (List Char) :=
  (List.range ((row.map List.length).foldr max 1)).map (rowLine bar widths row)

/-- The printed lines of a table whose cells are laid out. -/
def draw (title : List Char) (widths : List Nat) (header : List Cell) (rows : List (List Cell)) : List (List Char) :=
  let top := rule '┏' '━' '┳' '┓' widths
  [fitted (width top) title, top] ++ rowLines '┃' widths header ++ [rule '┡' '━' '╇' '┩' widths]
    ++ rows.flatMap (rowLines '│' widths) ++ [rule '└' '─' '┴' '┘' widths]

def printed (table : TextTable) : Except MarkupError String := do
  let widths := table.columns.map columnWidth
  let header ← (widths.zip table.columns).mapM fun (w, column) => column.header.layOut w
  let rows ← (List.range table.height).mapM fun i =>
    (widths.zip table.columns).mapM fun (w, column) => (column.cells.getD i .empty).layOut w
  .ok (String.join ((draw table.title.chars widths header rows).map fun line => String.ofList line ++ "\n"))

end TextTable

namespace Display

def unstyled : Display where
  isTerminal := false
  read markup := Markup.shown markup.toList
  isEmojiName name := (Emoji.ofName? name).isSome
  escape text := String.ofList (Markup.escape text.toList)
  setText := StyledText.printed
  setTable := TextTable.printed
  strip := ControlSequence.drop

end Display

end SchemaChange.Console
