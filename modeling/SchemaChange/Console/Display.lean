/-! # Displays

A display shows what the command hands to it: markup, tables of markup, and plain lines. It says which text a markup
stands for; how texts and tables are coloured and laid out is its own affair.
-/
namespace SchemaChange.Console

inductive MarkupError where
  /-- A closing tag that closes nothing. -/
  | closesNothing (tag : String)
  /-- Parameters of an action that are no literal value. -/
  | badParameters (parameters : String)
  /-- A colour component that is no number. -/
  | noNumber
  deriving DecidableEq, Repr

/-- The part of a text that a style is for, by the positions before and after it. -/
structure Span where
  first : Nat
  last : Nat
  style : String
  deriving DecidableEq, Repr

structure StyledText where
  chars : List Char
  spans : List Span
  deriving DecidableEq, Repr

/-- Words in a style, as markup. -/
def styled (style words : String) : String := "[" ++ style ++ "]" ++ words ++ "[/" ++ style ++ "]"

structure Column where
  header : String
  style? : Option String
  deriving DecidableEq, Repr

/-- A table with its cells in markup, row by row. -/
structure BoxTable where
  title : String
  columns : List Column
  rows : List (List String)
  deriving DecidableEq, Repr

/-- A column with the texts of its header and its cells. -/
structure TextColumn where
  header : StyledText
  style? : Option String
  cells : List StyledText
  deriving DecidableEq, Repr

structure TextTable where
  title : StyledText
  columns : List TextColumn
  deriving DecidableEq, Repr

/-- A table whose cells are read, column by column. -/
def BoxTable.read (read : String → Except MarkupError StyledText) (table : BoxTable) :
    Except MarkupError TextTable := do
  let title ← read table.title
  let columns ← table.columns.zipIdx.mapM fun (column, i) => do
    let header ← read column.header
    let cells ← table.rows.mapM fun row => read (row.getD i "")
    .ok ⟨header, column.style?, cells⟩
  .ok ⟨title, columns⟩

structure Display where
  isTerminal : Bool
  /-- The text that a markup stands for. -/
  read : String → Except MarkupError StyledText
  /-- A name between colons that stands for another text in markup. -/
  isEmojiName : List Char → Bool
  /-- A markup for a text. -/
  escape : String → String
  /-- What is printed for a text. -/
  setText : StyledText → Except MarkupError String
  setTable : TextTable → Except MarkupError String
  /-- What is printed of a plain line. -/
  strip : String → String

namespace Display

variable (display : Display)

def print (markup : String) : Except MarkupError String := display.read markup >>= display.setText

def printTable (table : BoxTable) : Except MarkupError String := table.read display.read >>= display.setTable

end Display

end SchemaChange.Console
