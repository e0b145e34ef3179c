import SchemaChange.Console.CellTable
import SchemaChange.Text.CodePoint
import SchemaChange.Text.Printable

/-! # Widths on a terminal

A character takes no, one or two cells. In a text a joiner hides the character after it, and the emoji selector widens
the last character that took a cell if that is one shown as text otherwise.
-/
namespace SchemaChange.Console

/-- Printable ASCII is told without the tables. A mark has no width besides that of the character after it. -/
def charWidth (c : Char) : Nat :=
  if ' ' ≤ c ∧ c ≤ '~' then 1
  else if c = Text.mark ∨ Text.inRanges zeroWidthRanges c.toNat then 0
  else if Text.inRanges wideRanges c.toNat then 2
  else 1

/-- The character that joins its neighbours into one. -/
def joiner : Char := '\u200D'

/-- The character that asks for the emoji form of the one before it. -/
def emojiSelector : Char := '\uFE0F'

def isTextEmoji (c : Char) : Bool := Text.inRanges textEmojiRanges c.toNat

/-- The width of a text, given the last character before it that took a cell, unless a selector has followed it. -/
def widthAfter (last : Option Char) : List Char → Nat
  | [] => 0
  | [c] => if c = joiner then 0 else if c = emojiSelector then selected last else charWidth c
  | c :: next :: rest =>
    if c = joiner then widthAfter last rest
    else if c = emojiSelector then selected last + widthAfter none (next :: rest)
    else if charWidth c = 0 then widthAfter last (next :: rest)
    else charWidth c + widthAfter (some c) (next :: rest)
where
  /-- The cells that the emoji selector adds. -/
  selected (last : Option Char) : Nat := if last.any isTextEmoji then 1 else 0

def width (line : List Char) : Nat := widthAfter none line

/-- Characters that are shown as one, and their width. -/
structure Cluster where
  chars : List Char
  cells : Nat
  deriving DecidableEq, Repr

/-- Adds characters to the last of some clusters, which stand in reverse order. -/
def joinLast (chars : List Char) (cells : Nat) : List Cluster → List Cluster
  | cluster :: before => ⟨cluster.chars ++ chars, cluster.cells + cells⟩ :: before
  | [] => [⟨chars, cells⟩]

/-- The clusters of a text, in reverse order after those before it. -/
def clustersAfter (before : List Cluster) (last : Option Char) : List Char → List Cluster
  | [] => before
  | [c] => step before last c
  | c :: next :: rest =>
    if c = joiner && !before.isEmpty then clustersAfter (joinLast [c, next] 0 before) last rest
    else if c = emojiSelector && !before.isEmpty then
      clustersAfter (step before last c) (if last.any isTextEmoji then none else last) (next :: rest)
    else
      clustersAfter (step before last c) (if isSpecial c || charWidth c = 0 then last else some c) (next :: rest)
where
  isSpecial (c : Char) : Bool := c = joiner || c = emojiSelector
  /-- The clusters after one more character, which is not followed by one that it joins. -/
  step (before : List Cluster) (last : Option Char) (c : Char) : List Cluster :=
    if isSpecial c then joinLast [c] (if c = emojiSelector && last.any isTextEmoji then 1 else 0) before
    else if charWidth c = 0 then joinLast [c] 0 before
    else ⟨[c], charWidth c⟩ :: before

def clusters (line : List Char) : List Cluster := (clustersAfter [] none line).reverse

/-- The first clusters up to a width; one that is cut in half leaves a blank. -/
def takeCells : Nat → List Cluster → List Char
  | _, [] => []
  | room, cluster :: rest =>
    if room = 0 then []
    else if cluster.cells ≤ room then cluster.chars ++ takeCells (room - cluster.cells) rest
    else [' ']

/-- A line of exactly a width: filled up with blanks or cut. -/
def fitted (total : Nat) (line : List Char) : List Char :=
  let cells := width line
  if cells ≤ total then line ++ List.replicate (total - cells) ' '
  else takeCells total (clusters line)

end SchemaChange.Console
