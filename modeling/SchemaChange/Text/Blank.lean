import SchemaChange.Text.Printable

/-! # Blanks, words and lines

The blanks are the separators and the controls that part words. Some of them end lines as well.
-/
namespace SchemaChange.Text

/-- The blanks, as closed ranges in ascending order. -/
def blankRanges : List (Nat × Nat) :=
  [(0x9, 0xD), (0x1C, 0x20), (0x85, 0x85), (0xA0, 0xA0), (0x1680, 0x1680), (0x2000, 0x200A), (0x2028, 0x2029),
    (0x202F, 0x202F), (0x205F, 0x205F), (0x3000, 0x3000)]

def isBlank (c : Char) : Bool := inRanges blankRanges c.toNat

def dropEndWhile (p : Char → Bool) (s : List Char) : List Char := (s.reverse.dropWhile p).reverse

def trimWith (p : Char → Bool) (s : List Char) : List Char := dropEndWhile p (s.dropWhile p)

def trim (s : List Char) : List Char := trimWith isBlank s

def trimEnd (s : List Char) : List Char := dropEndWhile isBlank s

/-- The runs of characters for which `separates` does not hold; with neighbouring separators there are empty ones. -/
def splitWith (separates : Char → Bool) : List Char → List (List Char)
  | [] => [[]]
  | c :: rest =>
    if separates c then [] :: splitWith separates rest
    else
      match splitWith separates rest with
      | part :: more => (c :: part) :: more
      | [] => [[c]]

def words (s : List Char) : List (List Char) := (splitWith isBlank s).filter (!·.isEmpty)

def endsLine (c : Char) : Bool :=
  inRanges [(0x0A, 0x0D), (0x1C, 0x1E), (0x85, 0x85), (0x2028, 0x2029)] c.toNat

/-- The parts of a text between the characters that end lines. -/
def lineParts (s : List Char) : List (List Char) := splitWith endsLine s

end SchemaChange.Text
