/-! # Words without regard to case

A word of ASCII letters is compared with a text through the text's capitals or through its folded form. Both forms are
given for the characters whose form is ASCII; other characters stay what they are and so match no such word.
-/
namespace SchemaChange.Text

/-- The characters outside ASCII whose capitals are ASCII letters. -/
def asciiCapitals : List (Char × String) :=
  [('ß', "SS"), ('ı', "I"), ('ſ', "S"), ('ﬀ', "FF"), ('ﬁ', "FI"), ('ﬂ', "FL"), ('ﬃ', "FFI"), ('ﬄ', "FFL"),
    ('ﬅ', "ST"), ('ﬆ', "ST")]

/-- The characters outside ASCII whose folded forms are ASCII letters. -/
def asciiFoldings : List (Char × String) :=
  [('ß', "ss"), ('ſ', "s"), ('ẞ', "ss"), ('\u212A', "k"), ('ﬀ', "ff"), ('ﬁ', "fi"), ('ﬂ', "fl"), ('ﬃ', "ffi"),
    ('ﬄ', "ffl"), ('ﬅ', "st"), ('ﬆ', "st")]

/-- A text with a form for each of its characters: that of a table, or else the one of ASCII. -/
def formOf (table : List (Char × String)) (ascii : Char → Char) (s : String) : String :=
  String.ofList (s.toList.flatMap fun c => ((table.lookup c).map String.toList).getD [ascii c])

def capitals (s : String) : String := formOf asciiCapitals Char.toUpper s

def folded (s : String) : String := formOf asciiFoldings Char.toLower s

end SchemaChange.Text
