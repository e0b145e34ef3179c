import SchemaChange.Console.EmojiNames
import SchemaChange.Text.LowerCase

/-! # Emoji by name

A name between colons stands for an emoji. After the name a hyphen and `emoji` or `text` can say in which form it is
to be shown. A name that is not known stays as it is written, with its colons.
-/
namespace SchemaChange.Console.Emoji

/-- The forms that can be asked for, and the selectors for them. -/
def forms : List (String × Char) := [("-emoji", '\uFE0F'), ("-text", '\uFE0E')]

/-- A name and the selector of the form that is asked for. -/
def splitForm (inside : List Char) : List Char × List Char :=
  match forms.find? fun form => form.1.toList.isSuffixOf inside with
  | some (ending, selector) => (inside.take (inside.length - ending.length), [selector])
  | none => (inside, [])

def ofName? (inside : List Char) : Option (List Char) :=
  let (name, selector) := splitForm inside
  (emojiNames.lookup (String.ofList (Text.lower name))).map fun emoji => emoji.toList ++ selector

/-- The characters up to the next colon, if it comes before any blank, and those behind the colon. -/
def upToColon? : List Char → Option (List Char × List Char)
  | [] => none
  | ':' :: rest => some ([], rest)
  | c :: rest => if Text.isBlank c then none else (upToColon? rest).map fun (inside, after) => (c :: inside, after)

def replaceWithin : Nat → List Char → List Char
  | 0, s => s
  | _, [] => []
  | fuel + 1, c :: rest =>
    match if c = ':' then upToColon? rest else none with
    | some (inside, after) =>
      (ofName? inside).getD (':' :: inside ++ [':']) ++ replaceWithin fuel after
    | none => c :: replaceWithin fuel rest

def replace (s : List Char) : List Char := replaceWithin s.length s

end SchemaChange.Console.Emoji
