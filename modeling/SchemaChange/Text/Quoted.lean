import SchemaChange.Text.CodePoint
import SchemaChange.Text.Printable

/-! # Quoted text

Text is shown between quotes, with the quote in use, the backslash and every character without a visible form
written as an escape. Single quotes are used, unless the text holds a single quote and no double one.
-/
namespace SchemaChange.Text

def hexDigit (n : Nat) : Char :=
  if n < 10 then Char.ofNat ('0'.toNat + n) else Char.ofNat ('a'.toNat + (n - 10))

/-- Exactly `width` hexadecimal digits, the most significant first. -/
def hexDigits : Nat → Nat → List Char
  | 0, _ => []
  | width + 1, n => hexDigits width (n / 16) ++ [hexDigit (n % 16)]

def quoteFor (s : List Char) : Char :=
  if '\'' ∈ s ∧ '"' ∉ s then '"' else '\''

/-- A code point without a visible form, by its number: two, four or eight digits. -/
def codeEscape (code : Nat) : List Char :=
  if code < 0x100 then '\\' :: 'x' :: hexDigits 2 code
  else if code < 0x10000 then '\\' :: 'u' :: hexDigits 4 code
  else '\\' :: 'U' :: hexDigits 8 code

/-- One code point of a text written with the given quote. -/
def escapeIn (quote : Char) (code : Nat) : List Char :=
  let c := Char.ofNat code
  if c = quote ∨ c = '\\' then ['\\', c]
  else if c = '\n' then ['\\', 'n']
  else if c = '\r' then ['\\', 'r']
  else if c = '\t' then ['\\', 't']
  else if isPrintable c then [c]
  else codeEscape code

def quotedChars (s : List Char) : List Char :=
  quoteFor s :: (codePoints s).flatMap (escapeIn (quoteFor s)) ++ [quoteFor s]

def quoted (s : String) : String := String.ofList (quotedChars s.toList)

/-- One byte between the given quotes; only printable ASCII is written as itself. -/
def escapeByteIn (quote : Char) (byte : UInt8) : List Char :=
  let c := Char.ofNat byte.toNat
  if c = quote ∨ c = '\\' then ['\\', c]
  else if c = '\n' then ['\\', 'n']
  else if c = '\r' then ['\\', 'r']
  else if c = '\t' then ['\\', 't']
  else if ' ' ≤ c ∧ c ≤ '~' then [c]
  else '\\' :: 'x' :: hexDigits 2 byte.toNat

/-- Bytes in quotes after a `b`. -/
def quotedBytes (bytes : List UInt8) : String :=
  let quote := quoteFor (bytes.map fun byte => Char.ofNat byte.toNat)
  String.ofList ('b' :: quote :: bytes.flatMap (escapeByteIn quote) ++ [quote])

/-- Quoted texts in square brackets, separated by a comma and a space. -/
def quotedList (items : List String) : String :=
  "[" ++ ", ".intercalate (items.map quoted) ++ "]"

end SchemaChange.Text
