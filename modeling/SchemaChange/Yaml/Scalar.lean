import SchemaChange.Script.Value
import SchemaChange.Text.Blank
import SchemaChange.Text.DecimalDigit
import SchemaChange.Text.LowerCase
import SchemaChange.Yaml.Tag
import SchemaChange.Yaml.Token

/-! # Values of YAML scalars

The text of a scalar is read according to its tag. A number or date that has the form of its type and still means
nothing, such as a month of 13, is refused with a message. Numbers may be written with the decimal digits of any
script and may have blanks around them.
-/
namespace SchemaChange.Yaml

namespace Scalar

/-- The blanks of ASCII text. -/
def isAsciiBlank (c : Char) : Bool := c = ' ' || (0x09 ≤ c.toNat && c.toNat ≤ 0x0D)

def isAscii (c : Char) : Bool := c.toNat < 0x80

/-- A character of a numeral in ASCII: digits and blanks of all scripts have their counterparts there, and no other
character can be in a numeral. -/
def numeralChar (c : Char) : Char :=
  if c.toNat < 0x7F then c
  else if Text.isBlank c then ' '
  else
    match Text.decimalDigit? c with
    | some d => Char.ofNat ('0'.toNat + d)
    | none => '?'

def numeral (s : List Char) : List Char := if s.all isAscii then s else s.map numeralChar

def digitValue? (c : Char) : Option Nat :=
  if c.isDigit then some (c.toNat - '0'.toNat)
  else if 'a' ≤ c ∧ c ≤ 'z' then some (c.toNat - 'a'.toNat + 10)
  else if 'A' ≤ c ∧ c ≤ 'Z' then some (c.toNat - 'A'.toNat + 10)
  else none

def isDigitOf (base : Nat) (c : Char) : Bool := (digitValue? c).any (· < base)

/-- A numeral without the mark of its base, a letter after a zero. -/
def dropBaseMark (base : Nat) : List Char → List Char
  | '0' :: mark :: rest =>
    if (base = 2 ∧ (mark = 'b' ∨ mark = 'B')) ∨ (base = 8 ∧ (mark = 'o' ∨ mark = 'O'))
        ∨ (base = 16 ∧ (mark = 'x' ∨ mark = 'X')) then rest
    else '0' :: mark :: rest
  | s => s

/-- The most characters of a quoted text that a message shows. -/
def shownLength : Nat := 200

def notANumber {α : Type} (base : Nat) (s : List Char) : Read α :=
  .error (.noValue ("invalid literal for int() with base " ++ toString base ++ ": "
    ++ String.ofList ((Text.quotedChars s).take shownLength)))

/-- A number in a base, with an optional sign, the base's mark and blanks around it. -/
def inBase (base : Nat) (s : List Char) : Read Int :=
  let start := (numeral s).dropWhile isAsciiBlank
  let body := dropBaseMark base (Tag.dropSign start)
  let digits := body.takeWhile (isDigitOf base)
  let rest := (body.drop digits.length).dropWhile isAsciiBlank
  if base = 10 ∧ digitLimit < digits.length then tooManyDigits digits.length
  else if digits.isEmpty ∨ !rest.isEmpty then notANumber base s
  else
    let n : Nat := digits.foldl (fun n c => base * n + (digitValue? c).getD 0) 0
    .ok (if start.head? = some '-' then -(n : Int) else n)

def sexagesimal (s : List Char) : Read Int := do
  let parts ← (Tag.splitColons s).mapM (inBase 10)
  .ok (parts.foldl (fun n part => 60 * n + part) 0)

/-- A whole number: binary after `0b`, hexadecimal after `0x`, octal after another zero, else decimal. -/
def whole (text : String) : Read Int := do
  let s := text.toList.filter (· ≠ '_')
  let body := Tag.dropSign s
  let n ← match body with
    | [] => .error .emptyNumber
    | ['0'] => .ok 0
    | '0' :: 'b' :: digits => inBase 2 digits
    | '0' :: 'x' :: digits => inBase 16 digits
    | '0' :: _ => inBase 8 body
    | _ => if body.contains ':' then sexagesimal body else inBase 10 body
  .ok (if s.head? = some '-' then -n else n)

/-- A decimal number as the digits before and after the point, and an exponent. -/
def decimal? (s : List Char) : Option (List Char × List Char × Int) :=
  let before := s.takeWhile Char.isDigit
  let rest := s.drop before.length
  let (after, rest) := match rest with
    | '.' :: rest => (rest.takeWhile Char.isDigit, rest.dropWhile Char.isDigit)
    | rest => ([], rest)
  let exponent? : Option Int := match rest with
    | [] => some 0
    | mark :: rest =>
      let digits := Tag.dropSign rest
      if (mark = 'e' ∨ mark = 'E') ∧ !digits.isEmpty ∧ digits.all Char.isDigit then
        some (if rest.head? = some '-' then -(Tag.number digits : Int) else Tag.number digits)
      else none
  if before.isEmpty ∧ after.isEmpty then none else exponent?.map fun exponent => (before, after, exponent)

/-- A decimal number, or the word for one that is not finite, with an optional sign and blanks around it. -/
def decimal (s : List Char) : Read Binary64 :=
  let trimmed := Text.trimWith isAsciiBlank (numeral s)
  let body := Tag.dropSign trimmed
  let negative := trimmed.head? = some '-'
  let word := body.map Char.toLower
  if word = "inf".toList ∨ word = "infinity".toList then .ok (.infinite negative)
  else if word = "nan".toList then .ok .undefined
  else
    match decimal? body with
    | some (before, after, exponent) =>
      .ok (.ofDecimal negative ((before ++ after).map fun c => c.toNat - '0'.toNat) (exponent - after.length))
    | none => .error (.noValue ("could not convert string to float: " ++ Text.quoted (String.ofList s)))

/-- The number with given parts to base sixty, the last one first, from a power of sixty on. A power that is no finite
number is too large. -/
def sexagesimalSum (power : Nat) (sum : Binary64) : List Binary64 → Read Binary64
  | [] => .ok sum
  | part :: more =>
    match Binary64.ofInt power with
    | .infinite _ => .error .tooLarge
    | factor => sexagesimalSum (60 * power) (sum.add (part.mul factor)) more

/-- A real number. It is negative if a sign in front of it says so. -/
def real (text : String) : Read Value := do
  let s := Text.lower (text.toList.filter (· ≠ '_'))
  if s.isEmpty then .error .emptyNumber
  else
    let body := Tag.dropSign s
    let signed (x : Binary64) : Value := .real (if s.head? = some '-' then x.negate else x)
    if body = ".inf".toList then .ok (signed (.infinite false))
    else if body = ".nan".toList then .ok .undefinedNumber
    else if body.contains ':' then do
      let parts ← (Tag.splitColons body).mapM decimal
      .ok (signed (← sexagesimalSum 1 (.finite false 0 Binary64.leastExponent) parts.reverse))
    else .ok (signed (← decimal body))

def timestamp (text : String) : Read Value :=
  match Tag.moment? (Tag.dropFinalBreak text.toList) with
  | some moment =>
    match moment.checked with
    | .ok moment => .ok (.moment moment)
    | .error e => .error (.noValue e.message)
  | none => .error .notTimestamp

def base64Value? (c : Char) : Option Nat :=
  if 'A' ≤ c ∧ c ≤ 'Z' then some (c.toNat - 'A'.toNat)
  else if 'a' ≤ c ∧ c ≤ 'z' then some (c.toNat - 'a'.toNat + 26)
  else if c.isDigit then some (c.toNat - '0'.toNat + 52)
  else if c = '+' then some 62
  else if c = '/' then some 63
  else none

/-- The bytes of a group of two to four digits: one fewer than there are digits. -/
def groupBytes : List Nat → List UInt8
  | [a, b] => [UInt8.ofNat ((a * 64 + b) / 16)]
  | [a, b, c] =>
    let n := (a * 64 + b) * 64 + c
    [UInt8.ofNat (n / 1024), UInt8.ofNat (n / 4 % 256)]
  | [a, b, c, d] =>
    let n := ((a * 64 + b) * 64 + c) * 64 + d
    [UInt8.ofNat (n / 65536), UInt8.ofNat (n / 256 % 256), UInt8.ofNat (n % 256)]
  | _ => []

/-- The bytes of groups of four digits, after the digits of an unfinished group and the padding signs that followed
them. Padding signs that fill up a group of two or three end the text; before that they count for nothing, and neither
do other characters. -/
def base64Bytes (group : List Nat) (padding : Nat) : List Char → Option (List UInt8)
  | [] => if group.isEmpty then some [] else none
  | c :: rest =>
    if c = '=' then
      if group.length < 2 then base64Bytes group padding rest
      else if group.length + padding < 3 then base64Bytes group (padding + 1) rest
      else some (groupBytes group)
    else
      match base64Value? c with
      | none => base64Bytes group padding rest
      | some digit =>
        if group.length < 3 then base64Bytes (group ++ [digit]) 0 rest
        else (base64Bytes [] 0 rest).map (groupBytes (group ++ [digit]) ++ ·)

def binary (text : String) : Read Value :=
  match text.toList.all isAscii, base64Bytes [] 0 text.toList with
  | true, some bytes => .ok (.bytes ⟨bytes.toArray⟩)
  | _, _ => .error .unreadable

def booleans : List (String × Bool) :=
  [("yes", true), ("no", false), ("true", true), ("false", false), ("on", true), ("off", false)]

def boolean (text : String) : Read Value :=
  match booleans.lookup (Text.lowerText text) with
  | some b => .ok (.bool b)
  | none => .error .notBoolean

def value (tag : Tag) (text : String) : Read Value :=
  match tag with
  | .null => .ok .null
  | .boolean => boolean text
  | .whole => (whole text).map .int
  | .real => real text
  | .timestamp => timestamp text
  | .binary => binary text
  | .string => .ok (.string text)
  | _ => .error .unreadable

end Scalar

end SchemaChange.Yaml
