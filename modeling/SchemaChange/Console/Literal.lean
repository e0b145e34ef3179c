import SchemaChange.Text.CodePoint
import SchemaChange.Text.WordChar

/-! # Literal values

The parameters of an action are written as a literal value: texts, bytes, numbers, `True`, `False`, `None`, `...`, and
tuples, sets and mappings of values. A number may have a sign, and a complex number may be a sum. What a set holds and
the keys of a mapping cannot be sets or mappings themselves. Each reader gives the part at the start of a text and what
follows it.
-/
namespace SchemaChange.Console.Literal

/-- What matters of a value for the values around it. -/
inductive Shape where
  /-- A number without a sign. -/
  | number (imaginary : Bool)
  | signedNumber (imaginary : Bool)
  /-- A value that can be in a set. -/
  | atom
  | collection
  deriving DecidableEq, Repr

def Shape.canBeKey : Shape → Bool
  | collection => false
  | _ => true

/-- Blanks before the next part. Inside brackets lines may end, and comments end with them. -/
def skipWithin (inside : Bool) : Nat → List Char → List Char
  | 0, s => s
  | fuel + 1, s =>
    match s with
    | '\\' :: '\n' :: rest => skipWithin inside fuel rest
    | '\n' :: rest => if inside then skipWithin inside fuel rest else s
    | '#' :: rest => if inside then skipWithin inside fuel (rest.dropWhile (· ≠ '\n')) else s
    | c :: rest => if c = ' ' ∨ c = '\t' ∨ c = '\x0c' then skipWithin inside fuel rest else s
    | [] => []

def skip (inside : Bool) (s : List Char) : List Char := skipWithin inside s.length s

/-- Digits with single underscores between them. -/
def takeDigits (isDigit : Char → Bool) : List Char → Option (List Char × List Char)
  | [] => none
  | d :: rest =>
    if !isDigit d then none
    else
      match rest with
      | '_' :: rest =>
        match takeDigits isDigit rest with
        | some (digits, after) => some (d :: digits, after)
        | none => none
      | rest =>
        match takeDigits isDigit rest with
        | some (digits, after) => some (d :: digits, after)
        | none => some ([d], rest)

def isHexDigit (c : Char) : Bool := c.isDigit || ('a' ≤ c && c ≤ 'f') || ('A' ≤ c && c ≤ 'F')

def baseDigits? (mark : Char) : Option (Char → Bool) :=
  if mark = 'x' ∨ mark = 'X' then some isHexDigit
  else if mark = 'o' ∨ mark = 'O' then some fun c => '0' ≤ c && c ≤ '7'
  else if mark = 'b' ∨ mark = 'B' then some fun c => c = '0' || c = '1'
  else none

/-- A number in another base than ten, after its zero and mark. An underscore may stand behind the mark. -/
def takeBased (isDigit : Char → Bool) (s : List Char) : Option (Shape × List Char) :=
  (takeDigits isDigit (if s.head? = some '_' then s.drop 1 else s)).map fun (_, after) => (.number false, after)

def skipExponent (s : List Char) : Bool × List Char :=
  match s with
  | mark :: rest =>
    let digits := match rest with
      | '+' :: digits => digits
      | '-' :: digits => digits
      | digits => digits
    match if mark = 'e' ∨ mark = 'E' then takeDigits Char.isDigit digits else none with
    | some (_, after) => (true, after)
    | none => (false, s)
  | [] => (false, s)

def digitLimit : Nat := 4300

/-- A decimal number. A whole one starts with no zero, unless it is zero. -/
def takeDecimal (s : List Char) : Option (Shape × List Char) := do
  let (whole, rest) := (takeDigits Char.isDigit s).getD ([], s)
  let (fraction, pointed, rest) := match rest with
    | '.' :: rest =>
      let (fraction, after) := (takeDigits Char.isDigit rest).getD ([], rest)
      (fraction, true, after)
    | rest => ([], false, rest)
  let (hasExponent, rest) := if whole.isEmpty && fraction.isEmpty then (false, rest) else skipExponent rest
  match rest with
  | 'j' :: rest => if whole.isEmpty && fraction.isEmpty then none else some (.number true, rest)
  | 'J' :: rest => if whole.isEmpty && fraction.isEmpty then none else some (.number true, rest)
  | rest =>
    if whole.isEmpty && fraction.isEmpty then none
    else if pointed || hasExponent then some (.number false, rest)
    else if whole.length > digitLimit then none
    else if whole.head? = some '0' && !whole.all (· = '0') then none
    else some (.number false, rest)

def takeNumber (s : List Char) : Option (Shape × List Char) :=
  match s with
  | '0' :: mark :: rest =>
    match baseDigits? mark with
    | some isDigit => takeBased isDigit rest
    | none => takeDecimal s
  | s => takeDecimal s

/-- The marks in front of a quote: whether they make the text one of bytes, and raw. -/
def quoteMarks : List (List Char × Bool × Bool) :=
  [([], false, false), (['u'], false, false), (['r'], false, true), (['b'], true, false),
    (['b', 'r'], true, true), (['r', 'b'], true, true)]

def escapeDigits (bytes : Bool) (c : Char) : Nat :=
  if c = 'x' then 2 else if bytes then 0 else if c = 'u' then 4 else if c = 'U' then 8 else 0

/-- What follows the character after a backslash, if that is in order. -/
def afterEscape? (bytes : Bool) (c : Char) (rest : List Char) : Option (List Char) :=
  let n := escapeDigits bytes c
  let digits := rest.take n
  if c = 'N' && !bytes then
    match rest with
    | '\x7b' :: rest =>
      match rest.span (· ≠ '\x7d') with
      | (_ :: _, _ :: after) => some after
      | _ => none
    | _ => none
  else if digits.length = n ∧ digits.all isHexDigit
      ∧ (n < 8 ∨ digits.take 2 = ['0', '0'] ∧ (digits[2]? = some '0' ∨ digits.take 4 = ['0', '0', '1', '0'])) then
    some (rest.drop n)
  else none

def closeQuote (quotes : List Char) (bytes raw : Bool) : Nat → List Char → Option (List Char)
  | 0, _ => none
  | fuel + 1, s =>
    if quotes.isPrefixOf s then some (s.drop quotes.length)
    else
      match s with
      | [] => none
      | '\\' :: c :: rest =>
        if bytes && c.toNat > 0x7F then none
        else if raw then closeQuote quotes bytes raw fuel rest
        else (afterEscape? bytes c rest).bind (closeQuote quotes bytes raw fuel)
      | c :: rest =>
        if (c = '\n' && quotes.length = 1) || (bytes && c.toNat > 0x7F) then none
        else closeQuote quotes bytes raw fuel rest

/-- One text with its quotes: whether it is one of bytes. -/
def takeText (s : List Char) : Option (Bool × List Char) := do
  let marks := s.takeWhile fun c => c.isAlpha
  let (_, bytes, raw) ← quoteMarks.find? (·.1 = marks.map Char.toLower)
  let rest := s.drop marks.length
  let quote ← rest.head?
  if quote ≠ '"' ∧ quote ≠ '\'' then none
  else
    let three := List.replicate 3 quote
    let quotes := if three.isPrefixOf rest then three else [quote]
    let after ← closeQuote quotes bytes raw rest.length (rest.drop quotes.length)
    some (bytes, after)

/-- Texts one after the other make one text; they are all of one kind. -/
def takeTexts (inside : Bool) : Nat → Option Bool → List Char → Option (Shape × List Char)
  | 0, _, _ => none
  | fuel + 1, kind, s =>
    match takeText s with
    | some (bytes, after) =>
      if kind = some (!bytes) then none else takeTexts inside fuel (some bytes) (skip inside after)
    | none => if kind.isSome then some (.atom, s) else none

def takeWord (inside : Bool) (s : List Char) : Option (Shape × List Char) :=
  let word := s.takeWhile Text.isWordChar
  let rest := s.drop word.length
  if ["True", "False", "None"].contains (String.ofList word) then some (.atom, rest)
  else if word = "set".toList then
    match skip inside rest with
    | '(' :: rest =>
      match skip true rest with
      | ')' :: rest => some (.collection, rest)
      | _ => none
    | _ => none
  else none

def Shape.withSign? : Shape → Option Shape
  | number imaginary => some (signedNumber imaginary)
  | _ => none

/-- The shape of a sum or difference: a real number and an imaginary one without a sign. -/
def Shape.sum? : Shape → Shape → Option Shape
  | number false, number true => some atom
  | signedNumber false, number true => some atom
  | _, _ => none

mutual

/-- One value, up to what cannot belong to it. -/
def takeValue : Nat → Bool → List Char → Option (Shape × List Char)
  | 0, _, _ => none
  | fuel + 1, inside, s => do
    let (first, rest) ← takeSigned fuel inside (skip inside s)
    match skip inside rest with
    | sign :: after =>
      if sign = '+' ∨ sign = '-' then do
        let (second, rest) ← takeAtom fuel inside (skip inside after)
        some (← first.sum? second, rest)
      else some (first, sign :: after)
    | [] => some (first, [])

/-- A number with one sign, or any single value. -/
def takeSigned : Nat → Bool → List Char → Option (Shape × List Char)
  | 0, _, _ => none
  | fuel + 1, inside, s =>
    match s with
    | [] => none
    | c :: rest =>
      if c = '+' ∨ c = '-' then do
        let (number, rest) ← takeAtom fuel inside (skip inside rest)
        some (← number.withSign?, rest)
      else takeAtom fuel inside s

def takeAtom : Nat → Bool → List Char → Option (Shape × List Char)
  | 0, _, _ => none
  | fuel + 1, inside, s =>
    match s with
    | [] => none
    | '(' :: rest =>
      match skip true rest with
      | ')' :: after => some (.atom, after)
      | rest => do
        let (first, rest) ← takeValue fuel true rest
        match skip true rest with
        | ')' :: after => some (first, after)
        | rest => takeMore fuel ')' first.canBeKey rest
    | '\x7b' :: rest =>
      match skip true rest with
      | '\x7d' :: after => some (.collection, after)
      | rest => do
        let (first, rest) ← takeValue fuel true rest
        if !first.canBeKey then none
        else
          match skip true rest with
          | ':' :: rest => do
            let (_, rest) ← takeValue fuel true rest
            takeEntries fuel rest
          | rest => do
            let (all, after) ← takeMore fuel '\x7d' true rest
            if all.canBeKey then some (.collection, after) else none
    | '.' :: '.' :: '.' :: rest => some (.atom, rest)
    | c :: _ =>
      if c.isDigit ∨ c = '.' then takeNumber s
      else
        match takeTexts inside s.length none s with
        | some text => some text
        | none => takeWord inside s

/-- The values of a tuple or set after the first one, up to its end. The result can be a key if all of them can. -/
def takeMore : Nat → Char → Bool → List Char → Option (Shape × List Char)
  | 0, _, _, _ => none
  | fuel + 1, close, keys, s =>
    let result : Shape := if keys then .atom else .collection
    match skip true s with
    | ',' :: rest =>
      match skip true rest with
      | [] => none
      | c :: after =>
        if c = close then some (result, after)
        else do
          let (value, rest) ← takeValue fuel true (c :: after)
          takeMore fuel close (keys && value.canBeKey) rest
    | c :: after => if c = close then some (result, after) else none
    | [] => none

def takeEntries : Nat → List Char → Option (Shape × List Char)
  | 0, _ => none
  | fuel + 1, s =>
    match skip true s with
    | '\x7d' :: after => some (.collection, after)
    | ',' :: rest =>
      match skip true rest with
      | '\x7d' :: after => some (.collection, after)
      | rest => do
        let (key, rest) ← takeValue fuel true rest
        if !key.canBeKey then none
        else
          match skip true rest with
          | ':' :: rest => do
            let (_, rest) ← takeValue fuel true rest
            takeEntries fuel rest
          | _ => none
    | _ => none

end

/-- Whether nothing but a comment follows on this line, and nothing else on later ones. -/
def isEnd (s : List Char) : Bool :=
  match s with
  | [] => true
  | c :: _ => (c = '#' || c = '\n') && (skip true s).isEmpty

/-- Values separated by commas, up to the end of the text. -/
def areValues : Nat → Nat → List Char → Bool
  | 0, _, _ => false
  | fuel + 1, depth, s =>
    match takeValue depth false s with
    | none => false
    | some (_, rest) =>
      match skip false rest with
      | ',' :: rest => isEnd (skip false rest) || areValues fuel depth rest
      | rest => isEnd rest

/-- Whether a text is a literal value. One that holds a NUL or half of a surrogate pair is none. -/
def isLiteral (s : List Char) : Bool :=
  !s.contains '\x00' && !Text.hasHalf s
    && areValues (s.length + 1) (4 * s.length + 4) (skip true s)

end SchemaChange.Console.Literal
