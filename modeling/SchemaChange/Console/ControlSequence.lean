/-! # Control sequences

A control sequence starts with an escape character and an opening bracket, has parameters and intermediate characters,
and ends in a final one. It steers a terminal and is no part of a plain text.
-/
namespace SchemaChange.Console.ControlSequence

def isParameter (c : Char) : Bool := '0' ≤ c && c ≤ '?'

def isIntermediate (c : Char) : Bool := ' ' ≤ c && c ≤ '/'

def isFinal (c : Char) : Bool := '@' ≤ c && c ≤ '~'

def after? : List Char → Option (List Char)
  | '\x1b' :: '[' :: rest =>
    match (rest.dropWhile isParameter).dropWhile isIntermediate with
    | c :: rest => if isFinal c then some rest else none
    | [] => none
  | _ => none

def dropWithin : Nat → List Char → List Char
  | 0, s => s
  | _, [] => []
  | fuel + 1, c :: rest =>
    match after? (c :: rest) with
    | some rest => dropWithin fuel rest
    | none => c :: dropWithin fuel rest

def drop (s : String) : String := String.ofList (dropWithin s.toList.length s.toList)

end SchemaChange.Console.ControlSequence
