import SchemaChange.Calendar
import SchemaChange.Number.Shortest
import SchemaChange.Text.Quoted

/-! # Document values

A document is a value of a general data format: mappings with keys of any sort, lists, and scalars. Only texts, lists
and mappings matter to an edit script; the other sorts are told apart as far as keys and problems need it.
-/
namespace SchemaChange

/-- The values. The constant for an undefined number is one value, and equal to itself as a key; an undefined number
that was read or computed is equal to none. -/
inductive Value where
  | null
  | bool (value : Bool)
  | int (value : Int)
  | real (value : Binary64)
  | undefinedNumber
  | moment (value : Moment)
  | string (text : String)
  | bytes (content : ByteArray)
  | list (items : List Value)
  | set (items : List Value)
  | map (entries : List (Value × Value))
  deriving Inhabited

namespace Value

def lookup? (entries : List (Value × Value)) (key : String) : Option Value :=
  (entries.find? fun entry =>
    match entry.1 with
    | string text => text = key
    | _ => false).map (·.2)

def int? : Value → Option Int
  | int n => some n
  | bool b => some (if b then 1 else 0)
  | _ => none

/-- Whether two values are one key of a mapping. Numbers are compared by value, whatever their sort. -/
def sameKey (a b : Value) : Bool :=
  match a, b with
  | null, null => true
  | string s, string t => s = t
  | bytes s, bytes t => s.toList = t.toList
  | moment s, moment t => s.same t
  | undefinedNumber, undefinedNumber => true
  | real x, real y => x.sameValue y
  | real x, _ => (b.int?.map x.isInt).getD false
  | _, real y => (a.int?.map y.isInt).getD false
  | _, _ =>
    match a.int?, b.int? with
    | some m, some n => m = n
    | _, _ => false

end Value

/-- One step from a document to a part of it: a key or an index. -/
inductive Step where
  | key (name : String)
  | index (position : Int)
  deriving DecidableEq, Repr

namespace Step

/-- The bound of machine-sized integers, two to the power of 63. -/
def indexBound : Int := 9223372036854775808

def digitLimit : Nat := 4300

/-- The text of a whole number, or a remark that it has too many digits. -/
def intText (n : Int) : String :=
  let text := toString n
  if digitLimit < (toString n.natAbs).length then "<unprintable int object>" else text

/-- The step for a key of any sort: texts and machine-sized integers as they are, other keys by their text. -/
def ofKey : Value → Step
  | .string text => key text
  | .int n => if -indexBound ≤ n ∧ n < indexBound then index n else key (intText n)
  | .bool b => index (if b then 1 else 0)
  | .null => key "None"
  | .real x => key x.text
  | .undefinedNumber => key Binary64.undefined.text
  | .moment m => key m.text
  | .bytes content => key (Text.quotedBytes content.toList)
  | _ => key ""

end Step

end SchemaChange
