import SchemaChange.Script.Load
import SchemaChange.Yaml.Node
import SchemaChange.Yaml.Scalar

/-! # Values of YAML texts

A text with one document has a value: scalars by their types, sequences as lists, mappings with the entries of their
merge keys. Of a repeated key the first keeps its place and the last gives the value. Faults nearer to the root count
before deeper ones, and of one level the first.
-/
namespace SchemaChange.Yaml

/-- A value with its first fault, if it has one, and the level at which that stands. -/
structure Built where
  value : Value
  fault : Option (Nat × ReadError)

namespace Built

def ok (value : Value) : Built := ⟨value, none⟩

def fail (level : Nat) (error : ReadError) : Built := ⟨.null, some (level, error)⟩

/-- The fault that counts of two, the first being earlier in the text. -/
def firstFault : Option (Nat × ReadError) → Option (Nat × ReadError) → Option (Nat × ReadError)
  | some a, some b => if b.1 < a.1 then some b else some a
  | some a, none => some a
  | none, b => b

end Built

/-- Sets a key of a mapping, in its place if it is there already. -/
def setEntry (entries : List (Value × Value)) (key value : Value) : List (Value × Value) :=
  if entries.any (Value.sameKey ·.1 key) then
    entries.map fun entry => if Value.sameKey entry.1 key then (entry.1, value) else entry
  else entries ++ [(key, value)]

/-- Lists and mappings cannot be keys. -/
def isKey : Value → Bool
  | .list _ => false
  | .map _ => false
  | .set _ => false
  | _ => true

namespace Node

def tag : Node → Tag
  | scalar tag _ => tag
  | sequence tag _ => tag
  | mapping tag _ => tag

def withTag (tag : Tag) : Node → Node
  | scalar _ content => scalar tag content
  | sequence _ items => sequence tag items
  | mapping _ entries => mapping tag entries

def isMergeKey (node : Node) : Bool := node.tag = .merge

/-- The key `=` is a text. -/
def plainKey (node : Node) : Node := if node.tag = .default then node.withTag .string else node

/-- The entries of a mapping with those of its merge keys in front. -/
def mergedWithin : Nat → List (Node × Node) → Option (List (Node × Node))
  | 0, _ => none
  | fuel + 1, entries => do
    let merged ← (entries.filter (isMergeKey ·.1)).mapM fun entry =>
      match entry.2 with
      | mapping _ inner => mergedWithin fuel inner
      | sequence _ items => do
        let parts ← items.mapM fun item =>
          match item with
          | mapping _ inner => mergedWithin fuel inner
          | _ => none
        some parts.reverse.flatten
      | _ => none
    some (merged.flatten
      ++ (entries.filter (!isMergeKey ·.1)).map fun entry => (plainKey entry.1, entry.2))

def depthWithin : Nat → Node → Nat
  | 0, _ => 0
  | fuel + 1, node =>
    match node with
    | scalar _ _ => 1
    | sequence _ items => 1 + (items.map (depthWithin fuel)).foldr max 0
    | mapping _ entries =>
      1 + (entries.map fun entry => max (depthWithin fuel entry.1) (depthWithin fuel entry.2)).foldr max 0

/-- The content of a scalar, or of what the first key `=` of a mapping stands for. -/
def contentWithin : Nat → Node → Option String
  | 0, _ => none
  | fuel + 1, node =>
    match node with
    | scalar _ content => some content
    | mapping _ entries =>
      (entries.find? fun entry => entry.1.tag = .default).bind fun entry => contentWithin fuel entry.2
    | sequence _ _ => none

def isMapping : Node → Bool
  | mapping _ _ => true
  | _ => false

def solePair? : Node → Option (Node × Node)
  | mapping _ [entry] => some entry
  | _ => none

/-- Adds an entry to what was built of a mapping. A key that cannot be one is a fault of the mapping, before any fault
within the key. -/
def addEntry (level : Nat) (built : List (Value × Value) × Option (Nat × ReadError)) (key value : Built) :
    List (Value × Value) × Option (Nat × ReadError) :=
  let keyFault : Option (Nat × ReadError) :=
    match key.fault with
    | some f => if f.1 ≤ level then some f else some (level, .unreadable)
    | none => if isKey key.value then none else some (level, .unreadable)
  (setEntry built.1 key.value value.value,
    Built.firstFault built.2 (Built.firstFault keyFault value.fault))

/-- The value of a node at a level. -/
def buildWithin : Nat → Nat → Node → Built
  | 0, level, _ => .fail level .unreadable
  | fuel + 1, level, node =>
    let inner := level + 1
    let ofItems (items : List Node) : List Value × Option (Nat × ReadError) :=
      let parts := items.map (buildWithin fuel inner)
      (parts.map (·.value), (parts.map (·.fault)).foldr Built.firstFault none)
    let ofEntries (entries : List (Node × Node)) : Option (List (Value × Value) × Option (Nat × ReadError)) :=
      (mergedWithin (fuel + 1) entries).map fun entries =>
        entries.foldl (fun built entry =>
          addEntry inner built (buildWithin fuel inner entry.1) (buildWithin fuel inner entry.2)) ([], none)
    match node.tag, node with
    | .sequence, sequence _ items =>
      let (values, fault) := ofItems items
      ⟨.list values, fault⟩
    | .mapping, mapping _ entries =>
      match ofEntries entries with
      | some (entries, fault) => ⟨.map entries, fault⟩
      | none => .fail inner .unreadable
    | .set, mapping _ entries =>
      match ofEntries entries with
      | some (entries, fault) => ⟨.set (entries.map (·.1)), fault⟩
      | none => .fail inner .unreadable
    | .orderedMap, sequence _ items => buildPairs fuel inner items
    | .pairs, sequence _ items => buildPairs fuel inner items
    | .sequence, _ => .fail inner .unreadable
    | .mapping, _ => .fail inner .unreadable
    | .set, _ => .fail inner .unreadable
    | .orderedMap, _ => .fail inner .unreadable
    | .pairs, _ => .fail inner .unreadable
    | tag, node =>
      match contentWithin (fuel + 1) node with
      | some content =>
        if tag = .timestamp && node.isMapping then .fail level .timestampEntry
        else
          match Scalar.value tag content with
          | .ok value => .ok value
          | .error e => .fail level e
      | none => .fail level .unreadable
where
  /-- A list of pairs, from mappings of one entry each. -/
  buildPairs (fuel level : Nat) (items : List Node) : Built :=
    match items.mapM solePair? with
    | some entries =>
      let parts := entries.map fun entry => (buildWithin fuel level entry.1, buildWithin fuel level entry.2)
      ⟨.list (parts.map fun pair => .list [pair.1.value, pair.2.value]),
        (parts.map fun pair => Built.firstFault pair.1.fault pair.2.fault).foldr Built.firstFault none⟩
    | none => .fail level .unreadable

def toValue (size : Nat) (node : Node) : Read Value :=
  let built := buildWithin (depthWithin size node + 1) 0 node
  match built.fault with
  | some (_, e) => .error e
  | none => .ok built.value

end Node

/-- The value of a YAML text; a text without a document has none, which counts as null. -/
def read (text : String) : Read Value := do
  let ts := tokens text
  match ← Node.ofTokens ts with
  | some node => node.toValue (ts.length + 1)
  | none => .ok .null

/-- What an error says, and of which kind it is. -/
def ReadError.toFault : ReadError → ReadFault
  | unreadable => ⟨.format, "the text cannot be read"⟩
  | emptyNumber => ⟨.index, "a number without digits"⟩
  | notBoolean => ⟨.key, "a word that is neither yes nor no"⟩
  | notTimestamp => ⟨.attribute, "a text that is no timestamp"⟩
  | timestampEntry => ⟨.type, "a mapping in place of a timestamp"⟩
  | noValue message => ⟨.value, message⟩
  | tooLarge => ⟨.overflow, "a number that is too large"⟩
  | tooDeep => ⟨.recursion, "collections that are nested too deeply"⟩

def load (text : String) : Except ReadFault Value := (read text).mapError (·.toFault)

end SchemaChange.Yaml
