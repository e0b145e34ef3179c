import SchemaChange.Yaml.TokenStream
import SchemaChange.Yaml.Tag

/-! # YAML nodes

A document is a tree of scalars, sequences and mappings, each with its tag. Nodes are read from tokens by recursion on
the grammar; an alias stands for the node that its anchor names, and inside that node itself for an empty one.
-/
namespace SchemaChange.Yaml

inductive Node where
  | scalar (tag : Tag) (content : String)
  | sequence (tag : Tag) (items : List Node)
  | mapping (tag : Tag) (entries : List (Node × Node))
  deriving Inhabited

namespace Node

/-- The tokens to come, the nodes named so far, what tag handles stand for, and how many collections are open. -/
structure Source where
  tokens : List Token
  anchors : List (String × Node)
  handles : List (String × String)
  depth : Nat

/-- How many collections may be open at once. -/
def depthLimit : Nat := 480

def defaultHandles : List (String × String) := [("!", "!"), ("!!", "tag:yaml.org,2002:")]

/-- An empty plain scalar, where the grammar allows a node to be left out. -/
def absent : Node := scalar (Tag.ofPlain "") ""

/-- The anchor and tag before a node. -/
structure Properties where
  anchor : Option String
  tag : Option String

/-- The error of a place where the tokens to come do not fit: the fault that they start with, or none of them is what
the grammar asks for. -/
def refuse {α : Type} : List Token → Read α
  | .fault e :: _ => .error e
  | _ => unreadable

/-- Looks at the next token, which may be a fault. -/
def lookAt : List Token → Read Unit
  | .fault e :: _ => .error e
  | _ => .ok ()

namespace Source

def name (s : Source) (anchor : Option String) (node : Node) : Source :=
  match anchor with
  | some a => { s with anchors := (a, node) :: s.anchors }
  | none => s

/-- A tag as it is meant: its handle replaced by what the handle stands for. -/
def fullTag (s : Source) (handle : Option String) (suffix : String) : Read String :=
  match handle with
  | none => .ok suffix
  | some h =>
    match s.handles.lookup h with
    | some start => .ok (start ++ suffix)
    | none => unreadable

def takeAnchor (s : Source) : Option String × Source :=
  match s.tokens with
  | .anchor a :: rest => (some a, { s with tokens := rest })
  | _ => (none, s)

def takeTag (s : Source) : Option (Option String × String) × Source :=
  match s.tokens with
  | .tag handle suffix :: rest => (some (handle, suffix), { s with tokens := rest })
  | _ => (none, s)

/-- Anchor and tag, in either order. A tag in front is looked up after the next token is looked at. -/
def takeProperties (s : Source) : Read (Properties × Source) := do
  let (anchor, s) := s.takeAnchor
  let (tag, s) := s.takeTag
  let (anchor, s) ← match anchor, tag with
    | none, some _ => do
      lookAt s.tokens
      pure s.takeAnchor
    | _, _ => pure (anchor, s)
  let full ← tag.mapM fun (handle, suffix) => s.fullTag handle suffix
  lookAt s.tokens
  .ok (⟨anchor, full⟩, s)

/-- The source inside a collection that begins here. -/
def enter (s : Source) (anchor : Option String) (node : Node) (rest : List Token) : Read Source :=
  if s.depth < depthLimit then .ok ({ s with tokens := rest, depth := s.depth + 1 }.name anchor node)
  else .error .tooDeep

end Source

/-- The tag of a scalar: its own, or the one that its text suggests if it is plain, or that of texts. -/
def scalarTag (tag : Option String) (content : String) (plain : Bool) : Tag :=
  match tag, plain with
  | some "!", _ => Tag.ofPlain content
  | some t, _ => Tag.ofName t
  | none, true => Tag.ofPlain content
  | none, false => .string

def collectionTag (tag : Option String) (usual : Tag) : Tag :=
  match tag with
  | none => usual
  | some t => if t = "!" then usual else Tag.ofName t

def isEntryEnd : List Token → Bool
  | .blockEntry :: _ => true
  | .blockEnd :: _ => true
  | _ => false

def isIndentlessEnd : List Token → Bool
  | .key :: _ => true
  | .value :: _ => true
  | ts => isEntryEnd ts

def isBlockPartEnd : List Token → Bool
  | .key :: _ => true
  | .value :: _ => true
  | .blockEnd :: _ => true
  | _ => false

/-- Whether a part of a flow entry is left out: the next token separates or ends entries. -/
def isFlowPartEnd (close : Token) : List Token → Bool
  | .value :: _ => true
  | .flowEntry :: _ => true
  | t :: _ => t = close
  | [] => false

/-- The tokens after the comma that has to stand between two entries. -/
def separated : Bool → List Token → Read (List Token)
  | true, ts => .ok ts
  | false, .flowEntry :: rest => .ok rest
  | false, ts => refuse ts

mutual

/-- One node. Only block nodes may be block collections, and only where a mapping's part stands may a sequence be
written without indentation. -/
def read : Nat → Bool → Bool → Source → Read (Node × Source)
  | 0, _, _, _ => unreadable
  | fuel + 1, block, indentless, s => do
    match s.tokens with
    | .alias a :: rest =>
      match s.anchors.lookup a with
      | some node => .ok (node, { s with tokens := rest })
      | none => unreadable
    | _ =>
      let (p, s) ← s.takeProperties
      require (!(p.anchor.map fun a => (s.anchors.lookup a).isSome).getD false)
      let sequenceTag := collectionTag p.tag .sequence
      let mappingTag := collectionTag p.tag .mapping
      let finish (node : Node) (after : Source) : Node × Source :=
        (node, { after with depth := s.depth }.name p.anchor node)
      let enterSequence := s.enter p.anchor (.sequence sequenceTag [])
      let enterMapping := s.enter p.anchor (.mapping mappingTag [])
      match s.tokens with
      | .scalar content plain :: rest =>
        .ok (finish (.scalar (scalarTag p.tag content plain) content) { s with tokens := rest })
      | .flowSequenceStart :: rest =>
        let (items, after) ← readFlowItems fuel true (← enterSequence rest)
        .ok (finish (.sequence sequenceTag items) after)
      | .flowMappingStart :: rest =>
        let (entries, after) ← readFlowEntries fuel true (← enterMapping rest)
        .ok (finish (.mapping mappingTag entries) after)
      | ts =>
        match block, indentless, ts with
        | _, true, .blockEntry :: _ =>
          let (items, after) ← readIndentlessItems fuel (← enterSequence ts)
          .ok (finish (.sequence sequenceTag items) after)
        | true, _, .blockSequenceStart :: rest =>
          let (items, after) ← readBlockItems fuel (← enterSequence rest)
          .ok (finish (.sequence sequenceTag items) after)
        | true, _, .blockMappingStart :: rest =>
          let (entries, after) ← readBlockEntries fuel (← enterMapping rest)
          .ok (finish (.mapping mappingTag entries) after)
        | _, _, _ =>
          if p.anchor.isSome || p.tag.isSome then
            .ok (finish (.scalar (scalarTag p.tag "" p.tag.isNone) "") s)
          else refuse ts

def readBlockItems : Nat → Source → Read (List Node × Source)
  | 0, _ => unreadable
  | fuel + 1, s => do
    match s.tokens with
    | .blockEntry :: rest =>
      let s := { s with tokens := rest }
      let (item, s) ← if isEntryEnd rest then pure (absent, s) else read fuel true false s
      let (items, s) ← readBlockItems fuel s
      .ok (item :: items, s)
    | .blockEnd :: rest => .ok ([], { s with tokens := rest })
    | ts => refuse ts

/-- The items of a sequence that is not indented against its key. -/
def readIndentlessItems : Nat → Source → Read (List Node × Source)
  | 0, _ => unreadable
  | fuel + 1, s => do
    match s.tokens with
    | .blockEntry :: rest =>
      let s := { s with tokens := rest }
      let (item, s) ← if isIndentlessEnd rest then pure (absent, s) else read fuel true false s
      let (items, s) ← readIndentlessItems fuel s
      .ok (item :: items, s)
    | _ => .ok ([], s)

/-- The value of a block mapping's entry, which may be left out. -/
def readBlockValue : Nat → Source → Read (Node × Source)
  | 0, _ => unreadable
  | fuel + 1, s =>
    match s.tokens with
    | .value :: rest =>
      if isBlockPartEnd rest then .ok (absent, { s with tokens := rest })
      else read fuel true true { s with tokens := rest }
    | _ => .ok (absent, s)

def readBlockEntries : Nat → Source → Read (List (Node × Node) × Source)
  | 0, _ => unreadable
  | fuel + 1, s => do
    match s.tokens with
    | .key :: rest =>
      let s := { s with tokens := rest }
      let (key, s) ← if isBlockPartEnd rest then pure (absent, s) else read fuel true true s
      let (value, s) ← readBlockValue fuel s
      let (entries, s) ← readBlockEntries fuel s
      .ok ((key, value) :: entries, s)
    | .blockEnd :: rest => .ok ([], { s with tokens := rest })
    | ts => refuse ts

/-- The value of a flow entry, which may be left out. -/
def readFlowValue : Nat → Token → Source → Read (Node × Source)
  | 0, _, _ => unreadable
  | fuel + 1, close, s =>
    match s.tokens with
    | .value :: rest =>
      let s := { s with tokens := rest }
      match rest with
      | .flowEntry :: _ => .ok (absent, s)
      | t :: _ => if t = close then .ok (absent, s) else read fuel false false s
      | [] => unreadable
    | _ => .ok (absent, s)

/-- An entry of a flow collection after its key indicator. -/
def readFlowPair : Nat → Token → Source → Read ((Node × Node) × Source)
  | 0, _, _ => unreadable
  | fuel + 1, close, s => do
    let (key, s) ← if isFlowPartEnd close s.tokens then pure (absent, s) else read fuel false false s
    let (value, s) ← readFlowValue fuel close s
    .ok ((key, value), s)

/-- The items of a flow sequence; an item with a key is a mapping of one entry. -/
def readFlowItems : Nat → Bool → Source → Read (List Node × Source)
  | 0, _, _ => unreadable
  | fuel + 1, first, s => do
    match s.tokens with
    | .flowSequenceEnd :: rest => .ok ([], { s with tokens := rest })
    | ts =>
      let rest ← separated first ts
      let s := { s with tokens := rest }
      match rest with
      | .flowSequenceEnd :: rest => .ok ([], { s with tokens := rest })
      | .key :: rest =>
        let (entry, after) ← readFlowPair fuel .flowSequenceEnd (← s.enter none (.mapping .mapping []) rest)
        let (items, s) ← readFlowItems fuel false { after with depth := s.depth }
        .ok (.mapping .mapping [entry] :: items, s)
      | _ =>
        let (item, s) ← read fuel false false s
        let (items, s) ← readFlowItems fuel false s
        .ok (item :: items, s)

/-- The entries of a flow mapping; an item without a key indicator is a key without a value. -/
def readFlowEntries : Nat → Bool → Source → Read (List (Node × Node) × Source)
  | 0, _, _ => unreadable
  | fuel + 1, first, s => do
    match s.tokens with
    | .flowMappingEnd :: rest => .ok ([], { s with tokens := rest })
    | ts =>
      let rest ← separated first ts
      let s := { s with tokens := rest }
      match rest with
      | .flowMappingEnd :: rest => .ok ([], { s with tokens := rest })
      | .key :: rest =>
        let (entry, s) ← readFlowPair fuel .flowMappingEnd { s with tokens := rest }
        let (entries, s) ← readFlowEntries fuel false s
        .ok (entry :: entries, s)
      | _ =>
        let (key, s) ← read fuel false false s
        let (entries, s) ← readFlowEntries fuel false s
        .ok ((key, absent) :: entries, s)

end

/-- The directives before a document: at most one version, which has to be 1, and handles that differ. -/
def readDirectives : Bool → List (String × String) → List Token → Read (List (String × String) × List Token)
  | seen, handles, .directive d :: rest =>
    match d with
    | .version major => if seen || major ≠ 1 then unreadable else readDirectives true handles rest
    | .tag handle start =>
      if (handles.lookup handle).isSome then unreadable
      else readDirectives seen ((handle, start) :: handles) rest
    | .unknown => readDirectives seen handles rest
  | _, handles, ts => .ok (handles, ts)

def dropDocumentEnds : List Token → List Token
  | .documentEnd :: rest => dropDocumentEnds rest
  | ts => ts

/-- Whether a document that was marked has no content. -/
def isDocumentEnd : List Token → Bool
  | [] => true
  | .directive _ :: _ => true
  | .documentStart :: _ => true
  | .documentEnd :: _ => true
  | _ => false

/-- Nothing but document ends may follow the one document. -/
def requireEnd (ts : List Token) : Read Unit := do
  let ts := dropDocumentEnds ts
  if ts.isEmpty then .ok ()
  else do
    let (_, rest) ← readDirectives false [] ts
    refuse rest

def readMarked (ts : List Token) : Read Node := do
  let (handles, ts) ← readDirectives false [] (dropDocumentEnds ts)
  match ts with
  | .documentStart :: rest =>
    if isDocumentEnd rest then do
      requireEnd rest
      .ok absent
    else do
      let (node, s) ← read (4 * rest.length + 4) true false ⟨rest, [], handles ++ defaultHandles, 0⟩
      requireEnd s.tokens
      .ok node
  | ts => refuse ts

/-- The root of the one document among some tokens, if there is a document. -/
def ofTokens (ts : List Token) : Read (Option Node) :=
  match ts with
  | [] => .ok none
  | .directive _ :: _ => (readMarked ts).map some
  | .documentStart :: _ => (readMarked ts).map some
  | _ => do
    let (node, s) ← read (4 * ts.length + 4) true false ⟨ts, [], defaultHandles, 0⟩
    requireEnd s.tokens
    .ok (some node)

end Node

end SchemaChange.Yaml
