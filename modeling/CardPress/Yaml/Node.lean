import CardPress.Yaml.Resolve
import CardPress.Yaml.Token

/-!
# YAML nodes

The nodes that a list of tokens stands for.  They are numbered, and name each other by number, so
that an alias is the number of the node that it names, even inside that node.  A text holds at most
one document.  The fuel of the reader bounds the number of its steps, and a multiple of the number
of tokens suffices.
-/

namespace CardPress
namespace Yaml

/-- A node of a document, with the numbers of its children. -/
inductive Node where
  | scalar (tag : String) (text : CodeText)
  | sequence (tag : String) (items : List Nat)
  | mapping (tag : String) (entries : List (Nat × Nat))
  deriving Repr, Inhabited

/-- The nodes of a document by number, one of which holds all others. -/
structure Graph where
  nodes : Array Node
  root : Nat
  deriving Repr, Inhabited

/-- What is left to be read, and what has been read and named. -/
structure Reader where
  tokens : List Token
  nodes : Array Node := #[]
  anchors : List (String × Nat) := []
  /-- What the handles of tags stand for. -/
  handles : List (String × String)
  deriving Inhabited

/-- A step of reading, which fails on the first token that does not fit. -/
abbrev Read (α : Type) : Type :=
  StateT Reader (Except Failure) α

namespace Read

/-- The next token; past the last one stands the end of the text. -/
def peek : Read Token := do
  match (← get).tokens with
  | [] => return .streamEnd
  | .unreadable failure :: _ => throw failure
  | token :: _ => return token

/-- Drop the next token. -/
def drop : Read Unit :=
  modify fun reader => { reader with tokens := reader.tokens.tail }

/-- Refuse the text. -/
def fail {α : Type} : Read α :=
  throw .malformed

/-- Drop a token that has to come next. -/
def expect (token : Token) : Read Unit := do
  if (← peek) = token then drop else fail

/-- Drop a token when it comes next, and say whether it did. -/
def accept (token : Token) : Read Bool := do
  if (← peek) = token then
    drop
    return true
  else
    return false

/-- A tag with its handle replaced. -/
def expandTag (handle : Option String) (suffix : String) : Read String := do
  match handle with
  | none => return suffix
  | some handle =>
      match (← get).handles.lookup handle with
      | some replacement => return replacement ++ suffix
      | none => fail

/-- The anchor and the tag in front of a node, in either order. -/
def properties : Read (Option String × Option String) := do
  match ← peek with
  | .anchor name =>
      drop
      match ← peek with
      | .tag handle suffix =>
          drop
          return (some name, some (← expandTag handle suffix))
      | _ => return (some name, none)
  | .tag handle suffix =>
      drop
      match ← peek with
      | .anchor name =>
          drop
          return (some name, some (← expandTag handle suffix))
      | _ => return (none, some (← expandTag handle suffix))
  | _ => return (none, none)

/-- Take in a node, and give its number. -/
def add (node : Node) : Read Nat :=
  modifyGet fun reader => (reader.nodes.size, { reader with nodes := reader.nodes.push node })

/-- Name a node, where there is an anchor. -/
def bindAnchor (name : Option String) (number : Nat) : Read Unit :=
  match name with
  | some name => modify fun reader => { reader with anchors := (name, number) :: reader.anchors }
  | none => pure ()

/-- Take in a scalar. -/
def scalar (name : Option String) (tag : String) (text : CodeText) : Read Nat := do
  let number ← add (.scalar tag text)
  bindAnchor name number
  return number

/-- Read a collection, which its own anchor names already while it is being read. -/
def collection (name : Option String) (body : Read Node) : Read Nat := do
  let number ← add default
  bindAnchor name number
  let node ← body
  modify fun reader => { reader with nodes := reader.nodes.setIfInBounds number node }
  return number

/-- The node that an alias names. -/
def dereference (name : String) : Read Nat := do
  match (← get).anchors.lookup name with
  | some number => return number
  | none => fail

/-- A scalar that is not written at all. -/
def emptyScalar : Read Nat :=
  scalar none (coreTag "null") ""

end Read

/-- The tag of a collection: the one that is written, unless it leaves the choice open. -/
def collectionTag (written : Option String) (usual : String) : String :=
  match written with
  | some tag => if tag = "!" then coreTag usual else tag
  | none => coreTag usual

/-- The tag of a scalar: an open choice is resolved from the text, as for plain scalars. -/
def scalarTag (written : Option String) (isPlain : Bool) (text : CodeText) : String :=
  match written with
  | some tag => if tag = "!" then resolveTag text else tag
  | none => if isPlain then resolveTag text else coreTag "str"

mutual

/-- One node.  Inside brackets it cannot be a block collection, and only the value or the key of a
mapping can be a sequence without an indent of its own. -/
def readNode : Nat → Bool → Bool → Read Nat
  | 0, _, _ => Read.fail
  | fuel + 1, block, indentless => do
      match ← Read.peek with
      | .alias name =>
          Read.drop
          Read.dereference name
      | _ =>
          let (anchor, tag) ← Read.properties
          -- What stands behind an anchor is looked at before the anchor itself.
          let token ← Read.peek
          match anchor with
          | some name => if ((← get).anchors.lookup name).isSome then Read.fail
          | none => pure ()
          match token, block, indentless with
          | .scalar text isPlain, _, _ =>
              Read.drop
              Read.scalar anchor (scalarTag tag isPlain text) text
          | .blockEntry, _, true =>
              Read.collection anchor do
                return .sequence (collectionTag tag "seq") (← readIndentless fuel)
          | .flowSequenceStart, _, _ =>
              Read.drop
              Read.collection anchor do
                return .sequence (collectionTag tag "seq") (← readFlowItems fuel true)
          | .flowMappingStart, _, _ =>
              Read.drop
              Read.collection anchor do
                return .mapping (collectionTag tag "map") (← readFlowEntries fuel true)
          | .blockSequenceStart, true, _ =>
              Read.drop
              Read.collection anchor do
                return .sequence (collectionTag tag "seq") (← readBlockItems fuel)
          | .blockMappingStart, true, _ =>
              Read.drop
              Read.collection anchor do
                return .mapping (collectionTag tag "map") (← readBlockEntries fuel)
          | _, _, _ =>
              if anchor.isSome || tag.isSome then
                Read.scalar anchor (scalarTag tag true "") ""
              else
                Read.fail

/-- A node, or an empty scalar when one of the given tokens comes next. -/
def readUnless : Nat → List Token → Bool → Bool → Read Nat
  | 0, _, _, _ => Read.fail
  | fuel + 1, stops, block, indentless => do
      if stops.contains (← Read.peek) then Read.emptyScalar
      else readNode fuel block indentless

/-- The items of a block sequence. -/
def readBlockItems : Nat → Read (List Nat)
  | 0 => Read.fail
  | fuel + 1 => do
      if ← Read.accept .blockEntry then
        let item ← readUnless fuel [.blockEntry, .blockEnd] true false
        return item :: (← readBlockItems fuel)
      else
        Read.expect .blockEnd
        return []

/-- The items of a sequence that stands at the indent of its mapping. -/
def readIndentless : Nat → Read (List Nat)
  | 0 => Read.fail
  | fuel + 1 => do
      if ← Read.accept .blockEntry then
        let item ← readUnless fuel [.blockEntry, .key, .value, .blockEnd] true false
        return item :: (← readIndentless fuel)
      else
        return []

/-- The value behind a key of a mapping, which is empty without a colon. -/
def readValue : Nat → List Token → Bool → Read Nat
  | 0, _, _ => Read.fail
  | fuel + 1, stops, block => do
      if ← Read.accept .value then readUnless fuel stops block block else Read.emptyScalar

/-- The entries of a block mapping. -/
def readBlockEntries : Nat → Read (List (Nat × Nat))
  | 0 => Read.fail
  | fuel + 1 => do
      if ← Read.accept .key then
        let stops := [Token.key, .value, .blockEnd]
        let key ← readUnless fuel stops true true
        let value ← readValue fuel stops true
        return (key, value) :: (← readBlockEntries fuel)
      else
        Read.expect .blockEnd
        return []

/-- The items of a bracketed sequence; a lone pair counts as a mapping of one entry. -/
def readFlowItems : Nat → Bool → Read (List Nat)
  | 0, _ => Read.fail
  | fuel + 1, first => do
      if ← Read.accept .flowSequenceEnd then return []
      if !first then Read.expect .flowEntry
      match ← Read.peek with
      | .key =>
          Read.drop
          let key ← readUnless fuel [.value, .flowEntry, .flowSequenceEnd] false false
          let value ← readValue fuel [.flowEntry, .flowSequenceEnd] false
          let item ← Read.add (.mapping (coreTag "map") [(key, value)])
          return item :: (← readFlowItems fuel false)
      | .flowSequenceEnd =>
          Read.drop
          return []
      | _ =>
          let item ← readNode fuel false false
          return item :: (← readFlowItems fuel false)

/-- The entries of a bracketed mapping; a node without a mark is a key without a value. -/
def readFlowEntries : Nat → Bool → Read (List (Nat × Nat))
  | 0, _ => Read.fail
  | fuel + 1, first => do
      if ← Read.accept .flowMappingEnd then return []
      if !first then Read.expect .flowEntry
      match ← Read.peek with
      | .key =>
          Read.drop
          let key ← readUnless fuel [.value, .flowEntry, .flowMappingEnd] false false
          let value ← readValue fuel [.flowEntry, .flowMappingEnd] false
          return (key, value) :: (← readFlowEntries fuel false)
      | .flowMappingEnd =>
          Read.drop
          return []
      | _ =>
          let key ← readNode fuel false false
          let value ← Read.emptyScalar
          return (key, value) :: (← readFlowEntries fuel false)

end

/-- The handles that need no directive. -/
def usualHandles : List (String × String) :=
  [("!", "!"), ("!!", "tag:yaml.org,2002:")]

/-- The directives in front of a document, where each may come once. -/
def readDirectives : Nat → Bool → List (String × String) → Read (List (String × String))
  | 0, _, _ => Read.fail
  | fuel + 1, versioned, handles => do
      match ← Read.peek with
      | .version major _ =>
          Read.drop
          if versioned || major ≠ 1 then Read.fail
          readDirectives fuel true handles
      | .tagHandle handle replacement =>
          Read.drop
          if (handles.lookup handle).isSome then Read.fail
          readDirectives fuel versioned ((handle, replacement) :: handles)
      | .reserved =>
          Read.drop
          readDirectives fuel versioned handles
      | _ => return handles

/-- Drop the marks at the end of a document. -/
def dropDocumentEnds : Nat → Read Unit
  | 0 => pure ()
  | fuel + 1 => do
      if ← Read.accept .documentEnd then dropDocumentEnds fuel

/-- The content of a document behind its start mark. -/
def readContent (fuel : Nat) : Read Nat := do
  match ← Read.peek with
  | .documentStart => Read.emptyScalar
  | .documentEnd => Read.emptyScalar
  | .streamEnd => Read.emptyScalar
  | .version _ _ => Read.emptyScalar
  | .tagHandle _ _ => Read.emptyScalar
  | .reserved => Read.emptyScalar
  | _ => readNode fuel true false

/-- The directives and the start mark of a document. -/
def readStart (fuel : Nat) : Read Unit := do
  let handles ← readDirectives fuel false []
  modify fun reader => { reader with handles := handles ++ usualHandles }
  Read.expect .documentStart

/-- The first document of a text, unless there is none. -/
def readDocument (fuel : Nat) : Read (Option Nat) := do
  let explicit :=
    match ← Read.peek with
    | .documentStart => true
    | .version _ _ => true
    | .tagHandle _ _ => true
    | .reserved => true
    | _ => false
  if explicit then
    readStart fuel
    return some (← readContent fuel)
  else if (← Read.peek) = .streamEnd then
    return none
  else
    return some (← readNode fuel true false)

/-- The end of a text behind its document, where a second one may not start. -/
def readEnd (fuel : Nat) : Read Unit := do
  dropDocumentEnds fuel
  if (← Read.peek) ≠ .streamEnd then
    readStart fuel
    Read.fail

/-- The only document of a list of tokens, unless there is none. -/
def Graph.ofTokens? (tokens : List Token) : Except Failure (Option Graph) := do
  let fuel := 4 * tokens.length + 8
  let body : Read (Option Graph) := do
    match ← readDocument fuel with
    | none => return none
    | some root =>
        readEnd fuel
        return some { nodes := (← get).nodes, root }
  body.run' { tokens, handles := usualHandles }

end Yaml
end CardPress
