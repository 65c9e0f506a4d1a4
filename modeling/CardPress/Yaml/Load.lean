import CardPress.Host
import CardPress.Text.Case
import CardPress.Yaml.Base64
import CardPress.Yaml.Node

/-!
# Loading values

What a node stands for follows from its tag.  Scalars are read when they are met; collections are
filled level by level, so that of several faults the one is reported that is met first in this
order.  In the end the nodes are unfolded into a value, in which a collection that stands inside
itself is a mark.
-/

namespace CardPress
namespace Yaml

/-! ## Scalars -/

/-- A code point as it counts in a number: a half of a pair is no digit, no sign and no blank, like
the character that replaces it. -/
def numberMark : CodePoint → Char
  | .char c => c
  | .lone _ => '\uFFFD'

/-- An integer in a base, with its digits limited in base ten. -/
def readInteger (base : Nat) (points : List CodePoint) : Except Failure Int :=
  let chars := points.map numberMark
  let digits := (Decimal.splitSign (Text.trim chars)).2.takeWhile fun c =>
    (Text.digitValue? c).isSome
  if base = 10 ∧ digitLimit < digits.length then .error (.tooManyDigits digits.length)
  else
    match Decimal.integer? base chars with
    | some value => .ok value
    | none => .error (.integer base ⟨points⟩)

/-- A decimal number. -/
def readReal (points : List CodePoint) : Except Failure Binary64 :=
  match Decimal.real? (points.map numberMark) with
  | some value => .ok value
  | none => .error (.real ⟨points⟩)

/-- A scalar without underscores, split into whether a minus stands in front and the rest. -/
def signed (points : List CodePoint) : Except Failure (Bool × List CodePoint) :=
  match points.filter (· != .char '_') with
  | [] => .error .emptyNumber
  | .char '-' :: rest => .ok (true, rest)
  | .char '+' :: rest => .ok (false, rest)
  | points => .ok (false, points)

/-- The integer that a scalar stands for, in the base that its first characters name. -/
def integerOf (text : CodeText) : Except Failure Int := do
  let (negative, points) ← signed text.points
  let magnitude ←
    match points with
    | [] => throw .emptyNumber
    | [.char '0'] => pure 0
    | .char '0' :: .char 'b' :: rest => readInteger 2 rest
    | .char '0' :: .char 'x' :: rest => readInteger 16 rest
    | .char '0' :: _ => readInteger 8 points
    | _ =>
        if points.contains (.char ':') then do
          let parts ← (points.splitOn (.char ':')).mapM (readInteger 10)
          pure (parts.foldl (fun total part => total * 60 + part) 0)
        else
          readInteger 10 points
  return if negative then -magnitude else magnitude

/-- The sum of numbers in base sixty, from the last place to the first, where `place` is the value
of the last one; a place out of range has no value. -/
def sexagesimal (total : Binary64) (place : Int) : List Binary64 → Except Failure Binary64
  | [] => .ok total
  | part :: parts =>
      match Binary64.ofInt place with
      | .infinite _ => .error .tooManyPlaces
      | factor => sexagesimal (total.add (part.mul factor)) (place * 60) parts

/-- Code points in lower case. -/
def lowerPoints (points : List CodePoint) : List CodePoint :=
  points.flatMap fun point =>
    match point with
    | .char c => (Text.lowerChar c).map .char
    | .lone half => [.lone half]

/-- The number that a scalar stands for. -/
def realOf (text : CodeText) : Except Failure Binary64 := do
  let (negative, points) ← signed (lowerPoints text.points)
  let magnitude ←
    if points = (".inf" : CodeText).points then pure (.infinite false)
    else if points = (".nan" : CodeText).points then return .nan
    else if points.contains (.char ':') then do
      let parts ← (points.splitOn (.char ':')).mapM readReal
      sexagesimal .zero 1 parts.reverse
    else
      readReal points
  return if negative then magnitude.neg else magnitude

/-- The truth value that a scalar stands for; case does not matter. -/
def truthOf (text : CodeText) : Except Failure Bool :=
  let word := (CodeText.mk (lowerPoints text.points)).string?
  if word = some "yes" ∨ word = some "true" ∨ word = some "on" then .ok true
  else if word = some "no" ∨ word = some "false" ∨ word = some "off" then .ok false
  else .error .truthValue

/-- The number written by decimal digits. -/
def natOf (digits : List Char) : Nat :=
  (Decimal.natural? 10 digits).getD 0

/-- The offset of a moment in seconds. -/
def offsetOf (parts : Shape.Written) : Option Int :=
  match parts.offset with
  | some (sign, hours, minutes) =>
      let seconds : Int := (natOf hours * 60 + natOf minutes) * 60
      some (if sign = '-' then -seconds else seconds)
  | none => if parts.universal then some 0 else none

/-- The day or the moment that a scalar stands for; fractions of a second have six digits. -/
def momentOf (text : CodeText) : Except Failure Value := do
  match text.string?.bind fun text => Shape.written? (withoutLineFeed text.toList) with
  | none => throw .moment
  | some parts =>
      let date : Day :=
        { year := natOf parts.year
          month := natOf parts.month
          day := natOf parts.day }
      match parts.time with
      | none =>
          match date.check with
          | .ok _ => return .day date
          | .error fault => throw (.calendar fault)
      | some (hour, minute, second, fraction) =>
          let digits := fraction.take 6
          let moment : Moment :=
            { date
              hour := natOf hour
              minute := natOf minute
              second := natOf second
              microsecond := natOf (digits ++ List.replicate (6 - digits.length) '0')
              offset := offsetOf parts }
          match moment.check with
          | .ok _ => return .moment moment
          | .error fault => throw (.calendar fault)

/-- The bytes that a scalar stands for. -/
def bytesOf (text : CodeText) : Except Failure (List Nat) :=
  match text.string? with
  | none => .error .malformed
  | some text =>
      if text.toList.all fun c => c.toNat < 128 then
        match Base64.decode? text.toList with
        | some bytes => .ok bytes
        | none => .error .malformed
      else
        .error .malformed

/-- The types whose values are scalars. -/
inductive ScalarType where
  | null
  | bool
  | integer
  | real
  | binary
  | moment
  | text
  deriving DecidableEq, Repr

/-- The scalar type with a given tag. -/
def scalarType? (tag : String) : Option ScalarType :=
  [("null", ScalarType.null), ("bool", .bool), ("int", .integer), ("float", .real),
    ("binary", .binary), ("timestamp", .moment), ("str", .text)].lookup
    (String.ofList (tag.toList.drop "tag:yaml.org,2002:".length)) |>.filter fun _ =>
      (coreTag "").toList.isPrefixOf tag.toList

/-- The value of a scalar of a given type. -/
def scalarValue (type : ScalarType) (text : CodeText) : Except Failure Value :=
  match type with
  | .null => .ok .null
  | .bool => (truthOf text).map .bool
  | .integer => (integerOf text).map .integer
  | .real => (realOf text).map .real
  | .binary => (bytesOf text).map .binary
  | .moment => momentOf text
  | .text => .ok (.text text)

/-! ## Collections -/

/-- The tag of a node. -/
def Node.tag : Node → String
  | scalar tag _ => tag
  | sequence tag _ => tag
  | mapping tag _ => tag

/-- What a node stands for, with the numbers of the nodes in it. -/
inductive Content where
  | value (value : Value)
  | list (items : List Nat)
  | pairs (entries : List (Nat × Nat))
  | mapping (entries : List (Value × Nat))
  | set (items : List Value)
  deriving Repr, Inhabited

/-- The state of finding out what nodes stand for. -/
structure Loading where
  nodes : Array Node
  /-- What is known of the nodes that have been met. -/
  contents : List (Nat × Content) := []
  /-- The collections that have been met and are still to be filled. -/
  waiting : List Nat := []

/-- A step of finding out what nodes stand for. -/
abbrev Load (α : Type) : Type :=
  StateT Loading (Except Failure) α

namespace Load

/-- The node with a number. -/
def node (number : Nat) : Load Node := do
  return (← get).nodes.getD number default

/-- Change a node. -/
def setNode (number : Nat) (node : Node) : Load Unit :=
  modify fun loading => { loading with nodes := loading.nodes.setIfInBounds number node }

/-- Whether a node has a core tag. -/
def hasTag (name : String) (number : Nat) : Load Bool := do
  return (← node number).tag == coreTag name

/-- Note what a node stands for. -/
def note (number : Nat) (content : Content) : Load Unit :=
  modify fun loading => { loading with contents := (number, content) :: loading.contents }

/-- The text of a node that has to be a scalar; a mapping may stand for the value at its `=`.  Who
has gone through more nodes than there are has come back to one. -/
def scalarText : Nat → Nat → Load CodeText
  | 0, _ => throw .endless
  | fuel + 1, number => do
      match ← node number with
      | .scalar _ text => return text
      | .sequence _ _ => throw .malformed
      | .mapping _ entries =>
          match ← entries.findM? fun entry => hasTag "value" entry.1 with
          | some (_, value) => scalarText fuel value
          | none => throw .malformed

/-- The tags of collections. -/
def collectionTags : List String :=
  [coreTag "seq", coreTag "map", coreTag "set", coreTag "omap", coreTag "pairs"]

/-- Meet a node for the first time: read it when it is a scalar, and keep it for later when it is a
collection. -/
def meetNew (number : Nat) : Load Unit := do
  let found ← node number
  match scalarType? found.tag with
  | some type =>
      let text ← scalarText ((← get).nodes.size + 1) number
      match type, found with
      | .moment, .mapping _ _ => throw .mappedMoment
      | _, _ => note number (.value (← scalarValue type text))
  | none =>
      if !collectionTags.contains found.tag then throw .malformed
      note number (.list [])
      modify fun loading => { loading with waiting := loading.waiting ++ [number] }

/-- Meet a node. -/
def meet (number : Nat) : Load Unit := do
  if ((← get).contents.lookup number).isNone then meetNew number

/-- Meet the key of an entry, which may not be a collection. -/
def meetKey (number : Nat) : Load Value := do
  meet number
  match (← get).contents.lookup number with
  | some (.value value) => return value
  | _ => throw .malformed

/-- The entries of a node that has to be a mapping. -/
def entriesOf (number : Nat) : Load (List (Nat × Nat)) := do
  match ← node number with
  | .mapping _ entries => return entries
  | _ => throw .malformed

/-- A key that is written as `=` counts as a text. -/
def settleKey (number : Nat) : Load Unit := do
  match ← node number with
  | .scalar tag text =>
      if tag = coreTag "value" then setNode number (.scalar (coreTag "str") text)
  | _ => return

/-- Put the entries of the mappings at the merge keys of a mapping in front of its own.  A merge key
is taken away before what stands at it is flattened, so that there is one less with every step. -/
def flatten : Nat → List (Nat × Nat) → Nat → Load (List (Nat × Nat))
  | 0, _, _ => throw .malformed
  | fuel + 1, merged, number => do
      let entries ← entriesOf number
      let tag := (← node number).tag
      match ← entries.findM? fun entry => hasTag "merge" entry.1 with
      | none =>
          entries.forM fun entry => settleKey entry.1
          setNode number (.mapping tag (merged ++ entries))
          return merged ++ entries
      | some (key, value) =>
          setNode number (.mapping tag (entries.erase (key, value)))
          match ← node value with
          | .scalar _ _ => throw .malformed
          | .mapping _ _ => flatten fuel (merged ++ (← flatten fuel [] value)) number
          | .sequence _ items =>
              let found ← items.mapM fun item => flatten fuel [] item
              flatten fuel (merged ++ found.reverse.flatten) number

/-- The single entry of a pair in an ordered mapping. -/
def pairOf (number : Nat) : Load (Nat × Nat) := do
  match ← entriesOf number with
  | [entry] => return entry
  | _ => throw .malformed

/-- Meet the nodes of an entry in order. -/
def meetEntry (entry : Nat × Nat) : Load (Value × Nat) := do
  let key ← meetKey entry.1
  meet entry.2
  return (key, entry.2)

/-- The entries of a collection that has to be a mapping, flattened, where later ones win. -/
def fillEntries (number : Nat) : Load (List (Value × Nat)) := do
  let merges := (← get).nodes.foldl (fun count node =>
    match node with
    | .mapping _ entries => count + entries.length
    | _ => count) 1
  let entries ← flatten merges [] number
  return Value.ofEntries (← entries.mapM meetEntry)

/-- Fill a collection: look at its children in order. -/
def fill (host : Host) (number : Nat) : Load Unit := do
  let found ← node number
  match found with
  | .scalar _ _ => throw .malformed
  | .sequence tag items =>
      if tag = coreTag "seq" then
        items.forM meet
        note number (.list items)
      else if tag = coreTag "omap" ∨ tag = coreTag "pairs" then
        let entries ← items.mapM fun item => do
          let entry ← pairOf item
          meet entry.1
          meet entry.2
          return entry
        note number (.pairs entries)
      else
        throw .malformed
  | .mapping tag _ =>
      if tag = coreTag "map" then
        note number (.mapping (← fillEntries number))
      else if tag = coreTag "set" then
        note number (.set (host.arrange ((← fillEntries number).map (·.1))))
      else
        throw .malformed

/-- Fill collections level by level, down to a depth. -/
def fillLevels (host : Host) : Nat → Load Unit
  | 0 => pure ()
  | depth + 1 => do
      let level := (← get).waiting
      if level.isEmpty then return
      modify fun loading => { loading with waiting := [] }
      level.forM (fill host)
      fillLevels host depth

end Load

/-- The value that a node stands for, where `path` lists the nodes around it; the fuel bounds the
depth. -/
def Value.unfold (contents : List (Nat × Content)) : Nat → List Nat → Nat → Value
  | 0, _, _ => .null
  | fuel + 1, path, number =>
      let inner : Nat → Value := unfold contents fuel (number :: path)
      let isInside := path.contains number
      match contents.lookup number with
      | some (.value value) => value
      | some (.list items) => if isInside then .cycle false else .list (items.map inner)
      | some (.pairs entries) =>
          if isInside then .cycle false
          else .pairs (entries.map fun (key, value) => (inner key, inner value))
      | some (.mapping entries) =>
          if isInside then .cycle true
          else .mapping (entries.map fun (key, value) => (key, inner value))
      | some (.set items) => .set items
      | none => .null

/-- The value that a document denotes.  In a mapping each entry is unfolded on its own. -/
def Graph.value (host : Host) (graph : Graph) : Except Failure Value := do
  let depth := graph.nodes.size + 1
  let body : Load Unit := do
    Load.meet graph.root
    Load.fillLevels host depth
  let (_, loading) ← body.run { nodes := graph.nodes }
  let unfold := Value.unfold loading.contents depth []
  match loading.contents.lookup graph.root with
  | some (.mapping entries) =>
      return .mapping (entries.map fun (key, value) => (key, unfold value))
  | _ => return unfold graph.root

/-- The value that a text denotes; an empty text denotes null. -/
def load (host : Host) (text : String) : Except Failure Value := do
  match ← Graph.ofTokens? (Token.scan text) with
  | some graph => graph.value host
  | none => return .null

end Yaml
end CardPress
