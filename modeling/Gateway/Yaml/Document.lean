import Gateway.Yaml.Layout
import Gateway.Yaml.Node

/-!
# From tokens to a document

`Document.parse?` reads the only document of a stream.  It reads the tokens by recursive descent,
with one function for each kind of collection.

An item, a key or a value that is not written is an empty plain scalar.  In a block mapping the
items of a sequence may stand in the column of their key, and then no token of the layout starts
or ends that sequence.

`fuel` bounds the depth of the descent.  Two nested calls read at least one token.
-/

namespace Gateway.Yaml

/-- What is known between two nodes. -/
structure Progress where
  /-- The tokens that are left. -/
  tokens : List Token
  /-- What the handles of tags stand for. -/
  handles : List (Text × Bytes) := []
  /-- The anchors so far and their numbers, each name once. -/
  anchors : List (Text × Nat) := []

abbrev Reader := StateT Progress Option

namespace Reader

/-- The next token, which is left there. -/
def peek : Reader (Option Token) := return (← get).tokens.head?

/-- Pass over the next token. -/
def skip : Reader Unit := modify fun s => { s with tokens := s.tokens.drop 1 }

/-- Pass over a certain token. -/
def expect (token : Token) : Reader Unit := do
  if (← peek) = some token then skip else failure

/-- Whether one of the given tokens comes next. -/
def nextIn (tokens : List Token) : Reader Bool := return (← peek).any tokens.contains

/-! ## Marks -/

def setAnchor (name : Text) : Reader Nat := do
  let s ← get
  let number := s.anchors.length
  set { s with anchors := (name, number) :: s.anchors.filter (·.1 != name) }
  return number

def anchorOf (name : Text) : Reader Nat := do
  let some number := (← get).anchors.lookup name | failure
  return number

/-- The tag that a written tag stands for. -/
def resolve (t : ShortTag) : Reader Tag := do
  if t.handle = [] then return t.suffix
  let some front := (← get).handles.lookup t.handle | failure
  return front ++ t.suffix

/-- Read the marks on a node, an anchor and a tag in any order. -/
def marks : Reader Marks := do
  match ← peek with
  | some (.anchor name) =>
    skip
    match ← peek with
    | some (.tag t) =>
      skip
      let tag ← resolve t
      return { anchor := ← setAnchor name, tag := some tag }
    | _ => return { anchor := ← setAnchor name }
  | some (.tag t) =>
    skip
    match ← peek with
    | some (.anchor name) =>
      skip
      let tag ← resolve t
      return { anchor := ← setAnchor name, tag := some tag }
    | _ => return { tag := some (← resolve t) }
  | _ => return {}

/-- The marks that count on a written scalar.  The tag `!` says nothing about it. -/
def onScalar (m : Marks) : Marks :=
  if m.tag = some (Utf8.encode Tag.primary) then { m with tag := none } else m

/-! ## Nodes -/

/-- What may follow the indicator of a key or value in a block if no node does. -/
def afterBlockEntry : List Token := [.key, .value, .blockEnd]

/-- What may follow a key in a flow sequence if no node does. -/
def afterFlowItem : List Token := [.value, .comma, .flowSequenceEnd]

/-- What may follow a key in a flow mapping if no node does. -/
def afterFlowEntry : List Token := [.value, .comma, .flowMappingEnd]

def bare (m : Marks) : Reader Node :=
  if m = {} then failure else return .scalar m true []

mutual

/-- Read a node.  `inBlock` says whether it may be a block collection, and `atKey` whether it may
be a sequence in the column of its key. -/
def node (fuel : Nat) (inBlock atKey : Bool) : Reader Node :=
  match fuel with
  | 0 => failure
  | fuel + 1 => do
    if let some (.reference name) := ← peek then
      skip
      return .reference (← anchorOf name)
    let m ← marks
    match ← peek with
    | some (.scalar isPlain text) =>
      skip
      return .scalar (onScalar m) isPlain text
    | some .flowSequence =>
      skip
      return .collection .sequence m (← flowItems fuel true)
    | some .flowMapping =>
      skip
      return .collection .mapping m (← flowEntries fuel true)
    | some .item =>
      if atKey then return .collection .sequence m (← keyItems fuel) else bare m
    | some .blockSequence =>
      if inBlock then
        skip
        return .collection .sequence m (← blockItems fuel)
      else bare m
    | some .blockMapping =>
      if inBlock then
        skip
        return .collection .mapping m (← blockEntries fuel)
      else bare m
    | _ => bare m

/-- Read a node, unless one of the given tokens comes next. -/
def nodeUnless (fuel : Nat) (tokens : List Token) (inBlock atKey : Bool) : Reader Node :=
  match fuel with
  | 0 => failure
  | fuel + 1 => do
    if ← nextIn tokens then return .empty else node fuel inBlock atKey

def blockItems (fuel : Nat) : Reader (List Node) :=
  match fuel with
  | 0 => failure
  | fuel + 1 => do
    if ← nextIn [.blockEnd] then
      skip
      return []
    expect .item
    return (← nodeUnless fuel [.item, .blockEnd] true false) :: (← blockItems fuel)

/-- Read the items of a sequence in the column of its key. -/
def keyItems (fuel : Nat) : Reader (List Node) :=
  match fuel with
  | 0 => failure
  | fuel + 1 => do
    if !(← nextIn [.item]) then return []
    skip
    return (← nodeUnless fuel (.item :: afterBlockEntry) true false) :: (← keyItems fuel)

/-- Read the keys and values of a block mapping. -/
def blockEntries (fuel : Nat) : Reader (List Node) :=
  match fuel with
  | 0 => failure
  | fuel + 1 => do
    if ← nextIn [.blockEnd] then
      skip
      return []
    expect .key
    let key ← nodeUnless fuel afterBlockEntry true true
    let value ← entryValue fuel afterBlockEntry true
    return key :: value :: (← blockEntries fuel)

/-- Read the value behind a key, which may be absent. -/
def entryValue (fuel : Nat) (tokens : List Token) (inBlock : Bool) : Reader Node :=
  match fuel with
  | 0 => failure
  | fuel + 1 => do
    if ← nextIn [.value] then
      skip
      nodeUnless fuel tokens inBlock inBlock
    else return .empty

/-- Read the items of a flow sequence.  A key in it starts a mapping with one entry. -/
def flowItems (fuel : Nat) (isFirst : Bool) : Reader (List Node) :=
  match fuel with
  | 0 => failure
  | fuel + 1 => do
    if !isFirst && !(← nextIn [.flowSequenceEnd]) then expect .comma
    if ← nextIn [.flowSequenceEnd] then
      skip
      return []
    let item ← if ← nextIn [.key] then flowPair fuel else node fuel false false
    return item :: (← flowItems fuel false)

/-- Read a mapping with one entry.  What stands in place of its key is passed over. -/
def flowPair (fuel : Nat) : Reader Node :=
  match fuel with
  | 0 => failure
  | fuel + 1 => do
    skip
    let isKeyless ← nextIn afterFlowItem
    let key ← nodeUnless fuel afterFlowItem false false
    if isKeyless then skip
    let value ← entryValue fuel [.comma, .flowSequenceEnd] false
    return .collection .mapping {} [key, value]

/-- Read the keys and values of a flow mapping. -/
def flowEntries (fuel : Nat) (isFirst : Bool) : Reader (List Node) :=
  match fuel with
  | 0 => failure
  | fuel + 1 => do
    if !isFirst && !(← nextIn [.flowMappingEnd]) then expect .comma
    if ← nextIn [.flowMappingEnd] then
      skip
      return []
    if ← nextIn [.key] then
      skip
      let key ← nodeUnless fuel afterFlowEntry false false
      let value ← entryValue fuel [.comma, .flowMappingEnd] false
      return key :: value :: (← flowEntries fuel false)
    else
      let key ← node fuel false false
      return key :: .empty :: (← flowEntries fuel false)

end

/-! ## Documents -/

/-- The handles that need no directive. -/
def defaultHandles : List (Text × Bytes) :=
  [(Tag.primary, Utf8.encode Tag.primary), (['!', '!'], Utf8.encode "tag:yaml.org,2002:".toList)]

def isReadableVersion (major minor : Nat) : Bool := major = 1 && (minor = 1 || minor = 2)

/-- Read what directives say about handles.  There may be one version, which has to be readable, and
one directive for each handle. -/
def directives (hasVersion : Bool) (handles : List (Text × Bytes)) :
    List Directive → Option (List (Text × Bytes))
  | [] => some (handles ++ defaultHandles)
  | .version major minor :: rest =>
    if hasVersion || !isReadableVersion major minor then none else directives true handles rest
  | .handle name front :: rest =>
    if (handles.lookup name).isSome then none
    else directives hasVersion ((name, front) :: handles) rest

def directive? : Token → Option Directive
  | .directive d => some d
  | _ => none

def endsContent : Option Token → Bool
  | none | some (.directive _) | some .documentStart | some .documentEnd => true
  | _ => false

/-- Read the root of a document behind its directives and its mark. -/
def root (fuel : Nat) : Reader Node := do
  let s ← get
  let front := s.tokens.takeWhile fun t => (directive? t).isSome
  let some handles := directives false [] (front.filterMap directive?) | failure
  set { s with tokens := s.tokens.drop front.length, handles }
  if front = [] && (← peek) != some .documentStart then node fuel true false
  else
    expect .documentStart
    if endsContent (← peek) then return .empty else node fuel true false

end Reader

/-- The document of a stream of tokens, in which nothing else may stand. -/
def Document.ofTokens? (tokens : List Token) : Option Document :=
  if tokens = [] then some { root := none }
  else do
    let (root, s) ← (Reader.root (4 * tokens.length + 4)).run { tokens }
    if s.tokens.all (· == .documentEnd) then return { root := some root } else none

def Document.parse? (t : Text) : Option Document := tokens? t >>= Document.ofTokens?

end Gateway.Yaml
