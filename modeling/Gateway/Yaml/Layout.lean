import Gateway.Yaml.Scalar.Block
import Gateway.Yaml.Scalar.Plain
import Gateway.Yaml.Scalar.Quoted
import Gateway.Yaml.Token

/-!
# From layout to tokens

`tokens?` reads a text as tokens.  Two things are not seen where they are written.

*Blocks.*  A block collection has the column of its first indicator or key.  The state holds the
columns of the open blocks, innermost first.  A token in a column further left ends the blocks
that do not reach so far.  Flow collections know no columns.

*Keys.*  A key in front of a colon looks like any other node, so its start is kept as a pending
key.  At the colon a `key` token goes in front of it, and if it opens a block mapping, a
`blockMapping` token too.  A pending key is given up at the end of its line and after 1024
characters.  A node that starts in the column of its block must be a key, and giving that up is an
error.  Each flow collection has a pending key of its own.

A pending key can start only where the state allows it.  In a block that is at the start of a line
and after the indicators `-`, `?` and `:`, but not after a node in the same line.
-/

namespace Gateway.Yaml

/-- The start of a node that may turn out to be a key. -/
structure PendingKey where
  /-- Where it starts. -/
  start : Position
  /-- Whether it must be a key. -/
  isRequired : Bool
  /-- The number of tokens in front of it. -/
  before : Nat
deriving DecidableEq, Repr

/-- What is known between two tokens. -/
structure Layout where
  place : Position
  /-- The text from there on. -/
  text : Text
  /-- The columns of the open blocks, innermost first. -/
  blocks : List Nat := []
  /-- The pending key of the innermost collection. -/
  key : Option PendingKey := none
  /-- The pending keys of the collections around the innermost flow collection. -/
  outer : List (Option PendingKey) := []
  /-- Whether a pending key may start here. -/
  allowsKey : Bool := true
  /-- The tokens so far, last first. -/
  tokens : List Token := []
  /-- The number of tokens so far. -/
  count : Nat := 0

namespace Layout

/-- Whether the place is in a flow collection. -/
def inFlow (s : Layout) : Bool := !s.outer.isEmpty

/-- The column that a node inside the innermost block reaches at least. -/
def margin (s : Layout) : Nat := s.blocks.head?.elim 0 (· + 1)

def emit (s : Layout) (token : Token) : Layout :=
  { s with tokens := token :: s.tokens, count := s.count + 1 }

/-- Add a token behind the first `n`. -/
def insert (s : Layout) (n : Nat) (token : Token) : Layout :=
  let later := s.count - n
  { s with
    tokens := s.tokens.take later ++ token :: s.tokens.drop later
    count := s.count + 1 }

/-- Go on behind `n` characters of the line. -/
def advance (s : Layout) (n : Nat) : Layout :=
  { s with place := s.place.skip n, text := s.text.drop n }

/-- Go on with a text that is a rest of the same line. -/
def resume (s : Layout) (rest : Text) : Layout :=
  { s with place := s.place.skip (s.text.length - rest.length), text := rest }

/-! ## Gaps between tokens -/

/-- Skip blanks, comments and line ends.  In a block, a tab may not stand where a key may start,
and a key may start after a line end. -/
def skipGap (inFlow inComment allowsKey : Bool) (p : Position) : Text → Bool × Position × Text
  | [] => (allowsKey, p, [])
  | c :: t =>
    if isBreak c then skipGap inFlow false (allowsKey || !inFlow) p.newline t
    else if inComment || c = ' ' || (c = '\t' && (inFlow || !allowsKey)) then
      skipGap inFlow inComment allowsKey p.next t
    else if c = '#' then skipGap inFlow true allowsKey p.next t
    else (allowsKey, p, c :: t)

/-- Go on with the next token. -/
def toToken (s : Layout) : Layout :=
  let (allowsKey, place, text) := skipGap s.inFlow false s.allowsKey s.place s.text
  { s with allowsKey, place, text }

/-! ## Blocks -/

/-- The blocks that reach a column, after those that do not. -/
def reaching (column : Nat) (blocks : List Nat) : List Nat := blocks.dropWhile (column < ·)

/-- End blocks, so that `blocks` stay open.  In a flow collection no block ends. -/
def endBlocks (s : Layout) (blocks : List Nat) : Layout :=
  if s.inFlow then s
  else
    let ended := s.blocks.length - blocks.length
    { s with
      blocks
      tokens := List.replicate ended .blockEnd ++ s.tokens
      count := s.count + ended }

/-- Start a block at a column, unless the innermost one is at least as far right.  Its token goes
behind the first `n`.  In a flow collection no block starts. -/
def startBlock (s : Layout) (column n : Nat) (token : Token) : Layout :=
  if s.inFlow || column < s.margin then s
  else { s.insert n token with blocks := column :: s.blocks }

/-! ## Pending keys -/

/-- Whether a key that starts at `p` cannot reach the place `here`. -/
def isPast (p here : Position) : Bool := p.line < here.line || p.column + 1024 < here.column

/-- A pending key, unless it is given up at a place. -/
def PendingKey.keep? (here : Position) (key : Option PendingKey) : Option (Option PendingKey) :=
  match key with
  | none => some none
  | some k =>
    if isPast k.start here then if k.isRequired then none else some none
    else some (some k)

/-- Give up the pending keys that cannot reach the place. -/
def dropPastKeys (s : Layout) : Option Layout := do
  return { s with
    key := ← PendingKey.keep? s.place s.key
    outer := ← s.outer.mapM (PendingKey.keep? s.place) }

/-- Give up the innermost pending key. -/
def dropKey (s : Layout) : Option Layout :=
  if s.key.any (·.isRequired) then none else some { s with key := none }

/-- Let a pending key start here, if it may. -/
def startKey (s : Layout) : Option Layout :=
  if !s.allowsKey then some s
  else
    s.dropKey.map fun s =>
      { s with
        key := some
          { start := s.place
            isRequired := !s.inFlow && s.blocks.head? == some s.place.column
            before := s.count } }

/-! ## Tokens -/

def directive (s : Layout) : Option Layout := do
  let s ← (s.endBlocks []).dropKey
  let (content, rest) ← Directive.read? (s.text.drop 1)
  return { (s.emit (.directive content)).resume rest with allowsKey := false }

/-- Read a mark that starts or ends a document. -/
def marker (s : Layout) (token : Token) : Option Layout := do
  let s ← (s.endBlocks []).dropKey
  return { (s.emit token).advance 3 with allowsKey := false }

/-- Read the start of a flow collection. -/
def openFlow (s : Layout) (token : Token) : Option Layout := do
  let s ← s.startKey
  return { (s.emit token).advance 1 with key := none, outer := s.key :: s.outer, allowsKey := true }

/-- Read the end of a flow collection. -/
def closeFlow (s : Layout) (token : Token) : Option Layout := do
  let s ← s.dropKey
  let s := { (s.emit token).advance 1 with allowsKey := false }
  match s.outer with
  | [] => return s
  | key :: outer => return { s with key, outer }

def comma (s : Layout) : Option Layout := do
  let s ← s.dropKey
  return { (s.emit .comma).advance 1 with allowsKey := true }

/-- Start a block here, unless it is open.  A key must be allowed here in a block. -/
def blockHere (s : Layout) (token : Token) : Option Layout :=
  if s.inFlow then some s
  else if s.allowsKey then some (s.startBlock s.place.column s.count token)
  else none

/-- Read the indicator of an item. -/
def item (s : Layout) : Option Layout := do
  let s ← (← s.blockHere .blockSequence).dropKey
  return { (s.emit .item).advance 1 with allowsKey := true }

/-- Read the indicator of a key. -/
def explicitKey (s : Layout) : Option Layout := do
  let s ← (← s.blockHere .blockMapping).dropKey
  return { (s.emit .key).advance 1 with allowsKey := !s.inFlow }

/-- Read the colon in front of a value. -/
def value (s : Layout) : Option Layout :=
  match s.key with
  | some k =>
    let s := (s.insert k.before .key).startBlock k.start.column k.before .blockMapping
    some { (s.emit .value).advance 1 with key := none, allowsKey := false }
  | none => do
    let s ← s.blockHere .blockMapping
    return { (s.emit .value).advance 1 with allowsKey := !s.inFlow }

/-- Read a name behind an indicator. -/
def name (s : Layout) (token : Text → Token) : Option Layout := do
  let s ← s.startKey
  let (name, rest) ← anchor? (s.text.drop 1)
  return { (s.emit (token name)).resume rest with allowsKey := false }

def tag (s : Layout) : Option Layout := do
  let s ← s.startKey
  let (written, rest) ← Tag.read? s.inFlow (s.text.drop 1)
  return { (s.emit (.tag written)).resume rest with allowsKey := false }

/-- Go on behind a scalar. -/
def scalar (s : Layout) (isPlain : Bool) (l : Lexeme Text) (allowsKey : Bool) : Layout :=
  { s.emit (.scalar isPlain l.value) with place := l.stop, text := l.rest, allowsKey }

/-- Read a block scalar. -/
def blockScalar (s : Layout) (folds : Bool) : Option Layout := do
  let s ← s.dropKey
  return s.scalar false (← Block.read folds s.margin s.place (s.text.drop 1)) true

def quoted (s : Layout) (quote : Char) : Option Layout := do
  let s ← s.startKey
  return s.scalar false (← Quoted.read quote s.place.next (s.text.drop 1)) false

def plain (s : Layout) : Option Layout := do
  let s ← s.startKey
  let l ← Plain.read { inFlow := s.inFlow, margin := s.margin } s.place s.text
  return s.scalar true { l with value := l.value.text } l.value.endsLine

/-- Whether a character that starts no other token may not start a plain scalar either. -/
def isReserved (c : Char) : Bool :=
  isBlank c || [',', '[', ']', '{', '}', '#', '&', '*', '!', '|', '>', '\'', '"', '%', '@',
    '\x60'].contains c

/-- Read the token that starts with the character `c`, which `t` follows. -/
def token (s : Layout) (c : Char) (t : Text) : Option Layout :=
  let startsLine := s.place.column = 0
  let isIndicator := s.inFlow || atGap t
  if startsLine ∧ c = '%' then s.directive
  else if startsLine ∧ isMarker '-' s.text then s.marker .documentStart
  else if startsLine ∧ isMarker '.' s.text then s.marker .documentEnd
  else if c = '[' then s.openFlow .flowSequence
  else if c = '{' then s.openFlow .flowMapping
  else if c = ']' then s.closeFlow .flowSequenceEnd
  else if c = '}' then s.closeFlow .flowMappingEnd
  else if c = ',' then s.comma
  else if c = '-' ∧ atGap t then s.item
  else if c = '?' ∧ isIndicator then s.explicitKey
  else if c = ':' ∧ isIndicator then s.value
  else if c = '*' then s.name .reference
  else if c = '&' then s.name .anchor
  else if c = '!' then s.tag
  else if (c = '|' ∨ c = '>') ∧ !s.inFlow then s.blockScalar (c = '>')
  else if c = '\'' ∨ c = '"' then s.quoted c
  else if isReserved c then none
  else s.plain

/-- Read all tokens, at most `fuel` many. -/
def run : Nat → Layout → Option (List Token)
  | 0, _ => none
  | fuel + 1, s => do
    let s ← s.toToken.dropPastKeys
    let s := s.endBlocks (reaching s.place.column s.blocks)
    match s.text with
    | [] => return (← (s.endBlocks []).dropKey).tokens.reverse
    | c :: t => run fuel (← s.token c t)

end Layout

/-- The tokens of a text.  There are no more of them than characters, those of the layout apart. -/
def tokens? (t : Text) : Option (List Token) := do
  let (place, text) ← prepare? t
  Layout.run (text.length + 1) { place, text }

/-! ## Tests -/

example : tokens? "a:\n  - b\n".toList = some [.blockMapping, .key, .scalar true ['a'], .value,
    .blockSequence, .item, .scalar true ['b'], .blockEnd, .blockEnd] := by decide
example : tokens? "\x7ba: 1".toList
    = some [.flowMapping, .key, .scalar true ['a'], .value, .scalar true ['1']] := by decide
example : tokens? "a: b: c".toList = none := by decide

end Gateway.Yaml
