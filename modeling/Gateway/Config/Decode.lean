import Gateway.Config.Basic
import Gateway.Yaml.Document

/-!
# Configurations in YAML

A configuration file is a mapping of mappings, and each key that is absent leaves its default.
Unknown keys do not matter, but a known key may stand there only once.  Where a mapping or a
sequence is wanted, an empty plain scalar is an empty one.

A text is any scalar, as it is written.  A number is a plain scalar, in decimal without leading
zeros or with a radix in front.  A name is absent if it is an empty plain scalar or a plain null.
A policy is the text of its name, or a null that has the name as its tag.

References are followed.  To keep that work in proportion, a document may be referred back to at
most a hundred times its size.
-/

namespace Gateway.Config

open Yaml (Document Kind Marks Node Tag)

/-- A reader of a document, which counts the references it may still follow. -/
abbrev Decoder := ReaderT Document (StateT Nat Option)

namespace Decoder

/-! ## Nodes -/

/-- The node that a node stands for. -/
def follow : Node → Decoder Node
  | .reference number => do
    let some target := (← read).target? number | failure
    match ← get with
    | 0 => failure
    | left + 1 =>
      set left
      return target
  | node => return node

def members (kind : Kind) (node : Node) : Decoder (List Node) := do
  match ← follow node with
  | .collection kind' _ ms => if kind' = kind then return ms else failure
  | .scalar _ true [] => return []
  | _ => failure

def text (node : Node) : Decoder Text := do
  match ← follow node with
  | .scalar _ _ t => return t
  | _ => failure

/-! ## Numbers -/

/-- Whether a numeral has a zero in front that is not all of it. -/
def hasLeadingZero (t : Text) : Bool :=
  match t with
  | '0' :: c :: rest => (c :: rest).all Char.isDigit
  | _ => false

def numeral? (t : Text) : Option Nat :=
  match if t.head? = some '+' then t.drop 1 else t with
  | '0' :: 'x' :: digits => Numeral.bare? 16 digits
  | '0' :: 'o' :: digits => Numeral.bare? 8 digits
  | '0' :: 'b' :: digits => Numeral.bare? 2 digits
  | digits => if hasLeadingZero digits then none else Numeral.bare? 10 digits

def number (limit : Nat) (node : Node) : Decoder Nat := do
  match ← follow node with
  | .scalar _ true t =>
    let some n := (numeral? t).filter (· < limit) | failure
    return n
  | _ => failure

/-! ## Absence and policies -/

def isNull (t : Text) : Bool := ["null", "Null", "NULL", "~"].any (t == ·.toList)

def nullTag : Tag := Utf8.encode "tag:yaml.org,2002:null".toList

/-- A text that may be absent.  A null must be one if its tag says so. -/
def optionalText (node : Node) : Decoder (Option Text) := do
  match ← follow node with
  | .scalar { tag := some tag, .. } true t =>
    if tag = nullTag then if isNull t then return none else failure else return some t
  | .scalar { tag := none, .. } true t => return if t = [] || isNull t then none else some t
  | .scalar _ false t => return some t
  | _ => failure

def policyOf (name : Text) : Decoder StatusPolicy :=
  if name = "always_ok".toList then return .alwaysOk
  else if name = "propagate".toList then return .propagate
  else failure

/-- The name that a tag gives, if it is text and not empty.  A `!` in front does not count. -/
def tagName? (tag : Tag) : Option Text :=
  if tag = [] then none
  else Utf8.decode? (if tag.head? = some 33 then tag.drop 1 else tag)

def policy (node : Node) : Decoder StatusPolicy := do
  match ← follow node with
  | .scalar { tag, .. } isPlain t =>
    match tag.bind tagName? with
    | some name => if isPlain && (t = [] || isNull t) then policyOf name else failure
    | none => policyOf t
  | _ => failure

/-! ## Mappings -/

/-- The values of a mapping under their keys. -/
abbrev Fields := List (Text × Node)

/-- The fields of a mapping, whose keys are all texts. -/
def fields (node : Node) : Decoder Fields := do
  (Node.pairs (← members .mapping node)).mapM fun e => return (← text e.1, e.2)

def field? {α : Type} (fs : Fields) (key : String) (decode : Node → Decoder α) :
    Decoder (Option α) :=
  match fs.filter (·.1 == key.toList) with
  | [] => return none
  | [e] => some <$> decode e.2
  | _ => failure

/-- What a field says, or its default. -/
def field {α : Type} (fs : Fields) (key : String) (decode : Node → Decoder α) (default : α) :
    Decoder α :=
  return (← field? fs key decode).getD default

/-! ## Configurations -/

/-- What a file says of the server. -/
def server (node : Node) : Decoder Server := do
  let fs ← fields node
  let size := number Numeral.limit64
  let base : Server := {}
  return {
    listenAddr := ← field fs "listen_addr" text base.listenAddr
    backlog := ← field fs "backlog" (number Numeral.limit32) base.backlog
    maxConnections := ← field fs "max_connections" size base.maxConnections
    maxRequestSize := ← field fs "max_request_size" size base.maxRequestSize
    readTimeoutMs := ← field fs "read_timeout_ms" size base.readTimeoutMs
    writeTimeoutMs := ← field fs "write_timeout_ms" size base.writeTimeoutMs }

/-- What a file says of the served files. -/
def staticFiles (node : Node) : Decoder StaticFiles := do
  let fs ← fields node
  let base : StaticFiles := {}
  return {
    root := ← field fs "root" text base.root
    maxFileSize := ← field fs "max_file_size" (number Numeral.limit64) base.maxFileSize }

/-- What a file says of a backend, which must have a URL. -/
def backend (node : Node) : Decoder Backend := do
  let fs ← fields node
  let some url ← field? fs "url" text | failure
  return { url, name := ← field fs "name" optionalText none }

def backends (node : Node) : Decoder (List Backend) := do
  (← members .sequence node).mapM backend

/-- What a file says of the exchange with backends. -/
def proxy (node : Node) : Decoder Proxy := do
  let fs ← fields node
  let size := number Numeral.limit64
  let base : Proxy := {}
  return {
    backends := ← field fs "backends" backends base.backends
    connectTimeoutMs := ← field fs "connect_timeout_ms" size base.connectTimeoutMs
    requestTimeoutMs := ← field fs "request_timeout_ms" size base.requestTimeoutMs
    maxResponseSize := ← field fs "max_response_size" size base.maxResponseSize
    statusPolicy := ← field fs "status_policy" policy base.statusPolicy }

/-- What a file says. -/
def config (node : Node) : Decoder Config := do
  let fs ← fields node
  let base : Config := {}
  return {
    server := ← field fs "server" server base.server
    staticFiles := ← field fs "static_files" staticFiles base.staticFiles
    proxy := ← field fs "proxy" proxy base.proxy }

end Decoder

/-- The configuration of a document.  An empty stream leaves all defaults. -/
def ofDocument? (d : Document) : Option Config :=
  match d.root with
  | none => some {}
  | some root => ((Decoder.config root).run d).run' (100 * d.size)

end Gateway.Config
