import Gateway.Yaml.Tag

/-!
# Nodes and documents

A document has a root node, unless its stream is empty.  A node is a scalar, a collection or a
reference to a node that has an anchor.

Anchors are numbered.  A new anchor has the number of names that had anchors before it.  A name that
is used again gets a new number, which a later name may get as well.  What a number refers to is the
last node that has it, whatever stands between.
-/

namespace Gateway.Yaml

/-- The marks on a node. -/
structure Marks where
  /-- The number of its anchor. -/
  anchor : Option Nat := none
  tag : Option Tag := none
deriving DecidableEq, Repr

/-- The kind of a collection. -/
inductive Kind where
  /-- A list of nodes. -/
  | sequence
  /-- A list of keys with their values. -/
  | mapping
deriving DecidableEq, Repr

/-- A node. -/
inductive Node where
  /-- A scalar, which may have been written without quotes. -/
  | scalar (marks : Marks) (isPlain : Bool) (text : Text)
  /-- A collection.  The members of a mapping are its keys and values in turn. -/
  | collection (kind : Kind) (marks : Marks) (members : List Node)
  /-- A reference to the node whose anchor has a number. -/
  | reference (number : Nat)
deriving Repr

namespace Node

/-- The node where none is written. -/
def empty : Node := .scalar {} true []

def anchor? : Node → Option Nat
  | .scalar marks .. => marks.anchor
  | .collection _ marks _ => marks.anchor
  | .reference _ => none

/-- The keys and values of a mapping from its members. -/
def pairs : List Node → List (Node × Node)
  | key :: value :: rest => (key, value) :: pairs rest
  | _ => []

mutual

/-- A node and all nodes in it, each in front of those in it. -/
def all : Node → List Node
  | .collection kind marks members => .collection kind marks members :: allIn members
  | node => [node]

def allIn : List Node → List Node
  | [] => []
  | node :: rest => node.all ++ allIn rest

end

/-- The number of starts and ends in the text of a node without what is in it. -/
def ends : Node → Nat
  | .collection .. => 2
  | _ => 1

end Node

/-- A document. -/
structure Document where
  /-- The root node, unless there is none. -/
  root : Option Node
deriving Repr

namespace Document

def nodes (d : Document) : List Node := (d.root.map Node.all).getD []

def target? (d : Document) (number : Nat) : Option Node :=
  d.nodes.reverse.find? (·.anchor? == some number)

/-- The number of starts and ends of nodes. -/
def size (d : Document) : Nat := max 1 (d.nodes.foldr (fun node n => node.ends + n) 0)

end Document

end Gateway.Yaml
