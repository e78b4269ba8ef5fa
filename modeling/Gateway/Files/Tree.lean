import Gateway.Text.Utf8
import Gateway.Text.Numeral

/-!
# File trees

A file tree is a value: directories, regular files and symbolic links with what their owner may do
with them, each at the location that the names from the root lead to.

Looking up a name asks for three things in turn.  What it is looked up in must be a directory that
may be searched, the name must not be too long, and something of that name must be there.
-/

namespace Gateway.Files

/-- The name of a directory entry. -/
abbrev Name := Bytes

/-- The names that lead from the root to a place. -/
abbrev Location := List Name

/-- What the owner of an entry may do with it. -/
structure Access where
  /-- Read the file, or list the directory. -/
  read : Bool := true
  /-- Look up names in the directory. -/
  search : Bool := true
deriving DecidableEq, Repr

/-- What is at a location. -/
inductive Entry where
  | file (content : Bytes)
  | directory
  | link (target : Bytes)
deriving DecidableEq, Repr

/-- An entry and the access to it. -/
structure Node where
  entry : Entry
  access : Access := {}
deriving DecidableEq, Repr

/-- A file tree.  The first entry of a location counts. -/
structure Tree where
  /-- The nodes and their locations. -/
  nodes : List (Location × Node)
deriving DecidableEq, Repr

/-- Why an operation on a tree fails. -/
inductive FileError where
  | notFound
  /-- A directory may not be searched, or the file may not be read. -/
  | permissionDenied
  /-- Something that is no directory is used as one. -/
  | notADirectory
  | isADirectory
  | nameTooLong
  | tooManyLinks
deriving DecidableEq, Repr

/-- The number of the error and what the system says about it. -/
def FileError.description : FileError → Nat × Text
  | .notFound => (2, "No such file or directory".toList)
  | .permissionDenied => (13, "Permission denied".toList)
  | .notADirectory => (20, "Not a directory".toList)
  | .isADirectory => (21, "Is a directory".toList)
  | .nameTooLong => (36, "File name too long".toList)
  | .tooManyLinks => (40, "Too many levels of symbolic links".toList)

def FileError.message (e : FileError) : Text :=
  e.description.2 ++ " (os error ".toList ++ Numeral.decimal e.description.1 ++ [')']

namespace Tree

def node? (t : Tree) (l : Location) : Option Node := t.nodes.lookup l

/-- The length that no name exceeds. -/
def maxName : Nat := 255

/-- What a name leads to from a location. -/
def look (t : Tree) (here : Location) (name : Name) : Except FileError Node :=
  match t.node? here with
  | none => .error .notFound
  | some { entry := .directory, access } =>
    if !access.search then .error .permissionDenied
    else if maxName < name.length then .error .nameTooLong
    else
      match t.node? (here ++ [name]) with
      | some node => .ok node
      | none => .error .notFound
  | some _ => .error .notADirectory

def put (t : Tree) (l : Location) (node : Node) : Tree where
  nodes := (l, node) :: t.nodes.filter (·.1 != l)

def setAccess (t : Tree) (l : Location) (access : Access) : Tree where
  nodes := t.nodes.map fun e => if e.1 = l then (l, { e.2 with access }) else e

end Tree

end Gateway.Files
