import Gateway.Files.Path
import Gateway.Files.Tree

/-!
# Canonical locations

A path is a list of segments between slashes.  `Tree.walk` follows it from a location.  Empty
segments and `.` lead nowhere, `..` leads to the parent, and the root is its own parent.  A name
leads to its entry.  If that is a link, the segments of its target are followed in its place, from
the root if the target starts with a slash.  At most forty links are followed.

An entry that is followed by a slash must be a directory, even if no name follows the slash.  The
location that is reached holds no link, no `.` and no `..`.
-/

namespace Gateway.Files

/-- Whether what precedes these segments must be a directory: they go on with a slash, and before
the next name there is an end or a `..`. -/
def needsDirectory (rest : List Bytes) : Bool :=
  match rest with
  | [] => false
  | _ =>
    match rest.dropWhile fun s => s == [] || s == dot with
    | [] => true
    | s :: _ => s == dotDot

namespace Tree

/-- How many links are followed at most. -/
def maxLinks : Nat := 40

/-- Follow segments from a location, through at most `links` links. -/
def walk (t : Tree) (links : Nat) (here : Location) (path : List Bytes) :
    Except FileError Location :=
  match path with
  | [] => .ok here
  | s :: rest =>
    if s = [] ∨ s = dot then walk t links here rest
    else if s = dotDot then walk t links here.dropLast rest
    else
      match t.look here s with
      | .error e => .error e
      | .ok { entry := .link target, .. } =>
        match links with
        | 0 => .error .tooManyLinks
        | links + 1 =>
          walk t links (if isAbsolute target then [] else here) (segments target ++ rest)
      | .ok { entry := .directory, .. } => walk t links (here ++ [s]) rest
      | .ok { entry := .file _, .. } =>
        if needsDirectory rest then .error .notADirectory else walk t links (here ++ [s]) rest
termination_by (links, path.length)

/-- The canonical location of a path, which is relative to the location `base` unless it starts with
a slash.  The empty path leads nowhere. -/
def canonical (t : Tree) (base : Location) (path : Bytes) : Except FileError Location :=
  if path = [] then .error .notFound
  else t.walk maxLinks [] ((if isAbsolute path then [] else base) ++ segments path)

/-- The bytes of the file at a path, which is relative to the location `base`. -/
def contentAt (t : Tree) (base : Location) (path : Bytes) : Except FileError Bytes := do
  let location ← t.canonical base path
  match t.node? location with
  | none => .error .notFound
  | some node =>
    if !node.access.read then .error .permissionDenied
    else
      match node.entry with
      | .file bytes => .ok bytes
      | _ => .error .isADirectory

/-- Put a node at a path below a location, and directories on the way there. -/
def make (t : Tree) (base : Location) (path : List Name) (node : Node) : Tree :=
  match path with
  | [] => t
  | [name] => t.put (base ++ [name]) node
  | name :: rest =>
    match t.walk maxLinks base [name] with
    | .ok here => make t here rest node
    | .error _ => make (t.put (base ++ [name]) { entry := .directory }) (base ++ [name]) rest node

end Tree

end Gateway.Files
