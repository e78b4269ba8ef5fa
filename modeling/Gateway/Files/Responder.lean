import Gateway.Files.Canonical
import Gateway.Http.MediaType
import Gateway.Http.Response
import Gateway.Text.Lines

/-!
# Serving files

The target of a request is a path below the served root, up to its query.  It is refused if it holds
a `..`, or if its canonical location lies outside the root, as may happen through a link.  What is
found must be a regular file that may be read.  At most `maxFileSize` bytes of it are sent.

* A target that is refused and a file that may not be read give 403.
* A target with a NUL character gives 404 and says so.
* A directory, a missing file and any other failure give 404.
-/

namespace Gateway.Files

open Gateway.Http

/-- The served files. -/
structure Responder where
  /-- The canonical location of the served root. -/
  root : Location
  maxFileSize : Nat
deriving DecidableEq, Repr

/-- Why a target leads to no file. -/
inductive Refusal where
  /-- It cannot be a path. -/
  | invalid
  | escapes
  /-- The file tree has nothing to serve for it. -/
  | failed (error : FileError)
deriving DecidableEq, Repr

/-- The page for a target that leads to no file. -/
def Refusal.response : Refusal → Response
  | .invalid => .errorPage .notFound "404 Not Found: invalid path".toList
  | .escapes => .forbidden
  | .failed .permissionDenied => .forbidden
  | .failed _ => .notFound

namespace Responder

/-- The responder for a root, whose path is relative to the location `base`. -/
def mount (tree : Tree) (base : Location) (root : Bytes) (maxFileSize : Nat) :
    Except FileError Responder :=
  (tree.canonical base root).map fun location => { root := location, maxFileSize }

/-- The path below the root that a target asks for. -/
def relativePath (target : Text) : Text := (target.takeWhile (· != '?')).dropWhile (· == '/')

/-- The segments below the root that a target asks for. -/
def relative (target : Text) : Except Refusal (List Bytes) :=
  let path := relativePath target
  if path.contains '\x00' then .error .invalid
  else
    let ss := segments (Utf8.encode path)
    if ss.contains dotDot then .error .escapes else .ok ss

/-- The canonical location that a target asks for, which lies in the root. -/
def resolve (r : Responder) (tree : Tree) (target : Text) : Except Refusal Location :=
  match relative target with
  | .error e => .error e
  | .ok ss =>
    match tree.walk Tree.maxLinks [] (r.root ++ ss) with
    | .error e => .error (.failed e)
    | .ok location => if r.root.isPrefixOf location then .ok location else .error .escapes

/-- The bytes that are sent of the file at a canonical location. -/
def content (r : Responder) (tree : Tree) (location : Location) : Except FileError Bytes :=
  match tree.node? location with
  | none => .error .notFound
  | some node =>
    if !node.access.read then .error .permissionDenied
    else
      match node.entry with
      | .file bytes => .ok (bytes.take r.maxFileSize)
      | _ => .error .notFound

/-- The file that a target asks for: its location and the bytes that are sent of it. -/
def find (r : Responder) (tree : Tree) (target : Text) : Except Refusal (Location × Bytes) :=
  match r.resolve tree target with
  | .error e => .error e
  | .ok location =>
    match r.content tree location with
    | .error e => .error (.failed e)
    | .ok bytes => .ok (location, bytes)

/-- The header that announces the media type of the file at a location. -/
def typeHeader (location : Location) : Headers :=
  Headers.empty.set "Content-Type".toList (MediaType.ofPath (location.getLastD []))

/-- The response to a request for a target. -/
def serve (r : Responder) (tree : Tree) (target : Text) : Response :=
  match r.find tree target with
  | .ok (location, bytes) => Response.build .ok (typeHeader location) bytes
  | .error refusal => refusal.response

end Responder

end Gateway.Files
