import Gateway.Http.Framing
import Gateway.Http.Headers
import Gateway.Http.Method

/-!
# Requests

A request owns everything read from one client: the request line, the headers and the body.  It is
read from bytes by `Request.parse` and put together field by field from a `Draft`.
-/

namespace Gateway.Http

/-- The protocol version of a request line that names none. -/
def defaultVersion : Text := "HTTP/1.1".toList

/-- A request of one client. -/
structure Request where
  method : Method
  /-- The target as it was sent, with its query. -/
  target : Text
  version : Text
  headers : Headers
  /-- The bytes after the blank line, at most as many as the head declares. -/
  body : Bytes
  /-- Whether the head declares more body than was read. -/
  truncated : Bool
deriving DecidableEq, Repr

namespace Request

/-- The value of a header, by its name in any letter case. -/
def header? (r : Request) (name : Text) : Option Text := r.headers.lookup? name

/-- The length of the body that the headers declare, if they declare a number. -/
def declaredLength? (r : Request) : Option Nat :=
  (r.header? Framing.contentLength).bind (Numeral.read? 10 Numeral.limit64)

/-- The declared length, 0 without one. -/
def contentLength (r : Request) : Nat := r.declaredLength?.getD 0

/-- The same request for another target. -/
def withTarget (r : Request) (target : Text) : Request := { r with target }

end Request

/-! ## Drafts -/

/-- A request whose method and target may still be missing. -/
structure Draft where
  method : Option Method := none
  /-- The target, once set. -/
  target : Option Text := none
  version : Option Text := none
  headers : Headers := .empty
  body : Bytes := []

/-- What a draft lacks. -/
inductive DraftError where
  | methodMissing
  | targetMissing
deriving DecidableEq, Repr

def DraftError.message : DraftError → Text
  | .methodMissing => "method missing".toList
  | .targetMissing => "path missing".toList

/-- The request that a draft describes.  A missing method is reported before a missing target. -/
def Draft.build (d : Draft) : Except DraftError Request :=
  match d.method, d.target with
  | none, _ => .error .methodMissing
  | some _, none => .error .targetMissing
  | some method, some target =>
    .ok { method, target, version := d.version.getD defaultVersion, headers := d.headers,
          body := d.body, truncated := false }

end Gateway.Http
