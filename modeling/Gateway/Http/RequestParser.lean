import Gateway.Http.Request

/-!
# Reading requests

`Request.parse` reads one request from the bytes captured from a client.  Only the request line can
make it fail.

* The request line is what precedes the first line feed of the head.  It must be UTF-8 and hold two
  words, the method and the target.  A third one is the version, and further ones are dropped.
* A header line is split at its first colon and trimmed.  A line without a colon is skipped.  Bytes
  that are not UTF-8 read as U+FFFD.
* The body is what follows the blank line, cut to the declared length.  If more is declared than is
  there, the request keeps what is there and is marked as truncated.
-/

namespace Gateway.Http

/-- Why bytes are no request. -/
inductive RequestError where
  /-- The first line does not hold a method and a target. -/
  | malformedRequestLine
deriving DecidableEq, Repr

def RequestError.message : RequestError → Text
  | .malformedRequestLine => "malformed request line".toList

namespace Request

/-- The byte that ends a line. -/
def lineFeed : UInt8 := 10

def requestWords? (line : Bytes) : Option (List Text) :=
  (Utf8.decode? line).map fun t => Text.words (Text.dropEndWhile (· == '\r') t)

/-- The name and the value in a header line, if it has a colon. -/
def headerField? (line : Text) : Option (Text × Text) :=
  (Text.splitOnce? ':' line).map fun (name, value) => (Text.trim name, Text.trim value)

/-- The headers in the text after the request line.  For each name the last line decides. -/
def headersOfText (t : Text) : Headers := Headers.ofList ((Text.lines t).filterMap headerField?)

/-- The body to keep of what follows the blank line, and whether some of it is missing. -/
def cutBody (declared : Option Nat) (rest : Bytes) : Bytes × Bool :=
  match declared with
  | some n => if n ≤ rest.length then (rest.take n, false) else (rest, true)
  | none => (rest, false)

/-- Read a request from the bytes captured from a client. -/
def parse (bytes : Bytes) : Except RequestError Request :=
  let (head, rest) := Framing.splitHead bytes
  let line := head.takeWhile (· != lineFeed)
  match requestWords? line with
  | some (method :: target :: more) =>
    let bare : Request :=
      { method := .ofToken method
        target
        version := more.headD defaultVersion
        headers := headersOfText (Utf8.decodeLossy (head.drop line.length))
        body := []
        truncated := false }
    let (body, truncated) := cutBody bare.declaredLength? rest
    .ok { bare with body, truncated }
  | _ => .error .malformedRequestLine

end Request

end Gateway.Http
