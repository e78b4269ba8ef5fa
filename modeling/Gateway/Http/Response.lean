import Gateway.Http.Framing
import Gateway.Http.Headers
import Gateway.Http.Status

/-!
# Responses

What a responder hands back for a request.  A built response holds a `Content-Length` header that
says the length of its body, in place of any value set for that name.

`Response.wire` is the form that is sent.  It repeats no framing header of the map, in whatever
letter case: the other headers are written in the order of their names, and then one
`Content-Length` line and one `Connection: close` line.  So the bytes do not depend on the order in
which headers were set.
-/

namespace Gateway.Http

/-- An answer to a request. -/
structure Response where
  status : Status
  headers : Headers
  body : Bytes
deriving DecidableEq, Repr

namespace Response

/-- A response whose `Content-Length` is that of its body. -/
def build (status : Status) (headers : Headers) (body : Bytes) : Response where
  status := status
  headers := headers.set Framing.contentLength (Numeral.decimal body.length)
  body := body

/-- A 200 response without headers of its own. -/
def ok (body : Bytes) : Response := build .ok .empty body

def errorPage (status : Status) (message : Text) : Response :=
  build status (Headers.empty.set "Content-Type".toList "text/html".toList)
    (Utf8.encode ("<h1>".toList ++ message ++ "</h1>".toList))

def forbidden : Response := errorPage .forbidden "403 Forbidden".toList

def notFound : Response := errorPage .notFound "404 Not Found".toList

/-- The 500 page with a short diagnosis. -/
def internalError (detail : Text) : Response :=
  errorPage .internalServerError ("500 Internal Server Error: ".toList ++ detail)

/-- The 502 page with a short diagnosis. -/
def badGateway (detail : Text) : Response :=
  errorPage .badGateway ("502 Bad Gateway: ".toList ++ detail)

/-- The value of a header, by its name in any letter case. -/
def header? (r : Response) (name : Text) : Option Text := r.headers.lookup? name

/-! ## The wire form -/

def lineEnd : Text := ['\r', '\n']

def headerLine (field : Text × Text) : Text := field.1 ++ ": ".toList ++ field.2 ++ lineEnd

/-- Whether a header is written by the wire form itself. -/
def isFramingHeader (name : Text) : Bool :=
  Text.sameIgnoringCase name Framing.contentLength
    || Text.sameIgnoringCase name "Connection".toList

def statusLine (status : Status) : Text :=
  "HTTP/1.1 ".toList ++ Numeral.decimal status.code.toNat ++ [' '] ++ status.reason ++ lineEnd

def wireHead (r : Response) : Text :=
  statusLine r.status
    ++ (r.headers.sorted.filter fun e => !isFramingHeader e.1).flatMap headerLine
    ++ headerLine (Framing.contentLength, Numeral.decimal r.body.length)
    ++ headerLine ("Connection".toList, "close".toList)
    ++ lineEnd

/-- The bytes that are sent for a response. -/
def wire (r : Response) : Bytes := Utf8.encode r.wireHead ++ r.body

end Response

end Gateway.Http
