import Gateway.Text.Ascii
import Gateway.Text.Blank
import Gateway.Text.Lines
import Gateway.Text.Numeral
import Gateway.Text.Utf8

/-!
# Message framing

A message is a head, a blank line and a body.  The head ends at the first blank line, the four bytes
`CR LF CR LF`, whatever stands around it.  Bytes that hold no blank line have no head yet.

The head may declare the length of the body.  The first line that names `Content-Length` and
carries a 64-bit numeral decides.  Such lines with another value are passed over.  A message is
complete once it holds the blank line and as many bytes after it as the head declares, none if it
declares nothing.

Where a message ends is a sum of 64 bits, which wraps.  So a head that declares a length beyond that
makes a message that is complete without a body.

Both readers of the gateway, of requests and of replies, ask these three questions of the bytes they
hold so far.
-/

namespace Gateway.Http.Framing

/-- The blank line between head and body. -/
def blankLine : Bytes := [13, 10, 13, 10]

/-- The length of the head: the offset of the first blank line. -/
def headEnd? : Bytes → Option Nat
  | [] => none
  | b :: rest =>
    if blankLine.isPrefixOf (b :: rest) then some 0 else (headEnd? rest).map (· + 1)

/-- The name of the header that declares the length of a body. -/
def contentLength : Text := "Content-Length".toList

/-- The length a header line declares, if it declares one. -/
def lengthField? (line : Text) : Option Nat := do
  let (name, value) ← Text.splitOnce? ':' line
  if Text.sameIgnoringCase (Text.trim name) contentLength then
    Numeral.read? 10 Numeral.limit64 (Text.trim value)
  else none

/-- The length of the body that the head declares, once the head is there. -/
def declaredLength? (bytes : Bytes) : Option Nat := do
  let headLength ← headEnd? bytes
  ((Text.lines (Utf8.decodeLossy (bytes.take headLength))).drop 1).findSome? lengthField?

/-- The end of a message after a head of length `n` that declares `d` bytes, in 64 bits. -/
def endOf (n d : Nat) : Nat := (n + 4 + d) % Numeral.limit64

/-- Whether the bytes hold a whole message. -/
def isComplete (bytes : Bytes) : Bool :=
  match headEnd? bytes with
  | some n => decide (endOf n ((declaredLength? bytes).getD 0) ≤ bytes.length)
  | none => false

/-- The head and what follows the blank line.  Without one, all bytes are head. -/
def splitHead (bytes : Bytes) : Bytes × Bytes :=
  match headEnd? bytes with
  | some n => (bytes.take n, bytes.drop (n + 4))
  | none => (bytes, [])

end Gateway.Http.Framing
