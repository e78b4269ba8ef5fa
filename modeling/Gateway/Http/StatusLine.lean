import Gateway.Text.Lines
import Gateway.Text.Blank
import Gateway.Text.Numeral
import Gateway.Text.Utf8

/-!
# Status lines

The first line of a reply: a version that starts with `HTTP/`, one space, a code of three bytes, and
after another space the reason, which may hold spaces or be absent.  The code is read as a 16-bit
numeral, so `+99` is one.
-/

namespace Gateway.Http

/-- What a status line says. -/
structure StatusLine where
  code : UInt16
  /-- The reason, empty if absent. -/
  reason : Text
deriving DecidableEq, Repr

namespace StatusLine

/-- Cut at the first space.  The second part is absent if there is no space. -/
def cutAtSpace (t : Text) : Text × Option Text :=
  match Text.splitOnce? ' ' t with
  | some (a, b) => (a, some b)
  | none => (t, none)

def ofText? (line : Text) : Option StatusLine := do
  let (version, rest) := cutAtSpace line
  guard ("HTTP/".toList.isPrefixOf version)
  let (code, reason) := cutAtSpace (← rest)
  guard ((Utf8.encode code).length = 3)
  let n ← Numeral.read? 10 Numeral.limit16 code
  return { code := UInt16.ofNat n, reason := reason.getD [] }

/-- Read the status line at the start of a reply, which must be UTF-8. -/
def parse? (bytes : Bytes) : Option StatusLine := do
  let line ← Utf8.decode? (bytes.takeWhile (· != 10))
  ofText? (Text.dropEndWhile (· == '\r') line)

/-! ## Tests -/

example : (ofText? "HTTP/1.1 404 Not Found".toList) = some ⟨404, "Not Found".toList⟩ := by decide
example : (ofText? "HTTP/1.1 +20".toList) = some ⟨20, []⟩ := by decide
example : (ofText? "HTTP/1.1  200 OK".toList) = none := by decide

end StatusLine

end Gateway.Http
