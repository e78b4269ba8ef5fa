import Gateway.Text.Lines

/-!
# Routes

The first segment of a request's target decides who answers it.

* `/static` and what is below it are files.
* `/api` and what is below it go to a backend, with `/api` taken off.
* Anything else is not found.

A segment ends at a slash or at a question mark, so `/apix` is no `/api`, and `/api?q` is one whose
forwarded target is `/?q`.
-/

namespace Gateway

/-- Who answers a request. -/
inductive Route where
  /-- The file responder. -/
  | file
  /-- A backend, which is asked for `target`. -/
  | proxy (target : Text)
  /-- Nobody. -/
  | notFound
deriving DecidableEq, Repr

namespace Route

def inSegment (c : Char) : Bool := c != '/' && c != '?'

/-- The target a backend sees, from what follows the segment `/api`. -/
def forwarded (rest : Text) : Text := if rest.head? = some '/' then rest else '/' :: rest

def ofTarget : Text → Route
  | '/' :: path =>
    let segment := path.takeWhile inSegment
    if segment = "static".toList then .file
    else if segment = "api".toList then .proxy (forwarded (path.dropWhile inSegment))
    else .notFound
  | _ => .notFound

/-! ## Tests -/

example : ofTarget "/api/x".toList = .proxy "/x".toList := by decide
example : ofTarget "/api?q".toList = .proxy "/?q".toList := by decide
example : ofTarget "/apix".toList = .notFound ∧ ofTarget "/static".toList = .file := by decide

end Route

end Gateway
