import Gateway.Text.Basic

/-!
# Request methods

Routing does not look at the method.  It is kept so that the proxy can repeat it to a backend, which
is why a token that is none of the common methods survives as it is.
-/

namespace Gateway.Http

/-- The method of a request. -/
inductive Method where
  | get
  | post
  | put
  | delete
  | head
  | options
  | patch
  /-- Any other token. -/
  | other (token : Text)
deriving DecidableEq, Repr

namespace Method

/-- The method a token names.  Letter case matters. -/
def ofToken (token : Text) : Method :=
  if token = "GET".toList then .get
  else if token = "POST".toList then .post
  else if token = "PUT".toList then .put
  else if token = "DELETE".toList then .delete
  else if token = "HEAD".toList then .head
  else if token = "OPTIONS".toList then .options
  else if token = "PATCH".toList then .patch
  else .other token

def token : Method → Text
  | .get => "GET".toList
  | .post => "POST".toList
  | .put => "PUT".toList
  | .delete => "DELETE".toList
  | .head => "HEAD".toList
  | .options => "OPTIONS".toList
  | .patch => "PATCH".toList
  | .other token => token

/-- A method keeps the token it was read from. -/
theorem token_ofToken (t : Text) : (ofToken t).token = t := by
  unfold ofToken
  iterate 7
    split
    · next h => exact h.symm
  rfl

end Method

end Gateway.Http
