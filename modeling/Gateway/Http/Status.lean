import Gateway.Text.Basic

/-!
# Status codes

The five codes the gateway answers with by itself have names.  Any other code comes from a backend
whose status is relayed.
-/

namespace Gateway.Http

/-- The status of a response. -/
inductive Status where
  /-- Code 200: a file was served, or an exchange with a backend was completed. -/
  | ok
  /-- Code 403: the file exists and may not be read, or lies outside the served root. -/
  | forbidden
  /-- Code 404: no route, no file, or a request that cannot be read. -/
  | notFound
  /-- Code 500: the request cannot be framed for a backend. -/
  | internalServerError
  /-- Code 502: no backend could be reached and read. -/
  | badGateway
  /-- A code relayed from a backend. -/
  | other (code : UInt16)
deriving DecidableEq, Repr

namespace Status

/-- The status of a code.  The five codes with names get their names. -/
def ofCode (code : UInt16) : Status :=
  if code = 200 then .ok
  else if code = 403 then .forbidden
  else if code = 404 then .notFound
  else if code = 500 then .internalServerError
  else if code = 502 then .badGateway
  else .other code

def code : Status → UInt16
  | .ok => 200
  | .forbidden => 403
  | .notFound => 404
  | .internalServerError => 500
  | .badGateway => 502
  | .other code => code

/-- A status has the code it was made from. -/
theorem code_ofCode (c : UInt16) : (ofCode c).code = c := by
  unfold ofCode
  repeat' split
  all_goals simp_all [code]

/-- The reason phrase of the code, `Unknown` for a code without one. -/
def reason (s : Status) : Text :=
  match s.code.toNat with
  | 200 => "OK".toList
  | 201 => "Created".toList
  | 202 => "Accepted".toList
  | 204 => "No Content".toList
  | 301 => "Moved Permanently".toList
  | 302 => "Found".toList
  | 304 => "Not Modified".toList
  | 400 => "Bad Request".toList
  | 401 => "Unauthorized".toList
  | 403 => "Forbidden".toList
  | 404 => "Not Found".toList
  | 405 => "Method Not Allowed".toList
  | 409 => "Conflict".toList
  | 422 => "Unprocessable Entity".toList
  | 429 => "Too Many Requests".toList
  | 500 => "Internal Server Error".toList
  | 502 => "Bad Gateway".toList
  | 503 => "Service Unavailable".toList
  | 504 => "Gateway Timeout".toList
  | _ => "Unknown".toList

end Status

end Gateway.Http
