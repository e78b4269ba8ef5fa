import Gateway.Text.Quoted
import Gateway.Url.Parser

/-!
# Configuration

What an operator can set, with the defaults, and what makes a configuration acceptable.  Four
limits must not be 0, and every backend must have an `http` URL with a host.  The first rule that
is broken is reported, limits first.  How URLs are read is an argument, with `Url.parse` as its
default.
-/

namespace Gateway

/-- Which status the proxy reports after an exchange with a backend. -/
inductive StatusPolicy where
  /-- Always 200. -/
  | alwaysOk
  /-- The status of the backend's reply. -/
  | propagate
deriving DecidableEq, Repr

namespace Config

/-- The listening socket and the limits of each connection. -/
structure Server where
  listenAddr : Text := "0.0.0.0:8080".toList
  /-- How many connections may wait to be accepted. -/
  backlog : Nat := 10
  maxConnections : Nat := 64
  maxRequestSize : Nat := 8192
  /-- The deadline of each read, in milliseconds. -/
  readTimeoutMs : Nat := 5000
  /-- The deadline for writing a response, in milliseconds. -/
  writeTimeoutMs : Nat := 5000
deriving DecidableEq, Repr

/-- The served files. -/
structure StaticFiles where
  /-- The directory whose files are served. -/
  root : Text := ['.']
  maxFileSize : Nat := 8192
deriving DecidableEq, Repr

/-- A backend, as it is configured. -/
structure Backend where
  url : Text
  name : Option Text := none
deriving DecidableEq, Repr

/-- The exchange with backends. -/
structure Proxy where
  backends : List Backend :=
    [{ url := "http://localhost:8000".toList, name := some "default".toList }]
  /-- The deadline for finding and reaching a backend, in milliseconds. -/
  connectTimeoutMs : Nat := 2000
  /-- The deadline for sending a request and for each read of the reply, in milliseconds. -/
  requestTimeoutMs : Nat := 10000
  maxResponseSize : Nat := 65536
  statusPolicy : StatusPolicy := .alwaysOk
deriving DecidableEq, Repr

end Config

/-- The configuration of a gateway. -/
structure Config where
  server : Config.Server := {}
  staticFiles : Config.StaticFiles := {}
  proxy : Config.Proxy := {}
deriving DecidableEq, Repr

namespace Config

/-- A limit that must not be 0. -/
inductive Limit where
  | maxConnections
  | maxRequestSize
  | maxFileSize
  | maxResponseSize
deriving DecidableEq, Repr

/-- The name of a limit in a configuration file. -/
def Limit.name : Limit → Text
  | .maxConnections => "server.max_connections".toList
  | .maxRequestSize => "server.max_request_size".toList
  | .maxFileSize => "static_files.max_file_size".toList
  | .maxResponseSize => "proxy.max_response_size".toList

/-- What is wrong with the URL of a backend. -/
inductive BackendFault where
  /-- It is no URL. -/
  | malformed (error : UrlError)
  | notHttp
  | noHost
deriving DecidableEq, Repr

def BackendFault.message : BackendFault → Text
  | .malformed error => error.message
  | .notHttp => "only http is supported".toList
  | .noHost => "missing host".toList

/-- Why a configuration is not acceptable. -/
inductive Invalid where
  | zeroLimit (limit : Limit)
  | backend (url : Text) (fault : BackendFault)
deriving DecidableEq, Repr

def Invalid.message : Invalid → Text
  | .zeroLimit limit => limit.name ++ " must be greater than 0".toList
  | .backend url fault => "backend url ".toList ++ Text.quoted url ++ ": ".toList ++ fault.message

/-- What is wrong with a URL for a backend, if anything is. -/
def backendFault? (readUrl : Url.Reader) (url : Text) : Option BackendFault :=
  match readUrl url with
  | .error e => some (.malformed e)
  | .ok u =>
    if u.scheme ≠ "http".toList then some .notHttp
    else if u.hostText?.isNone then some .noHost
    else none

/-- The limits and their values, in the order in which they are checked. -/
def limits (c : Config) : List (Limit × Nat) :=
  [(.maxConnections, c.server.maxConnections), (.maxRequestSize, c.server.maxRequestSize),
   (.maxFileSize, c.staticFiles.maxFileSize), (.maxResponseSize, c.proxy.maxResponseSize)]

/-- The first rule that a configuration breaks, if it breaks one. -/
def invalid? (c : Config) (readUrl : Url.Reader) : Option Invalid :=
  ((c.limits.find? (·.2 == 0)).map fun l => .zeroLimit l.1).or
    (c.proxy.backends.findSome? fun b => (backendFault? readUrl b.url).map (.backend b.url))

/-- Accept a configuration that breaks no rule. -/
def validate (c : Config) (readUrl : Url.Reader := Url.parse) : Except Invalid Unit :=
  match c.invalid? readUrl with
  | some reason => .error reason
  | none => .ok ()

end Config

end Gateway
