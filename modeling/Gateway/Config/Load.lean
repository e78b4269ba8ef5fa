import Gateway.Config.Decode
import Gateway.Stream.Inlet

/-!
# Loading a configuration

A configuration is read from a file, if one is named, and else has its defaults.  It must be valid
as it stands in the file.  The surroundings of the program may then replace the listen address,
and the result must be valid again.  An address that is not UTF-8 replaces nothing.

How URLs and configuration files are read is an argument, `Readers`.  Its default is
`Readers.standard`.
-/

namespace Gateway.Config

/-- Why there is no configuration. -/
inductive LoadError where
  | unreadable (path : Bytes) (fault : Fault)
  | malformed
  | invalid (reason : Invalid)
deriving DecidableEq, Repr

def LoadError.message : LoadError → Text
  | .unreadable path fault =>
    "failed to read config file ".toList ++ Utf8.decodeLossy path ++ ": ".toList ++ fault.message
  | .malformed => "failed to parse config".toList
  | .invalid reason => "invalid config: ".toList ++ reason.message

/-- Where a configuration comes from. -/
structure Sources where
  /-- The path of a file and what reading it brings. -/
  file : Option (Bytes × Except Fault Bytes) := none
  /-- The listen address that replaces that of the file. -/
  listen : Option Bytes := none

/-- How texts are read. -/
structure Readers where
  url : Url.Reader
  /-- The configuration that a text describes. -/
  config? : Text → Option Config

def Readers.standard : Readers where
  url := Url.parse
  config? t := (Yaml.Document.parse? t).bind ofDocument?

/-- A configuration that breaks no rule. -/
def checked (c : Config) (readUrl : Url.Reader) : Except LoadError Config :=
  match c.validate readUrl with
  | .error reason => .error (.invalid reason)
  | .ok () => .ok c

def parse (t : Text) (readers : Readers := .standard) : Except LoadError Config :=
  match readers.config? t with
  | none => .error .malformed
  | some c => c.checked readers.url

/-- What is said of a file that is not UTF-8. -/
def notText : Fault := ⟨"stream did not contain valid UTF-8".toList⟩

def ofFile (path : Bytes) (content : Except Fault Bytes) (readers : Readers := .standard) :
    Except LoadError Config :=
  match content with
  | .error fault => .error (.unreadable path fault)
  | .ok bytes =>
    match Utf8.decode? bytes with
    | none => .error (.unreadable path notText)
    | some t => parse t readers

def withListenAddr (c : Config) (address : Option Text) : Config :=
  { c with server.listenAddr := address.getD c.server.listenAddr }

def load (s : Sources) (readers : Readers := .standard) : Except LoadError Config := do
  let c ← match s.file with
    | some (path, content) => ofFile path content readers
    | none => .ok {}
  checked (c.withListenAddr (s.listen.bind Utf8.decode?)) readers.url

end Gateway.Config
