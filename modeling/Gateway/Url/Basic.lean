import Gateway.Net.Address

/-!
# URLs

The parts of a URL, and why a text is none.  A URL of a special scheme, such as `http`, always has
a host and a path of segments.  Other URLs may lack a host, have an empty one, or have a path that
is a text without structure.

What uses URLs takes the way to read them as an argument, a `Url.Reader`.
-/

namespace Gateway

/-- Why a text is no URL. -/
inductive UrlError where
  /-- It has no scheme, and there is nothing it could be relative to. -/
  | relativeWithoutBase
  /-- It has no host and needs one. -/
  | emptyHost
  /-- Its port is no number, or too large. -/
  | invalidPort
  /-- Its host ends like a version 4 address and is none. -/
  | invalidIpv4
  /-- Its host is in brackets and is no version 6 address. -/
  | invalidIpv6
  /-- Its host has no form in ASCII. -/
  | invalidDomain
  /-- Its host holds a character that may not stand there. -/
  | invalidHostCharacter
deriving DecidableEq, Repr

def UrlError.message : UrlError → Text
  | .relativeWithoutBase => "relative URL without a base".toList
  | .emptyHost => "empty host".toList
  | .invalidPort => "invalid port number".toList
  | .invalidIpv4 => "invalid IPv4 address".toList
  | .invalidIpv6 => "invalid IPv6 address".toList
  | .invalidDomain => "invalid international domain name".toList
  | .invalidHostCharacter => "invalid domain character".toList

namespace Url

/-- The host of a URL. -/
inductive Host where
  /-- No host, though the URL has a place for one. -/
  | empty
  | domain (name : Text)
  | ipv4 (ip : Net.Ipv4)
  | ipv6 (ip : Net.Ipv6)
deriving DecidableEq, Repr

/-- The text of a host, with brackets around an address of version 6. -/
def Host.text : Host → Text
  | .empty => []
  | .domain name => name
  | .ipv4 ip => ip.text
  | .ipv6 ip => '[' :: ip.text ++ [']']

/-- The path of a URL. -/
inductive Path where
  /-- A text without structure. -/
  | plain (t : Text)
  /-- Segments, each after a slash. -/
  | segments (ss : List Text)
deriving DecidableEq, Repr

def Path.text : Path → Text
  | .plain t => t
  | .segments ss => ss.flatMap ('/' :: ·)

end Url

/-- A URL. -/
structure Url where
  /-- The scheme, in small letters. -/
  scheme : Text
  username : Text := []
  password : Text := []
  /-- The host, if there is a place for one. -/
  host : Option Url.Host := none
  /-- The port, unless it is the default one of the scheme. -/
  port : Option UInt16 := none
  path : Url.Path
  query : Option Text := none
  fragment : Option Text := none
deriving DecidableEq, Repr

namespace Url

/-- A way to read URLs. -/
abbrev Reader := Text → Except UrlError Url

def hostText? (u : Url) : Option Text :=
  match u.host with
  | none => none
  | some .empty => none
  | some h => some h.text

/-- The schemes with rules of their own, and their default ports. -/
def specialSchemes : List (Text × Option UInt16) :=
  [("http", some 80), ("https", some 443), ("ws", some 80), ("wss", some 443), ("ftp", some 21),
   ("file", none)].map fun (s, p) => (s.toList, p)

/-- Whether a scheme has rules of its own. -/
def isSpecial (scheme : Text) : Bool := specialSchemes.any (·.1 == scheme)

/-- The default port of a scheme. -/
def defaultPort? (scheme : Text) : Option UInt16 :=
  (specialSchemes.find? (·.1 == scheme)).bind Prod.snd

/-- The port that the URL leads to, if it is known. -/
def effectivePort? (u : Url) : Option UInt16 := u.port.or (defaultPort? u.scheme)

/-- The user name and the password in front of a host. -/
def credentialsText (u : Url) : Text :=
  let password := if u.password = [] then [] else ':' :: u.password
  if u.username = [] ∧ u.password = [] then [] else u.username ++ password ++ ['@']

/-- What stands between the scheme and the path.  A path that starts with two slashes is told from a
host by a dot segment. -/
def authorityText (u : Url) : Text :=
  match u.host with
  | some h =>
    "//".toList ++ u.credentialsText ++ h.text
      ++ (u.port.map fun p => ':' :: Numeral.decimal p.toNat).getD []
  | none => if "//".toList.isPrefixOf u.path.text then "/.".toList else []

def text (u : Url) : Text :=
  u.scheme ++ [':'] ++ u.authorityText ++ u.path.text
    ++ (u.query.map ('?' :: ·)).getD [] ++ (u.fragment.map ('#' :: ·)).getD []

end Url

end Gateway
