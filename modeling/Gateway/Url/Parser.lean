import Gateway.Url.Host

/-!
# Reading URLs

`Url.parse` reads an absolute URL.  Control characters and spaces at the ends do not count, and tabs
and line ends do not count anywhere.

After the scheme there are three cases.  A special scheme other than `file` is followed by a host,
whatever the number of slashes, which may be backslashes.  `file` may have a host after two slashes.
Any other scheme has a host after exactly two slashes, a path of segments after one, and otherwise a
path without structure.

Dot segments are resolved while the path is read, also those that are written with escapes.
-/

namespace Gateway.Url

/-- What is left of a URL to read, and how to read it. -/
structure Scheme where
  /-- The scheme, in small letters. -/
  name : Text
  /-- Whether it has rules of its own. -/
  isSpecial : Bool
  /-- Whether it is `file`. -/
  isFile : Bool

def Scheme.ofName (name : Text) : Scheme where
  name := name
  isSpecial := Url.isSpecial name
  isFile := name = "file".toList

/-- Whether a character is a slash, or a backslash that counts as one. -/
def Scheme.isSlash (s : Scheme) (c : Char) : Bool := c = '/' || (s.isSpecial && c = '\\')

/-- Whether a character ends the part of a URL in front of the path. -/
def Scheme.endsAuthority (s : Scheme) (c : Char) : Bool := s.isSlash c || c = '?' || c = '#'

/-! ## Preparation and scheme -/

/-- The characters of a URL that count. -/
def significant (t : Text) : Text :=
  let outer (c : Char) : Bool := c.toNat ≤ 0x20
  let inner := ((t.dropWhile outer).reverse.dropWhile outer).reverse
  inner.filter fun c => c != '\t' && c != '\n' && c != '\r'

/-- Whether a character may stand in a scheme. -/
def inScheme (c : Char) : Bool := c.isAlphanum || c = '+' || c = '-' || c = '.'

/-- The scheme and what follows its colon. -/
def splitScheme? (t : Text) : Option (Scheme × Text) :=
  match t.takeWhile inScheme, t.dropWhile inScheme with
  | c :: name, ':' :: rest =>
    if c.isAlpha then some (.ofName ((c :: name).map Char.toLower), rest) else none
  | _, _ => none

/-! ## Authority -/

/-- What stands before and after the last `@`, if there is one. -/
def splitLastAt? (t : Text) : Option (Text × Text) :=
  match t with
  | [] => none
  | c :: t =>
    match splitLastAt? t with
    | some (a, b) => some (c :: a, b)
    | none => if c = '@' then some ([], t) else none

/-- The user name and the password of the part before the last `@`. -/
def credentials (t : Text) : Text × Text :=
  let inUser (c : Char) : Bool := c != ':'
  (Percent.encode Percent.userinfo (t.takeWhile inUser),
    Percent.encode Percent.userinfo ((t.dropWhile inUser).drop 1))

/-- The host and what follows it.  A colon in brackets belongs to the host. -/
def splitHost (inside : Bool) : Text → Text × Text
  | [] => ([], [])
  | c :: t =>
    if c = ':' ∧ !inside then ([], c :: t)
    else
      let (host, rest) := splitHost (if c = '[' then true else if c = ']' then false else inside) t
      (c :: host, rest)

/-- Read a port, which is absent if there are no digits or if it is the default one.  Its value is
limited as its digits are read, so leading zeros do not matter. -/
def readPort (s : Scheme) (t : Text) : Except UrlError (Option UInt16) :=
  if t = [] then .ok none
  else
    match (Numeral.bare? 10 t).filter (· < Numeral.limit16) with
    | none => .error .invalidPort
    | some n =>
      .ok (if defaultPort? s.name = some (UInt16.ofNat n) then none else some (UInt16.ofNat n))

/-- The digits of a port and what follows them.  A backslash ends a port in every scheme. -/
def splitPort (t : Text) : Text × Text :=
  let ends (c : Char) : Bool := c = '/' || c = '\\' || c = '?' || c = '#'
  (t.takeWhile (!ends ·), t.dropWhile (!ends ·))

/-- What stands in front of the path. -/
structure Authority where
  username : Text
  password : Text
  host : Host
  port : Option UInt16

/-- Read the authority of a scheme other than `file`, and give what follows it. -/
def authority (s : Scheme) (t : Text) : Except UrlError (Authority × Text) := do
  let front := t.takeWhile (!s.endsAuthority ·)
  let back := t.dropWhile (!s.endsAuthority ·)
  let (user, server) := (splitLastAt? front).getD ([], front)
  if user = [] ∧ server = [] ∧ front ≠ [] ∧ back ≠ [] then throw .emptyHost
  let (username, password) := credentials user
  let (hostText, afterHost) := splitHost false server
  if s.isSpecial ∧ hostText = [] then throw .emptyHost
  let host ← if s.isSpecial then Host.special hostText else Host.general hostText
  if host = .empty ∧ afterHost.head? = some ':' then throw .emptyHost
  let (digits, tail) := splitPort (afterHost.drop 1)
  let number ← readPort s digits
  if host = .empty ∧ (username ≠ [] ∨ password ≠ []) then throw .emptyHost
  return ({ username, password, host, port := number }, tail ++ back)

/-! ## Path -/

def isDot (s : Text) : Bool := ["." , "%2e"].any (s.map Char.toLower == ·.toList)

/-- Whether a segment stands for the parent directory. -/
def isDotDot (s : Text) : Bool :=
  ["..", ".%2e", "%2e.", "%2e%2e"].any (s.map Char.toLower == ·.toList)

/-- Whether a segment is a drive letter, which is kept at the front of a file path. -/
def isDrive (marks : Text) (s : Text) : Bool :=
  match s with
  | [c, d] => c.isAlpha && marks.contains d
  | _ => false

/-- The path without its last segment.  A drive letter at the front of a file path stays. -/
def shorten (s : Scheme) (done : List Text) : List Text :=
  match done with
  | [only] => if s.isFile && isDrive [':'] only then [only] else []
  | _ => done.dropLast

/-- Add a segment to a path.  `last` says whether no slash follows it. -/
def addSegment (s : Scheme) (done : List Text) (segment : Text) (last : Bool) : List Text :=
  if isDotDot segment then shorten s done ++ if last then [[]] else []
  else if isDot segment then done ++ if last then [[]] else []
  else if s.isFile && done = [] && isDrive [':', '|'] segment then
    [[segment.headD 'c', ':']]
  else done ++ [Percent.encode Percent.path segment]

/-- Add all segments to a path. -/
def addSegments (s : Scheme) (done : List Text) : List Text → List Text
  | [] => done
  | segment :: rest => addSegments s (addSegment s done segment rest.isEmpty) rest

def cutSegments (s : Scheme) (t : Text) : List Text :=
  Text.split '/' (t.map fun c => if s.isSlash c then '/' else c)

/-- The path of a text whose first slash has been read.  A file path starts with no empty segment
unless it has no other. -/
def segmentPath (s : Scheme) (t : Text) : Path :=
  let ss := addSegments s [] (cutSegments s t)
  if s.isFile then
    let kept := ss.dropWhile (· == [])
    .segments (if kept = [] then [[]] else kept)
  else .segments ss

/-- The path that follows an authority.  Only a scheme that is not special may have none. -/
def pathAfterAuthority (s : Scheme) (t : Text) : Path :=
  match t with
  | c :: rest => if s.isSlash c then segmentPath s rest else segmentPath s t
  | [] => if s.isSpecial then segmentPath s [] else .segments []

/-! ## Query, fragment and the whole -/

/-- The path, the query and the fragment of what is left. -/
def splitTail (t : Text) : Text × Option Text × Option Text :=
  let (front, fragment) := match Text.splitOnce? '#' t with
    | some (a, b) => (a, some b)
    | none => (t, none)
  match Text.splitOnce? '?' front with
  | some (a, b) => (a, some b, fragment)
  | none => (front, none, fragment)

def withTail (s : Scheme) (query fragment : Option Text) (u : Url) : Url :=
  { u with
    query := query.map
      (Percent.encode (if s.isSpecial then Percent.specialQuery else Percent.query))
    fragment := fragment.map (Percent.encode Percent.fragment) }

/-- Read what follows the slashes in front of an authority. -/
def afterSlashes (s : Scheme) (t : Text) : Except UrlError Url := do
  let (a, rest) ← authority s t
  let (path, query, fragment) := splitTail rest
  return withTail s query fragment
    { scheme := s.name, username := a.username, password := a.password, host := some a.host
      port := a.port, path := pathAfterAuthority s path }

/-- Read what follows the two slashes of a file URL.  The host `localhost` counts as none, and so
does any host in front of a drive letter. -/
def fileHost (s : Scheme) (t : Text) : Except UrlError Url := do
  let front := t.takeWhile (!s.endsAuthority ·)
  let back := t.dropWhile (!s.endsAuthority ·)
  let drive := isDrive [':', '|'] front
  let host ← if front = [] ∨ drive then pure .empty else Host.special front
  let host := if host = .domain "localhost".toList then .empty else host
  let (path, query, fragment) := splitTail (if drive then t else back)
  let path := pathAfterAuthority s path
  let startsWithDrive := match path with
    | .segments (first :: _) => isDrive [':'] first
    | _ => false
  return withTail s query fragment
    { scheme := s.name, host := some (if startsWithDrive then .empty else host), path }

/-- Read what follows the colon of a file URL. -/
def file (s : Scheme) (t : Text) : Except UrlError Url :=
  let plain (t : Text) : Url :=
    let (path, query, fragment) := splitTail t
    withTail s query fragment
      { scheme := s.name, host := some .empty, path := pathAfterAuthority s path }
  match t with
  | c :: d :: rest => if s.isSlash c && s.isSlash d then fileHost s rest else .ok (plain t)
  | _ => .ok (plain t)

/-- Read what follows the colon of a scheme that is not special. -/
def general (s : Scheme) (t : Text) : Except UrlError Url :=
  match t with
  | '/' :: '/' :: rest => afterSlashes s rest
  | '/' :: rest =>
    let (path, query, fragment) := splitTail rest
    .ok (withTail s query fragment { scheme := s.name, path := segmentPath s path })
  | _ =>
    let (path, query, fragment) := splitTail t
    .ok (withTail s query fragment
      { scheme := s.name, path := .plain (Percent.encode Percent.controls path) })

/-- Read an absolute URL. -/
def parse (t : Text) : Except UrlError Url :=
  match splitScheme? (significant t) with
  | none => .error .relativeWithoutBase
  | some (s, rest) =>
    if s.isFile then file s rest
    else if s.isSpecial then afterSlashes s (rest.dropWhile s.isSlash)
    else general s rest

end Gateway.Url
