import Gateway.Text.Ascii
import Gateway.Text.Utf8
import Gateway.Yaml.Source

/-!
# Tags, anchors and directives

A tag is written in full between angle brackets, or as a handle and a suffix.  The handle stands for
the front of the tag, and directives in front of a document may say which.  A suffix may hold bytes
that are escaped by `%` and two hexadecimal digits, as long as they could be UTF-8 by their first
bits.  Since these bytes need not be text, a tag is kept as bytes.

A NUL byte ends a tag, whatever follows it.
-/

namespace Gateway.Yaml

abbrev Tag := Bytes

/-- A tag as it is written. -/
structure ShortTag where
  /-- The handle, which is empty if the tag is written in full. -/
  handle : Text
  suffix : Bytes
deriving DecidableEq, Repr

/-- What a line that starts with `%` says. -/
inductive Directive where
  /-- The version of the language. -/
  | version (major minor : Nat)
  /-- What a handle stands for. -/
  | handle (name : Text) (front : Bytes)
deriving DecidableEq, Repr

namespace Tag

/-! ## Suffixes -/

/-- Whether a character may stand for itself in a suffix.  More may in a tag that is written in
full. -/
def inSuffix (full : Bool) (c : Char) : Bool :=
  isNameChar c || ";/?:@&=+$.!~*'()".toList.contains c || (full && [',', '[', ']'].contains c)

/-- The number of bytes that are missing of a character after an escaped byte, if that byte may
stand there. -/
def owedAfter? (owed octet : Nat) : Option Nat :=
  if owed = 0 then
    if octet < 0x80 then some 0
    else if octet < 0xC0 then none
    else if octet < 0xE0 then some 1
    else if octet < 0xF0 then some 2
    else if octet < 0xF8 then some 3
    else none
  else if 0x80 ≤ octet ∧ octet < 0xC0 then some (owed - 1)
  else none

/-- What is left to read of an escaped byte. -/
inductive Mode where
  /-- Nothing. -/
  | plain
  | two
  /-- One digit, after a digit of value `high`. -/
  | one (high : Nat)
deriving DecidableEq, Repr

/-- The bytes of a suffix and what follows it.  `owed` bytes are missing of a character. -/
def suffix (full : Bool) : Mode → Nat → Text → Option (Bytes × Text)
  | mode, owed, [] => if mode = .plain ∧ owed = 0 then some ([], []) else none
  | .plain, owed, c :: t =>
    if c = '%' then suffix full .two owed t
    else if owed ≠ 0 then none
    else if inSuffix full c then
      (suffix full .plain 0 t).map fun (bytes, rest) => (Utf8.encode [c] ++ bytes, rest)
    else some ([], c :: t)
  | .two, owed, c :: t => do suffix full (.one (← Text.hexValue? c)) owed t
  | .one high, owed, c :: t => do
    let octet := high * 16 + (← Text.hexValue? c)
    let (bytes, rest) ← suffix full .plain (← owedAfter? owed octet) t
    return (UInt8.ofNat octet :: bytes, rest)

/-- The bytes of a suffix that is not empty, up to a NUL, and what follows it. -/
def suffix? (full : Bool) (t : Text) : Option (Bytes × Text) :=
  match suffix full .plain 0 t with
  | some (b :: bytes, rest) => some ((b :: bytes).takeWhile (· != 0), rest)
  | _ => none

/-! ## Handles and tags -/

/-- The handle of a tag that starts with no other. -/
def primary : Text := ['!']

/-- A handle whose first `!` has been read, without that, and what follows it.  A last `!` belongs
to it. -/
def handleTail (t : Text) : Text × Text :=
  let name := t.takeWhile isNameChar
  match t.dropWhile isNameChar with
  | '!' :: rest => (name ++ ['!'], rest)
  | rest => (name, rest)

/-- A tag whose first `!` has been read, and what follows it.  A lone `!` is a tag in full. -/
def short? (t : Text) : Option (ShortTag × Text) :=
  match t with
  | '<' :: t => do
    let (bytes, rest) ← suffix? true t
    if rest.head? = some '>' then some (⟨[], bytes⟩, rest.drop 1) else none
  | t => do
    let (name, rest) := handleTail t
    if name.getLast? = some '!' then
      let (bytes, rest) ← suffix? false rest
      return (⟨'!' :: name, bytes⟩, rest)
    else
      let (bytes, rest) ← suffix false .plain 0 rest
      match (Utf8.encode name ++ bytes).takeWhile (· != 0) with
      | [] => return (⟨[], Utf8.encode primary⟩, rest)
      | b :: bytes => return (⟨primary, b :: bytes⟩, rest)

/-- Read a tag whose first `!` has been read.  A gap must follow it, or a comma in a flow
collection. -/
def read? (inFlow : Bool) (t : Text) : Option (ShortTag × Text) :=
  (short? t).filter fun r => atGap r.2 || (inFlow && r.2.head? == some ',')

end Tag

/-! ## Anchors and directives -/

/-- Read the name of an anchor, and what follows it. -/
def anchor? (t : Text) : Option (Text × Text) :=
  let rest := t.dropWhile isNameChar
  if t.takeWhile isNameChar ≠ [] ∧
      (atGap rest || rest.head?.any ['?', ':', ',', ']', '}', '%', '@', '\x60'].contains) then
    some (t.takeWhile isNameChar, rest)
  else none

namespace Directive

/-- Read a number of at most nine digits. -/
def number? (t : Text) : Option (Nat × Text) :=
  let digits := t.takeWhile Char.isDigit
  if digits = [] ∨ 9 < digits.length then none
  else some (digits.foldl (fun n c => 10 * n + (c.toNat - 48)) 0, t.dropWhile Char.isDigit)

/-- Read the value of a version directive. -/
def version? (t : Text) : Option (Directive × Text) := do
  let (major, t) ← number? t
  match t with
  | '.' :: t =>
    let (minor, t) ← number? t
    return (.version major minor, t)
  | _ => none

/-- Read the value of a directive for a handle. -/
def handle? (t : Text) : Option (Directive × Text) := do
  match t with
  | '!' :: t =>
    let (name, t) := Tag.handleTail t
    if name ≠ [] ∧ name.getLast? ≠ some '!' then none
    else if !t.head?.any isBlank then none
    else
      let (front, t) ← Tag.suffix? true (t.dropWhile isBlank)
      if atGap t then return (.handle ('!' :: name) front, t) else none
  | _ => none

/-- Read a directive whose `%` has been read, up to the end of its line. -/
def read? (t : Text) : Option (Directive × Text) := do
  let name := t.takeWhile isNameChar
  let rest := t.dropWhile isNameChar
  if !atGap rest then none
  else
    let value := rest.dropWhile isBlank
    let (directive, rest) ←
      if name = "YAML".toList then version? value
      else if name = "TAG".toList then handle? value
      else none
    let rest := rest.dropWhile isBlank
    let rest := if rest.head? = some '#' then rest.dropWhile (!isBreak ·) else rest
    if atLineEnd rest then return (directive, rest) else none

end Directive

/-! ## Tests -/

example : Tag.read? false "!a%21 x".toList
    = some (⟨['!', '!'], Utf8.encode "a!".toList⟩, " x".toList) := by decide
example : Tag.read? false "<a,b>".toList = some (⟨[], Utf8.encode "a,b".toList⟩, []) := by decide
example : Tag.read? false " x".toList = some (⟨[], [33]⟩, " x".toList) := by decide
example : Directive.read? "YAML 1.2 # c\nx".toList = some (.version 1 2, "\nx".toList) := by decide

end Gateway.Yaml
