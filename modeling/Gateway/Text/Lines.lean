import Gateway.Text.Basic

/-!
# Lines and fields

`lines` cuts text at line feeds.  A carriage return right before a line feed belongs to the line's
end; any other one belongs to the line.  What follows the last line feed is a line of its own if it
is not empty.  `splitOnce?` cuts at the first occurrence of a character.
-/

namespace Gateway.Text

/-- Put a character in front of the first line. -/
def consLine (c : Char) : List Text → List Text
  | [] => [[c]]
  | line :: rest => (c :: line) :: rest

/-- The lines of a text, without their ends. -/
def lines : Text → List Text
  | [] => []
  | c :: t =>
    if c = '\n' then [] :: lines t
    else if c = '\r' ∧ t.head? = some '\n' then lines t
    else consLine c (lines t)

/-- What stands before and after the first `sep`, if there is one. -/
def splitOnce? (sep : Char) : Text → Option (Text × Text)
  | [] => none
  | c :: t => if c = sep then some ([], t) else (splitOnce? sep t).map fun (a, b) => (c :: a, b)

/-- The parts between the occurrences of `sep`.  There is always at least one. -/
def split (sep : Char) : Text → List Text
  | [] => [[]]
  | c :: t => if c = sep then [] :: split sep t else consLine c (split sep t)

/-! ## Tests -/

example : lines "a\r\nb\r\r\n\nc\r".toList
    = ["a".toList, "b\r".toList, [], "c\r".toList] := by decide
example : lines "a\n".toList = ["a".toList] := by decide
example : splitOnce? ':' "k: v:w".toList = some ("k".toList, " v:w".toList) := by decide
example : split '/' "/a//b".toList = [[], "a".toList, [], "b".toList] := by decide

end Gateway.Text
