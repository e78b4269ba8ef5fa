import Gateway.Text.Basic

/-!
# Paths

A path is read as the segments between its slashes.  Some segments are not names: an empty one and
`.` lead nowhere, and `..` leads to the parent.

The file name of a path is its last segment that leads somewhere, unless that is `..`.  The
extension of a name is what follows its last dot, if something precedes that dot.
-/

namespace Gateway.Files

/-- The byte between two segments. -/
def slash : UInt8 := 47

/-- The segments of a path between its slashes. -/
def segments : Bytes → List Bytes
  | [] => [[]]
  | b :: rest =>
    match segments rest with
    | [] => [[b]]
    | s :: ss => if b = slash then [] :: s :: ss else (b :: s) :: ss

/-- Whether a path starts at the root. -/
def isAbsolute (path : Bytes) : Bool := path.head? == some slash

/-- The segment that leads nowhere. -/
def dot : Bytes := [46]

/-- The segment that leads to the parent. -/
def dotDot : Bytes := [46, 46]

def fileName? (path : Bytes) : Option Bytes :=
  ((segments path).filter fun s => s ≠ [] ∧ s ≠ dot).getLast?.filter (· ≠ dotDot)

def extension? (name : Bytes) : Option Bytes :=
  let tail := (name.reverse.takeWhile (· != 46)).reverse
  if tail.length + 1 < name.length then some tail else none

end Gateway.Files
