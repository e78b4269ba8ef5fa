import Gateway.Yaml.Source

/-!
# Gaps between words

Between two words of a plain or quoted scalar stands a gap of blanks and line ends.  A gap inside
one line is kept as it is.  A gap that spans lines is folded: its blanks do not count, a single
line feed becomes a space, and of several line ends the first is dropped.  A line or paragraph
separator in first place is kept.

A line end that has been escaped counts for nothing, and the line ends after it are all kept.
-/

namespace Gateway.Yaml

/-- What stands between two words. -/
structure Gap where
  /-- Whether an escaped line end is in front. -/
  isEscaped : Bool := false
  /-- The blanks before the first line end. -/
  blanks : Text := []
  breaks : Text := []
deriving DecidableEq, Repr

namespace Gap

/-- Whether the gap spans lines. -/
def isBroken (g : Gap) : Bool := g.isEscaped || g.breaks != []

def isEmpty (g : Gap) : Bool := !g.isBroken && g.blanks == []

def addBlank (g : Gap) (c : Char) : Gap :=
  if g.isBroken then g else { g with blanks := g.blanks ++ [c] }

/-- The gap with a line end more. -/
def addBreak (g : Gap) (c : Char) : Gap :=
  { g with blanks := [], breaks := g.breaks ++ [c] }

/-- What the gap means in a scalar. -/
def text (g : Gap) : Text :=
  if g.isEscaped then g.breaks
  else
    match g.breaks with
    | [] => g.blanks
    | ['\n'] => [' ']
    | '\n' :: more => more
    | breaks => breaks

end Gap

end Gateway.Yaml
