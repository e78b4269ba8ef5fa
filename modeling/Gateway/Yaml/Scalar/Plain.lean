import Gateway.Yaml.Scalar.Gap

/-!
# Plain scalars

A plain scalar is made of words without quotes.  It ends in front of a colon that a gap follows.
In a flow collection it also ends in front of a bracket, a brace or a comma.  After a gap it ends
in front of a `#`, in front of a word that starts or ends a document, and in a block also in front
of a line that is not indented enough.

The gap behind the last word is read but does not count.
-/

namespace Gateway.Yaml

/-- A plain scalar, and whether the gap behind it spans lines. -/
structure Plain where
  text : Text
  /-- Whether the gap behind it spans lines. -/
  endsLine : Bool
deriving DecidableEq, Repr

namespace Plain

/-- What surrounds a plain scalar. -/
structure Context where
  /-- Whether it is in a flow collection. -/
  inFlow : Bool
  /-- The least column of its further lines. -/
  margin : Nat

/-- Whether a character of a word, followed by `t`, ends the scalar. -/
def Context.ends (k : Context) (c : Char) (t : Text) : Bool :=
  (c = ':' && atGap t) || (k.inFlow && [',', '[', ']', '{', '}'].contains c)

/-- Whether a colon in a flow collection is followed by a character that may not follow it. -/
def Context.misplacedColon (k : Context) (c : Char) (t : Text) : Bool :=
  k.inFlow && c = ':' && t.head?.any [',', '?', '[', ']', '{', '}'].contains

/-- Whether no word of the scalar can start after a gap. -/
def Context.stops (k : Context) (p : Position) (c : Char) (t : Text) : Bool :=
  c = '#' || (p.column = 0 && atMarker (c :: t)) || (!k.inFlow && p.column < k.margin)

/-- Read the rest of a plain scalar after a gap. -/
def readFrom (k : Context) (gap : Gap) (p : Position) : Text → Option (Lexeme Plain)
  | [] => some ⟨⟨[], gap.isBroken⟩, p, []⟩
  | c :: t =>
    if isBreak c then readFrom k (gap.addBreak c) p.newline t
    else if isBlank c then
      if gap.isBroken && c = '\t' && p.column < k.margin then none
      else readFrom k (gap.addBlank c) p.next t
    else if !gap.isEmpty && k.stops p c t then some ⟨⟨[], gap.isBroken⟩, p, c :: t⟩
    else if k.misplacedColon c t then none
    else if k.ends c t then some ⟨⟨[], gap.isBroken⟩, p, c :: t⟩
    else
      (readFrom k {} p.next t).map fun l =>
        { l with value.text := gap.text ++ c :: l.value.text }

def read (k : Context) (p : Position) (t : Text) : Option (Lexeme Plain) := readFrom k {} p t

/-! ## Tests -/

example : (read ⟨false, 1⟩ {} "a b\n\n  c: d".toList).map (·.value.text)
    = some "a b\nc".toList := by decide
example : (read ⟨true, 0⟩ {} "a b, c".toList).map (·.value.text) = some "a b".toList := by decide

end Plain

end Gateway.Yaml
