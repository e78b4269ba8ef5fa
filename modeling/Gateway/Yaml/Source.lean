import Gateway.Text.Basic

/-!
# The text of a YAML stream

A stream is text without control characters.  Before anything else is read, `prepare?` refuses
other characters, drops a byte order mark at the front and writes each line end as one line feed.
The line and paragraph separators also end lines, but they stay what they are, since a scalar that
spans lines keeps them.

A `Position` counts lines and columns.  A mark that has been dropped still takes up a column.
-/

namespace Gateway.Yaml

/-! ## Characters -/

/-- Whether a character may stand in a stream. -/
def isReadable (c : Char) : Bool :=
  c = '\t' || c = '\n' || c = '\r' || c = '\u0085' || (' ' ≤ c && c ≤ '~') ||
    ('\u00A0' ≤ c && c ≤ '\uFFFD') || '\uFFFF' < c

/-- Whether a character is a space or a tab. -/
def isBlank (c : Char) : Bool := c = ' ' || c = '\t'

/-- Whether a character ends a line. -/
def isBreak (c : Char) : Bool := c = '\n' || c = '\u2028' || c = '\u2029'

/-- Whether a character may stand in a name, as of an anchor. -/
def isNameChar (c : Char) : Bool := c.isAlphanum || c = '_' || c = '-'

/-- Whether nothing, a blank or a line end follows. -/
def atGap : Text → Bool
  | [] => true
  | c :: _ => isBlank c || isBreak c

/-- Whether nothing or a line end follows. -/
def atLineEnd : Text → Bool
  | [] => true
  | c :: _ => isBreak c

/-- Whether a word of three equal characters follows, which at the start of a line may start or
end a document. -/
def isMarker (mark : Char) : Text → Bool
  | a :: b :: c :: t => a = mark && b = mark && c = mark && atGap t
  | _ => false

/-- Whether a word that starts or ends a document follows. -/
def atMarker (t : Text) : Bool := isMarker '-' t || isMarker '.' t

/-! ## Positions -/

/-- A place in a stream, counted from 0. -/
structure Position where
  line : Nat := 0
  column : Nat := 0
deriving DecidableEq, Repr

/-- The place some characters on in the same line. -/
def Position.skip (p : Position) (n : Nat) : Position := { p with column := p.column + n }

/-- The place behind one more character of the same line. -/
def Position.next (p : Position) : Position := p.skip 1

/-- The start of the next line. -/
def Position.newline (p : Position) : Position where
  line := p.line + 1

/-- What has been read off the front of a text. -/
structure Lexeme (α : Type) where
  /-- What it means. -/
  value : α
  /-- Where it ends. -/
  stop : Position
  /-- What follows it. -/
  rest : Text

def Lexeme.after (l : Lexeme Text) (front : Text) : Lexeme Text :=
  { l with value := front ++ l.value }

/-! ## Preparation -/

/-- A text with one line feed for each line end that is not a separator.  `afterReturn` says
whether a carriage return is in front, which a line feed belongs to. -/
def unifyBreaks (afterReturn : Bool) : Text → Text
  | [] => []
  | c :: t =>
    if afterReturn && c = '\n' then unifyBreaks false t
    else (if c = '\r' || c = '\u0085' then '\n' else c) :: unifyBreaks (c = '\r') t

/-- The text to read and where it starts, if all of its characters are readable. -/
def prepare? (t : Text) : Option (Position × Text) :=
  if !t.all isReadable then none
  else
    match unifyBreaks false t with
    | '\uFEFF' :: t => some ({ column := 1 }, t)
    | t => some ({}, t)

/-! ## Tests -/

example : (prepare? "a\r\nb\rc".toList).map (·.2) = some "a\nb\nc".toList := by decide
example : prepare? "a\x00".toList = none := by decide
example : atMarker "--- a".toList = true ∧ atMarker "---a".toList = false := by decide

end Gateway.Yaml
