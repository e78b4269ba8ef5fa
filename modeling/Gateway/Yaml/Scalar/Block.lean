import Gateway.Yaml.Source

/-!
# Block scalars

A block scalar starts with `|` or `>` and a header, which may give its indentation and what
becomes of the line ends behind it.  Its lines follow, without their indentation.  If the header
does not give the indentation, that of the first line that is not empty counts, or more if an
empty line in front of it has more.

The lines of a literal scalar, with `|`, stay as they are.  Those of a folded one, with `>`, are
joined by spaces, unless a line that starts with a blank is next to the line end.
-/

namespace Gateway.Yaml.Block

/-- What becomes of the line ends behind the last line. -/
inductive Chomping where
  | strip
  | clip
  | keep
deriving DecidableEq, Repr

/-- What the header says. -/
structure Header where
  /-- Whether lines are joined. -/
  folds : Bool
  /-- What becomes of the line ends behind the last line. -/
  chomping : Chomping := .clip
  /-- The indentation relative to that of the surrounding block, if it is given. -/
  increment : Option Nat := none
deriving DecidableEq, Repr

def Chomping.ofChar? (c : Char) : Option Chomping :=
  if c = '+' then some .keep else if c = '-' then some .strip else none

/-- Read the indicators of a header, each kind at most once.  The indentation must not be 0. -/
def indicators (h : Header) : Text → Option (Header × Text)
  | [] => some (h, [])
  | c :: t =>
    match Chomping.ofChar? c with
    | some chomping =>
      if h.chomping = .clip then indicators { h with chomping } t else some (h, c :: t)
    | none =>
      if c.isDigit && h.increment.isNone then
        if c = '0' then none else indicators { h with increment := some (c.toNat - 48) } t
      else some (h, c :: t)

/-- What follows the line of a header, of which nothing but a comment may be left. -/
def endHeader (t : Text) : Option Text :=
  let t := t.dropWhile isBlank
  let t := if t.head? = some '#' then t.dropWhile (!isBreak ·) else t
  if atLineEnd t then some (t.drop 1) else none

/-- The greatest number of spaces in front of the first line that is not empty or of an empty line
before it.  No tab may follow these spaces. -/
def detect (most spaces : Nat) : Text → Option Nat
  | [] => some (max most spaces)
  | c :: t =>
    if c = ' ' then detect most (spaces + 1) t
    else if isBreak c then detect (max most spaces) 0 t
    else if c = '\t' then none
    else some (max most spaces)

/-- What has been read but not yet written. -/
structure Pending where
  /-- The line end behind the last line, if there is a last line and it has one. -/
  lineEnd : Text := []
  /-- The ends of the empty lines behind it. -/
  emptyEnds : Text := []
  /-- Whether the last line starts with a blank. -/
  afterBlank : Bool := false
deriving DecidableEq, Repr

/-- What is written between the last line and a line that starts with `c`. -/
def Pending.between (q : Pending) (folds : Bool) (c : Char) : Text :=
  if folds && q.lineEnd == ['\n'] && !q.afterBlank && !isBlank c then
    if q.emptyEnds = [] then [' '] else q.emptyEnds
  else q.lineEnd ++ q.emptyEnds

/-- What is written behind the last line. -/
def Pending.tail (q : Pending) : Chomping → Text
  | .strip => []
  | .clip => q.lineEnd
  | .keep => q.lineEnd ++ q.emptyEnds

/-- Read lines with an indentation of `indent`.  `inside` says whether the text of a line is being
read.  A tab may not stand in the indentation. -/
def lines (h : Header) (indent : Nat) (inside : Bool) (q : Pending) (p : Position) :
    Text → Option (Lexeme Text)
  | [] => some ⟨q.tail h.chomping, p, []⟩
  | c :: t =>
    if inside then
      if isBreak c then lines h indent false { q with lineEnd := [c] } p.newline t
      else (lines h indent true q p.next t).map (·.after [c])
    else if isBreak c then
      lines h indent false { q with emptyEnds := q.emptyEnds ++ [c] } p.newline t
    else if p.column < indent then
      if c = ' ' then lines h indent false q p.next t
      else if c = '\t' then none
      else some ⟨q.tail h.chomping, p, c :: t⟩
    else
      (lines h indent true { afterBlank := isBlank c } p.next t).map
        (·.after (q.between h.folds c ++ [c]))

/-- Read a block scalar whose `|` or `>` has been read.  Its lines are indented at least to the
column `margin`. -/
def read (folds : Bool) (margin : Nat) (p : Position) (t : Text) : Option (Lexeme Text) := do
  let (h, t) ← indicators { folds } t
  let t ← endHeader t
  let indent ← match h.increment with
    | some n => some (margin - 1 + n)
    | none => (detect 0 0 t).map (max · (max margin 1))
  lines h indent false {} p.newline t

/-! ## Tests -/

example : (read true 1 {} "-\n  a\n  b\n\n   c\n  d\ne".toList).map (·.value)
    = some "a b\n\n c\nd".toList := by decide
example : (read false 0 {} "2+\n   a\n\n".toList).map (·.value) = some " a\n\n".toList := by decide

end Gateway.Yaml.Block
