import Gateway.Text.Ascii
import Gateway.Yaml.Scalar.Gap

/-!
# Quoted scalars

Between single quotes a quote is written twice, and nothing else is special.  Between double
quotes a backslash starts an escape: of a character by a letter, by two, four or eight hexadecimal
digits, or of a line end, which then counts for nothing.

In both, gaps that span lines are folded, and no line may start with a word that starts or ends a
document.
-/

namespace Gateway.Yaml.Quoted

/-- Read the rest of a scalar in single quotes after a gap.  `afterQuote` says whether a quote has
just been read. -/
def single (gap : Gap) (afterQuote : Bool) (p : Position) : Text → Option (Lexeme Text)
  | [] => if afterQuote then some ⟨gap.text, p, []⟩ else none
  | c :: t =>
    if afterQuote then
      if c = '\'' then (single {} false p.next t).map (·.after (gap.text ++ ['\'']))
      else some ⟨gap.text, p, c :: t⟩
    else if c = '\'' then single gap true p.next t
    else if isBreak c then single (gap.addBreak c) false p.newline t
    else if isBlank c then single (gap.addBlank c) false p.next t
    else if p.column = 0 && atMarker (c :: t) then none
    else (single {} false p.next t).map (·.after (gap.text ++ [c]))

/-- The character that a letter stands for after a backslash. -/
def escaped? (c : Char) : Option Char :=
  [('0', '\x00'), ('a', '\x07'), ('b', '\x08'), ('t', '\t'), ('\t', '\t'), ('n', '\n'),
    ('v', '\x0B'), ('f', '\x0C'), ('r', '\r'), ('e', '\x1B'), (' ', ' '), ('"', '"'), ('/', '/'),
    ('\\', '\\'), ('N', '\u0085'), ('_', '\u00A0'), ('L', '\u2028'), ('P', '\u2029')].lookup c

/-- The number of hexadecimal digits that follow a letter after a backslash. -/
def digitCount? (c : Char) : Option Nat := [('x', 2), ('u', 4), ('U', 8)].lookup c

/-- What is being read between double quotes. -/
inductive Mode where
  /-- Text, after a gap. -/
  | text (gap : Gap)
  /-- What follows a backslash. -/
  | escape
  /-- The number of a character, of which `owed` digits are missing. -/
  | code (owed value : Nat)
deriving DecidableEq, Repr

/-- Read the rest of a scalar in double quotes. -/
def double : Mode → Position → Text → Option (Lexeme Text)
  | _, _, [] => none
  | .text gap, p, c :: t =>
    if c = '"' then some ⟨gap.text, p.next, t⟩
    else if isBreak c then double (.text (gap.addBreak c)) p.newline t
    else if isBlank c then double (.text (gap.addBlank c)) p.next t
    else if p.column = 0 && atMarker (c :: t) then none
    else if c = '\\' then (double .escape p.next t).map (·.after gap.text)
    else (double (.text {}) p.next t).map (·.after (gap.text ++ [c]))
  | .escape, p, c :: t =>
    if isBreak c then double (.text { isEscaped := true }) p.newline t
    else
      match digitCount? c, escaped? c with
      | some n, _ => double (.code n 0) p.next t
      | none, some d => (double (.text {}) p.next t).map (·.after [d])
      | none, none => none
  | .code owed value, p, c :: t =>
    match Text.hexValue? c with
    | none => none
    | some d =>
      let value := value * 16 + d
      if owed ≠ 1 then double (.code (owed - 1) value) p.next t
      else if value.isValidChar then
        (double (.text {}) p.next t).map (·.after [Char.ofNat value])
      else none

/-- Read a quoted scalar whose opening quote has been read. -/
def read (quote : Char) (p : Position) (t : Text) : Option (Lexeme Text) :=
  if quote = '\'' then single {} false p t else double (.text {}) p t

/-! ## Tests -/

example : (read '\'' {} "it''s \n  b' c".toList).map (·.value) = some "it's b".toList := by decide
example : (read '"' {} "\\u00e9\\n\\\n  a\\x41\"".toList).map (·.value)
    = some "é\naA".toList := by decide
example : (read '"' {} "\\uD800\"".toList).isNone = true := by decide

end Gateway.Yaml.Quoted
