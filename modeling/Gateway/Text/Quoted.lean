import Gateway.Unicode.Printable

/-!
# Quoted text

Text from outside is shown in quotation marks in messages, so that its ends and its invisible
characters can be seen.  The quotation mark, the backslash and the common control characters have
short escapes.  Any other character that is not printable, or that extends the one before it, is
written as its code point in braces.
-/

namespace Gateway.Text

/-- The escape of a code point in hexadecimal. -/
def codeEscape (c : Char) : Text :=
  "\\u\x7b".toList ++ Nat.toDigits 16 c.toNat ++ "\x7d".toList

/-- A character as it is shown between quotation marks. -/
def quotedChar (c : Char) : Text :=
  match c with
  | '"' => ['\\', '"']
  | '\\' => ['\\', '\\']
  | '\n' => ['\\', 'n']
  | '\t' => ['\\', 't']
  | '\r' => ['\\', 'r']
  | '\x00' => ['\\', '0']
  | c => if Unicode.isPrintable c && !Unicode.isExtender c then [c] else codeEscape c

/-- A text between quotation marks. -/
def quoted (t : Text) : Text := '"' :: t.flatMap quotedChar ++ ['"']

end Gateway.Text
