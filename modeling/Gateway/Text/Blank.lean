import Gateway.Text.Basic

/-!
# Blank characters

The Unicode property White_Space, and what is cut at blanks: the words of a text, and a text
without the blanks at its ends.
-/

namespace Gateway.Text

/-- Whether the character has the property White_Space. -/
def isBlank (c : Char) : Bool :=
  let v := c.toNat
  (9 ≤ v && v ≤ 13) || v == 0x20 || v == 0x85 || v == 0xA0 || v == 0x1680
    || (0x2000 ≤ v && v ≤ 0x200A) || v == 0x2028 || v == 0x2029 || v == 0x202F || v == 0x205F
    || v == 0x3000

/-- A text without the characters at its end that satisfy `p`. -/
def dropEndWhile (p : Char → Bool) (t : Text) : Text := (t.reverse.dropWhile p).reverse

/-- A text without the blanks at both ends. -/
def trim (t : Text) : Text := dropEndWhile isBlank (t.dropWhile isBlank)

/-- Put a character that is not blank in front of a text with its words. -/
def consWord (c : Char) : Text → List Text → List Text
  | d :: _, w :: ws => if isBlank d then [c] :: w :: ws else (c :: w) :: ws
  | _, ws => [c] :: ws

/-- The maximal runs of characters that are not blank. -/
def words : Text → List Text
  | [] => []
  | c :: t => if isBlank c then words t else consWord c t (words t)

/-! ## Tests -/

example : words " GET\t /a  b".toList = ["GET".toList, "/a".toList, "b".toList] := by decide
example : words "  ".toList = [] ∧ words "a ".toList = ["a".toList] := by decide
example : trim "\u00a0 x y\r\n".toList = "x y".toList := by decide

end Gateway.Text
