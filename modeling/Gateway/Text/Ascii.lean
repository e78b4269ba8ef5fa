import Gateway.Text.Basic

/-!
# ASCII letters

Names of headers and hosts are compared without regard to the case of ASCII letters.  Letters
outside ASCII keep their case.
-/

namespace Gateway.Text

/-- Whether two texts differ at most in the case of ASCII letters. -/
def sameIgnoringCase (s t : Text) : Bool := s.map Char.toLower == t.map Char.toLower

/-- The value of a hexadecimal digit. -/
def hexValue? (c : Char) : Option Nat :=
  if '0' ≤ c ∧ c ≤ '9' then some (c.toNat - 48)
  else if 'a' ≤ c ∧ c ≤ 'f' then some (c.toNat - 87)
  else if 'A' ≤ c ∧ c ≤ 'F' then some (c.toNat - 55)
  else none

/-! ## Tests -/

example : sameIgnoringCase "Content-LENGTH".toList "content-length".toList = true := by decide
example : sameIgnoringCase "É".toList "é".toList = false := by decide

end Gateway.Text
