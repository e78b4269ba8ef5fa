import Gateway.Text.Ascii

/-!
# Unsigned numerals

`read? radix limit` reads a numeral in a radix up to sixteen: an optional plus sign, then at least
one digit, of a value below `limit`.  There is no minus sign, no blank and no separator, and leading
zeros are allowed.  `decimal` writes a number without any of these.
-/

namespace Gateway.Numeral

/-- One above the largest 64-bit number. -/
def limit64 : Nat := 18446744073709551616

/-- One above the largest 32-bit number. -/
def limit32 : Nat := 4294967296

/-- One above the largest 16-bit number. -/
def limit16 : Nat := 65536

/-- The value of digits after a number already read, if all are digits of the radix. -/
def digits? (radix : Nat) : Nat → Text → Option Nat
  | n, [] => some n
  | n, c :: t =>
    match Text.hexValue? c with
    | some d => if d < radix then digits? radix (n * radix + d) t else none
    | none => none

/-- The value of one or more digits. -/
def bare? (radix : Nat) : Text → Option Nat
  | [] => none
  | t => digits? radix 0 t

/-- The value of a numeral below the limit. -/
def read? (radix limit : Nat) (t : Text) : Option Nat :=
  (bare? radix (if t.head? = some '+' then t.drop 1 else t)).filter (· < limit)

/-- The decimal numeral of a number. -/
def decimal (n : Nat) : Text := Nat.toDigits 10 n

/-! ## Tests -/

example : read? 10 limit64 "+007".toList = some 7 := by decide
example : read? 10 limit64 "-0".toList = none ∧ read? 10 limit64 "+".toList = none := by decide
example : read? 10 limit64 "18446744073709551615".toList = some 18446744073709551615
    ∧ read? 10 limit64 "18446744073709551616".toList = none := by decide
example : decimal 4096 = "4096".toList := by decide

end Gateway.Numeral
