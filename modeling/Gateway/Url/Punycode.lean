import Gateway.Text.Basic

/-!
# Punycode

A label with characters outside ASCII is written in ASCII: its ASCII characters, a hyphen if there
are any, and then the others.  They are taken in ascending order, and each is written as the
distance from the last one, in a numeral of variable length in base 36 whose digits are weighed by
an adapting bias.

`encode` cannot fail.  `decode?` refuses what is no such numeral and what leads out of the range of
characters.
-/

namespace Gateway.Url.Punycode

/-- The digit of a value below 36. -/
def digit (n : Nat) : Char := if n < 26 then Char.ofNat (97 + n) else Char.ofNat (22 + n)

def digitValue? (c : Char) : Option Nat :=
  if 'a' ≤ c ∧ c ≤ 'z' then some (c.toNat - 97)
  else if 'A' ≤ c ∧ c ≤ 'Z' then some (c.toNat - 65)
  else if '0' ≤ c ∧ c ≤ '9' then some (c.toNat - 22)
  else none

/-- The threshold of the digit at weight step `k`. -/
def threshold (k bias : Nat) : Nat := if k ≤ bias then 1 else min (k - bias) 26

/-- The bias after a distance, for the count of characters written so far. -/
def adapt (delta count : Nat) (first : Bool) : Nat :=
  let scaled := if first then delta / 700 else delta / 2
  shrink 20 0 (scaled + scaled / count)
where
  /-- Divide by 35 until the distance is small, counting the steps. -/
  shrink : Nat → Nat → Nat → Nat
    | 0, k, delta => k + 36 * delta / (delta + 38)
    | fuel + 1, k, delta =>
      if 455 < delta then shrink fuel (k + 36) (delta / 35) else k + 36 * delta / (delta + 38)

/-- The first character after ASCII. -/
def firstCode : Nat := 128

/-- The bias before the first distance. -/
def firstBias : Nat := 72

/-! ## Writing -/

def numeral (bias : Nat) : Nat → Nat → Nat → Text
  | 0, _, _ => []
  | fuel + 1, k, q =>
    let t := threshold k bias
    if q < t then [digit q]
    else digit (t + (q - t) % (36 - t)) :: numeral bias fuel (k + 36) ((q - t) / (36 - t))

/-- What has been written so far. -/
structure Writer where
  /-- The characters written, last first. -/
  out : Text
  /-- The distance since the last one. -/
  delta : Nat
  bias : Nat
  /-- How many characters of the label are written. -/
  count : Nat

/-- Pass over one character of the label while writing all characters of code `code`. -/
def Writer.pass (basic code : Nat) (w : Writer) (c : Char) : Writer :=
  if c.toNat < code then { w with delta := w.delta + 1 }
  else if c.toNat = code then
    { out := (numeral w.bias 64 36 w.delta).reverse ++ w.out
      delta := 0
      bias := adapt w.delta (w.count + 1) (w.count == basic)
      count := w.count + 1 }
  else w

/-- Write the characters of the codes in a list, in order, from the code `code` on. -/
def Writer.codes (label : Text) (basic : Nat) : List Nat → Nat → Writer → Writer
  | [], _, w => w
  | m :: ms, code, w =>
    let w := { w with delta := w.delta + (m - code) * (w.count + 1) }
    let w := label.foldl (Writer.pass basic m) w
    Writer.codes label basic ms (m + 1) { w with delta := w.delta + 1 }

/-- The written form of a label. -/
def encode (label : Text) : Text :=
  let ascii := label.filter fun c => c.toNat < firstCode
  let others := (label.filter fun c => firstCode ≤ c.toNat).map Char.toNat
  let start := ascii ++ if ascii = [] then [] else ['-']
  let w := Writer.codes label ascii.length (others.mergeSort.eraseDups) firstCode
    { out := start.reverse, delta := 0, bias := firstBias, count := ascii.length }
  w.out.reverse

/-! ## Reading -/

/-- Read one numeral: the position after it, and what follows. -/
def readNumeral (bias : Nat) : Nat → Nat → Nat → Text → Option (Nat × Text)
  | _, _, _, [] => none
  | k, weight, i, c :: t => do
    let d ← digitValue? c
    let i := i + d * weight
    if 4294967295 < i then none
    else if d < threshold k bias then some (i, t)
    else readNumeral bias (k + 36) (weight * (36 - threshold k bias)) i t

def insertAt (c : Char) : Nat → Text → Text
  | 0, t => c :: t
  | _, [] => [c]
  | n + 1, d :: t => d :: insertAt c n t

/-- Read the numerals of all characters outside ASCII.  `out` is the label so far, and `i` the
position at which the next character may stand. -/
def readAll : Nat → Nat → Nat → Nat → Text → Text → Option Text
  | _, _, _, _, out, [] => some out
  | 0, _, _, _, _, _ :: _ => none
  | fuel + 1, code, bias, i, out, t => do
    let (next, rest) ← readNumeral bias 36 1 i t
    let size := out.length + 1
    let code := code + next / size
    if code < 0x110000 ∧ ¬ (0xD800 ≤ code ∧ code ≤ 0xDFFF) then
      let position := next % size
      readAll fuel code (adapt (next - i) size (i == 0)) (position + 1)
        (insertAt (Char.ofNat code) position out) rest
    else none

/-- The label of a written form.  A hyphen in front of everything separates nothing and is no
digit. -/
def decode? (t : Text) : Option Text :=
  let tail := (t.reverse.takeWhile (· != '-')).reverse
  let ascii := t.take (t.length - tail.length - 1)
  if tail.length + 1 = t.length ∨ ascii.any fun c => firstCode ≤ c.toNat then none
  else readAll tail.length firstCode firstBias 0 ascii tail

/-! ## Tests -/

example : (encode ['b', 'ü', 'c', 'h', 'e', 'r']) = "bcher-kva".toList := by decide +kernel
example : decode? "bcher-kva".toList = some ['b', 'ü', 'c', 'h', 'e', 'r'] := by decide +kernel

end Gateway.Url.Punycode
