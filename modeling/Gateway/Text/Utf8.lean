import Gateway.Text.Basic

/-!
# UTF-8

`encode` writes text as bytes.  Two readers go back.  `decode?` is strict and refuses bytes that
are not UTF-8.  `decodeLossy` never fails: it writes U+FFFD for each maximal part that is the start
of no character.

Both readers run one machine over the bytes.  Its `State` says what the bytes of an unfinished
character have fixed: the value so far, how many bytes are owed, and the range of the next one.  The
range is narrower than that of other continuation bytes after `E0`, `ED`, `F0` and `F4`, which
keeps out overlong forms, surrogates and values above U+10FFFF.  A byte outside the range ends the
unfinished part, which counts as one invalid part, and is then read as the start of a character.
-/

namespace Gateway.Utf8

/-- The bytes of a text. -/
def encode (t : Text) : Bytes := t.flatMap String.utf8EncodeChar

/-- What the reader knows between two bytes. -/
inductive State where
  /-- No character is open. -/
  | boundary
  /-- A character is open.  `value` is made of its bytes so far, `owed + 1` bytes are missing, and
  the next one lies between `low` and `high`. -/
  | inside (value owed : Nat) (low high : UInt8)
deriving DecidableEq, Repr

/-- What a byte completes, in order: a character, or `none` for a maximal invalid part. -/
abbrev Pieces := List (Option Char)

/-- Read a byte where a character may start. -/
def start (b : UInt8) : Pieces × State :=
  let v := b.toNat
  if v < 0x80 then ([some (Char.ofNat v)], .boundary)
  else if 0xC2 ≤ v ∧ v ≤ 0xDF then ([], .inside (v - 0xC0) 0 0x80 0xBF)
  else if v = 0xE0 then ([], .inside 0 1 0xA0 0xBF)
  else if v = 0xED then ([], .inside 0xD 1 0x80 0x9F)
  else if 0xE1 ≤ v ∧ v ≤ 0xEF then ([], .inside (v - 0xE0) 1 0x80 0xBF)
  else if v = 0xF0 then ([], .inside 0 2 0x90 0xBF)
  else if 0xF1 ≤ v ∧ v ≤ 0xF3 then ([], .inside (v - 0xF0) 2 0x80 0xBF)
  else if v = 0xF4 then ([], .inside 4 2 0x80 0x8F)
  else ([none], .boundary)

/-- Read one byte. -/
def step : State → UInt8 → Pieces × State
  | .boundary, b => start b
  | .inside value owed low high, b =>
    if low ≤ b ∧ b ≤ high then
      let value := value * 64 + (b.toNat - 0x80)
      match owed with
      | 0 => ([some (Char.ofNat value)], .boundary)
      | owed + 1 => ([], .inside value owed 0x80 0xBF)
    else
      let (pieces, state) := start b
      (none :: pieces, state)

/-- The pieces of the bytes from a state on.  A character left open at the end is invalid. -/
def pieces : State → Bytes → Pieces
  | .boundary, [] => []
  | .inside .., [] => [none]
  | s, b :: rest => (step s b).1 ++ pieces (step s b).2 rest

/-- The text that the bytes are the UTF-8 form of, if they are one. -/
def decode? (bytes : Bytes) : Option Text := (pieces .boundary bytes).mapM id

/-- The text of the bytes, with U+FFFD for each maximal invalid part. -/
def decodeLossy (bytes : Bytes) : Text :=
  (pieces .boundary bytes).map fun piece => piece.getD '\uFFFD'

/-! ## Tests -/

example : decode? [0x68, 0xC3, 0xA9] = some ['h', 'é'] := by decide
/-- An overlong form, a surrogate and a value above U+10FFFF are refused. -/
example : decode? [0xC0, 0xAF] = none ∧ decode? [0xED, 0xA0, 0x80] = none
    ∧ decode? [0xF4, 0x90, 0x80, 0x80] = none := by decide
/-- `E2 82` starts a character and is one invalid part; each stray byte is one of its own. -/
example : decodeLossy [0xE2, 0x82, 0x41, 0x80, 0xFF] = ['\uFFFD', 'A', '\uFFFD', '\uFFFD'] := by
  decide

end Gateway.Utf8
