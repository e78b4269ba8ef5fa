import Gateway.Text.Numeral

/-!
# Tables of code points

A property of characters is written down as a text: rows that are separated by blanks, each a
hexadecimal code point, an equals sign and what holds from that code point on.  A row ends where the
next one starts.  A set of characters is written as ranges, `300-36F` or a single `483`.

`Table.at?` finds the row of a code point by halving.  The rows are in ascending order.
-/

namespace Gateway.Unicode

/-- The runs of characters between blanks and line feeds. -/
def rowsOf (s : String) : Array Text :=
  let push (rows : Array Text) (row : Text) := if row = [] then rows else rows.push row.reverse
  let (rows, row) := s.toList.foldl
    (fun (rows, row) c => if c = ' ' || c = '\n' then (push rows row, []) else (rows, c :: row))
    (#[], [])
  push rows row

/-- The value of a hexadecimal numeral, 0 for anything else. -/
def hex (t : Text) : Nat := (Numeral.bare? 16 t).getD 0

/-- A property of characters: the code points at which its value changes. -/
structure Table (α : Type) where
  /-- The first code point of each row and the value from there on. -/
  rows : Array (Nat × α)

namespace Table

/-- The table that a text writes down. -/
def ofString {α : Type} (value : Text → α) (s : String) : Table α where
  rows := (rowsOf s).map fun row =>
    (hex (row.takeWhile (· != '=')), value ((row.dropWhile (· != '=')).drop 1))

/-- The last row of `low ≤ i < high` that starts at or before a code point, if row `low` does. -/
def search {α : Type} (rows : Array (Nat × α)) (code : Nat) : Nat → Nat → Nat → Nat
  | 0, low, _ => low
  | fuel + 1, low, high =>
    if high ≤ low + 1 then low
    else
      let middle := (low + high) / 2
      match rows[middle]? with
      | some row =>
        if row.1 ≤ code then search rows code fuel middle high
        else search rows code fuel low middle
      | none => low

def row? {α : Type} (t : Table α) (code : Nat) : Option (Nat × α) :=
  (t.rows[search t.rows code t.rows.size 0 t.rows.size]?).filter (·.1 ≤ code)

/-- The value at a code point. -/
def at? {α : Type} (t : Table α) (code : Nat) : Option α := (t.row? code).map Prod.snd

end Table

/-- The set that a text of ranges writes down, as the table of its members. -/
def rangesOf (s : String) : Table Bool where
  rows := (rowsOf s).flatMap fun row =>
    let low := hex (row.takeWhile (· != '-'))
    let high := if row.contains '-' then hex ((row.dropWhile (· != '-')).drop 1) else low
    #[(low, true), (high + 1, false)]

def Table.has (t : Table Bool) (c : Char) : Bool := (t.at? c.toNat).getD false

end Gateway.Unicode
