import Gateway.Text.Lines
import Gateway.Text.Numeral

/-!
# Network addresses

Addresses of the Internet Protocol and of sockets, how they are written and how they are read.

The strict form of a version 4 address is four decimal octets without leading zeros.  The form of a
version 6 address is eight groups of up to four hexadecimal digits.  One run of groups may be left
out as `::`, and the last two groups may be written as a version 4 address.

A socket address is a version 4 address or a version 6 address in brackets, which may name a zone
after a percent sign, then a colon and a port.  Zone and port may have leading zeros.
-/

namespace Gateway.Net

/-- An address of version 4. -/
structure Ipv4 where
  a : UInt8
  b : UInt8
  c : UInt8
  d : UInt8
deriving DecidableEq, Repr

/-- An address of version 6. -/
structure Ipv6 where
  groups : List UInt16
  length_eq : groups.length = 8
deriving DecidableEq, Repr

/-! ## Version 4 -/

namespace Ipv4

/-- The address of a number, whose highest byte is the first octet. -/
def ofNat (n : Nat) : Ipv4 where
  a := UInt8.ofNat (n / 0x1000000)
  b := UInt8.ofNat (n / 0x10000)
  c := UInt8.ofNat (n / 0x100)
  d := UInt8.ofNat n

/-- The strict form. -/
def text (ip : Ipv4) : Text :=
  ['.'].intercalate ([ip.a, ip.b, ip.c, ip.d].map fun o => Numeral.decimal o.toNat)

/-- The value of an octet in the strict form. -/
def octet? (t : Text) : Option UInt8 :=
  if t.head? = some '0' ∧ t ≠ ['0'] then none
  else ((Numeral.bare? 10 t).filter (· < 256)).map UInt8.ofNat

/-- Read the strict form. -/
def parse? (t : Text) : Option Ipv4 :=
  match (Text.split '.' t).map octet? with
  | [some a, some b, some c, some d] => some ⟨a, b, c, d⟩
  | _ => none

end Ipv4

/-! ## Version 6 -/

namespace Ipv6

def group? (t : Text) : Option UInt16 :=
  if 4 < t.length then none else (Numeral.bare? 16 t).map UInt16.ofNat

/-- The groups of parts between colons.  The last part may be a version 4 address, if `mixed`. -/
def groupsOf? (mixed : Bool) : List Text → Option (List UInt16)
  | [] => some []
  | [part] =>
    if mixed && part.contains '.' then
      (Ipv4.parse? part).map fun ip =>
        [UInt16.ofNat (ip.a.toNat * 256 + ip.b.toNat), UInt16.ofNat (ip.c.toNat * 256 + ip.d.toNat)]
    else (group? part).map ([·])
  | part :: rest => do
    let g ← group? part
    return g :: (← groupsOf? mixed rest)

/-- The groups on one side of `::`, none if the side is empty. -/
def side? (mixed : Bool) (t : Text) : Option (List UInt16) :=
  if t = [] then some [] else groupsOf? mixed (Text.split ':' t)

/-- What stands before and after the first `::`, if there is one. -/
def splitGap? : Text → Option (Text × Text)
  | ':' :: ':' :: t => some ([], t)
  | c :: t => (splitGap? t).map fun (a, b) => (c :: a, b)
  | [] => none

/-- The address of eight groups. -/
def ofGroups? (groups : List UInt16) : Option Ipv6 :=
  if h : groups.length = 8 then some ⟨groups, h⟩ else none

/-- Read an address. -/
def parse? (t : Text) : Option Ipv6 :=
  match splitGap? t with
  | none => if t = [] then none else (groupsOf? true (Text.split ':' t)).bind ofGroups?
  | some (before, after) => do
    let left ← side? false before
    let right ← side? true after
    let shown := left.length + right.length
    if 7 < shown then none else ofGroups? (left ++ List.replicate (8 - shown) 0 ++ right)

def groupText (g : UInt16) : Text := Nat.toDigits 16 g.toNat

/-- The groups with colons between them. -/
def groupsText (gs : List UInt16) : Text := [':'].intercalate (gs.map groupText)

/-- The longest run of zero groups: where it starts and how long it is, the first of equals.  `i` is
the index of the first group of the list. -/
def longestRun (i : Nat) : List UInt16 → Nat × Nat
  | [] => (i, 0)
  | g :: gs =>
    let later := longestRun (i + 1) gs
    let here := ((g :: gs).takeWhile (· == 0)).length
    if later.2 ≤ here then (i, here) else later

/-- The address with its longest run of two or more zero groups left out. -/
def text (ip : Ipv6) : Text :=
  let (start, length) := longestRun 0 ip.groups
  if length < 2 then groupsText ip.groups
  else
    groupsText (ip.groups.take start) ++ "::".toList ++ groupsText (ip.groups.drop (start + length))

/-- The version 4 address that the address stands for, if it stands for one. -/
def mapped? (ip : Ipv6) : Option Ipv4 :=
  match ip.groups with
  | [0, 0, 0, 0, 0, 0xFFFF, g, h] => some (Ipv4.ofNat (g.toNat * 65536 + h.toNat))
  | _ => none

/-- The address, with the version 4 address it stands for in the strict form of that. -/
def mixedText (ip : Ipv6) : Text :=
  match ip.mapped? with
  | some v4 => "::ffff:".toList ++ v4.text
  | none => ip.text

end Ipv6

/-! ## Sockets -/

/-- Where a socket listens. -/
inductive SocketAddress where
  | v4 (ip : Ipv4) (port : UInt16)
  /-- An address of version 6, whose zone is 0 unless one is named. -/
  | v6 (ip : Ipv6) (zone : UInt32) (port : UInt16)
deriving DecidableEq, Repr

namespace SocketAddress

/-- Read digits below a limit, of which there may be any number. -/
def digits? (limit : Nat) (t : Text) : Option Nat := (Numeral.bare? 10 t).filter (· < limit)

def port? (t : Text) : Option UInt16 := (digits? Numeral.limit16 t).map UInt16.ofNat

/-- Read what stands between the brackets: an address, and a zone after a percent sign. -/
def bracketed? (t : Text) : Option (Ipv6 × UInt32) :=
  match Text.splitOnce? '%' t with
  | none => (Ipv6.parse? t).map (·, 0)
  | some (address, zone) => do
    let ip ← Ipv6.parse? address
    let z ← digits? Numeral.limit32 zone
    return (ip, UInt32.ofNat z)

def parse? : Text → Option SocketAddress
  | '[' :: t => do
    let (inside, rest) ← Text.splitOnce? ']' t
    let (ip, zone) ← bracketed? inside
    match rest with
    | ':' :: port => return .v6 ip zone (← port? port)
    | _ => none
  | t => do
    let (address, port) ← Text.splitOnce? ':' t
    return .v4 (← Ipv4.parse? address) (← port? port)

/-- Whether it is an address of version 4. -/
def isV4 : SocketAddress → Bool
  | .v4 .. => true
  | .v6 .. => false

/-- The address of the interface alone. -/
def ipText : SocketAddress → Text
  | .v4 ip _ => ip.text
  | .v6 ip _ _ => ip.mixedText

def text : SocketAddress → Text
  | .v4 ip port => ip.text ++ ':' :: Numeral.decimal port.toNat
  | .v6 ip zone port =>
    '[' :: ip.mixedText ++ (if zone = 0 then [] else '%' :: Numeral.decimal zone.toNat)
      ++ "]:".toList ++ Numeral.decimal port.toNat

end SocketAddress

/-! ## Tests -/

example : (Ipv4.parse? "127.0.0.1".toList).isSome ∧ Ipv4.parse? "127.0.0.01".toList = none
    ∧ Ipv4.parse? "127.1".toList = none := by decide
example : (Ipv6.parse? "1::8.7.6.5".toList).map Ipv6.text = some "1::807:605".toList := by decide
example : (Ipv6.parse? "0:0:1:0:0:0:2:0".toList).map Ipv6.text = some "0:0:1::2:0".toList := by
  decide
example : (SocketAddress.parse? "[::1%007]:0080".toList).map SocketAddress.text
    = some "[::1%7]:80".toList := by decide

end Gateway.Net
