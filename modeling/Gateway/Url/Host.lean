import Gateway.Text.Utf8
import Gateway.Url.Basic
import Gateway.Url.Domain
import Gateway.Url.Percent

/-!
# Hosts of URLs

A host in brackets is a version 6 address.  The host of a special scheme is a domain name, whose
percent escapes are resolved and which is turned into ASCII.  If its last label is a number, it is a
version 4 address in one of the lenient forms: up to four numbers, each decimal, octal after `0` or
hexadecimal after `0x`, of which the last fills the octets that are left.  The host of any other
scheme is kept as it is, with percent escapes for what is not printable ASCII.
-/

namespace Gateway.Url.Host

/-! ## Lenient version 4 addresses -/

/-- The value of a number of a lenient address.  `0x` alone is 0. -/
def ipv4Number? (t : Text) : Option Nat :=
  match t with
  | [] => none
  | '0' :: 'x' :: t => if t = [] then some 0 else Numeral.bare? 16 t
  | '0' :: 'X' :: t => if t = [] then some 0 else Numeral.bare? 16 t
  | ['0'] => some 0
  | '0' :: t => Numeral.bare? 8 t
  | t => Numeral.bare? 10 t

/-- The labels of a domain name, without an empty one at the end. -/
def labels (name : Text) : List Text :=
  let ls := Text.split '.' name
  if ls.getLast? = some [] then ls.dropLast else ls

/-- Whether a domain name must be a version 4 address: its last label is a number. -/
def endsInNumber (name : Text) : Bool :=
  match (labels name).getLast? with
  | none => false
  | some last => (last ≠ [] && last.all Char.isDigit) || (ipv4Number? last).isSome

/-- Read a lenient version 4 address. -/
def lenientIpv4? (name : Text) : Option Net.Ipv4 := do
  let numbers ← (labels name).mapM ipv4Number?
  let last ← numbers.getLast?
  let first := numbers.dropLast
  if 4 < numbers.length ∨ first.any (255 < ·) ∨ Nat.pow 256 (4 - first.length) ≤ last then none
  else
    let high := (List.range first.length).zip first |>.map fun (i, n) => n * Nat.pow 256 (3 - i)
    return Net.Ipv4.ofNat (high.foldl (· + ·) last)

/-! ## Hosts -/

/-- Read a version 6 address behind an opening bracket. -/
def bracketed (t : Text) : Except UrlError Host :=
  match t.getLast?, Net.Ipv6.parse? t.dropLast with
  | some ']', some ip => .ok (.ipv6 ip)
  | _, _ => .error .invalidIpv6

/-- Read the host of a special scheme. -/
def special (t : Text) : Except UrlError Host :=
  match t with
  | '[' :: t => bracketed t
  | t =>
    match (Utf8.decode? (Percent.decode t)).bind Domain.toAscii? with
    | none => .error .invalidDomain
    | some [] => .error .emptyHost
    | some name =>
      if endsInNumber name then
        match lenientIpv4? name with
        | some ip => .ok (.ipv4 ip)
        | none => .error .invalidIpv4
      else .ok (.domain name)

/-- Whether a character may not stand in the host of a scheme that is not special. -/
def isForbidden (c : Char) : Bool := "\x00\t\n\r #/:<>?@[\\]^|".toList.contains c

/-- Read the host of a scheme that is not special. -/
def general (t : Text) : Except UrlError Host :=
  match t with
  | [] => .ok .empty
  | '[' :: t => bracketed t
  | t =>
    if t.any isForbidden then .error .invalidHostCharacter
    else .ok (.domain (Percent.encode Percent.controls t))

end Gateway.Url.Host
