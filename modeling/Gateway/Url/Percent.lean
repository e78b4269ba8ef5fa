import Gateway.Text.Ascii
import Gateway.Text.Utf8

/-!
# Percent encoding

A character that may not stand in some part of a URL is written as the bytes of its UTF-8 form, each
as a percent sign and two hexadecimal digits.  Every part has its own set of such characters.
Characters outside ASCII belong to all of them.
-/

namespace Gateway.Url.Percent

/-- Whether a character is written in percent encoding. -/
abbrev EncodeSet := Char → Bool

/-- Control characters and what is not ASCII. -/
def controls : EncodeSet := fun c => c.toNat < 0x20 || 0x7E < c.toNat

/-- A set with some more characters. -/
def adding (set : EncodeSet) (more : String) : EncodeSet := fun c => set c || more.toList.contains c

def fragment : EncodeSet := adding controls " \"<>`"

def query : EncodeSet := adding controls " \"#<>"

def specialQuery : EncodeSet := adding query "'"

def path : EncodeSet := adding fragment "#?\x7b\x7d"

/-- The set of user names and passwords. -/
def userinfo : EncodeSet := adding path "/:;=@[\\]^|"

def escape (b : UInt8) : Text :=
  let digit (n : Nat) : Char := if n < 10 then Char.ofNat (48 + n) else Char.ofNat (55 + n)
  ['%', digit (b.toNat / 16), digit (b.toNat % 16)]

/-- A text with the characters of a set escaped. -/
def encode (set : EncodeSet) (t : Text) : Text :=
  t.flatMap fun c => if set c then (Utf8.encode [c]).flatMap escape else [c]

/-- The bytes of a text, with every escape replaced by its byte. -/
def decode : Text → Bytes
  | '%' :: a :: b :: t =>
    match Text.hexValue? a, Text.hexValue? b with
    | some m, some n => UInt8.ofNat (m * 16 + n) :: decode t
    | _, _ => 37 :: decode (a :: b :: t)
  | c :: t => Utf8.encode [c] ++ decode t
  | [] => []

end Gateway.Url.Percent
