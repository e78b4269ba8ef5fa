import Gateway.Text.Lines
import Gateway.Unicode.Direction
import Gateway.Unicode.Normalization
import Gateway.Url.DomainMapping
import Gateway.Url.Punycode

/-!
# Domain names in ASCII

`toAscii?` turns a domain name into the form in which it is looked up.  Its characters are mapped
and the result is composed and cut into labels at the dots.  A label in ASCII stays as it is.  A
label with other characters is written in Punycode behind `xn--`.

Some names are refused: those with a character that is refused by the mapping or that has a meaning
in a URL, those with a label behind `xn--` that does not decode to a label which would have been
written so, and those with a label that breaks a rule.

* A label starts with no combining mark.
* A joiner stands where it has an effect.
* If some label runs from right to left, no label mixes directions.

Lengths and hyphens are not limited, and a label may be empty.
-/

namespace Gateway.Url.Domain

def isAscii (c : Char) : Bool := c.toNat < 128

/-- Whether an ASCII character may not stand in a domain name. -/
def isForbidden (c : Char) : Bool :=
  c.toNat ≤ 0x20 || c.toNat = 0x7F || "%#/:<>?@[\\]^|".toList.contains c

/-- What a label behind `xn--` starts with. -/
def acePart : Text := "xn--".toList

/-! ## Joiners -/

/-- Whether the letters before (the nearest first) and after a place join across it. -/
def joinsAcross (before after : Text) : Bool :=
  let near (t : Text) := (t.dropWhile fun c => Unicode.joining c == .transparent).head?
  let left := (near before).any fun c => Unicode.joining c matches .left | .dual
  let right := (near after).any fun c => Unicode.joining c matches .right | .dual
  left && right

/-- Whether the joiner `c` has an effect between the letters before and after it.  Each joiner has
one after a virama, and the non-joiner also between letters that would join. -/
def joinerAllowed (c : Char) (before after : Text) : Bool :=
  (before.head?).any (Unicode.combiningClass · == 9)
    || (c == '\u200C' && joinsAcross before after)

/-- Whether every joiner of a label has an effect.  `before` is what was passed, last first. -/
def joinersAllowed : Text → Text → Bool
  | _, [] => true
  | before, c :: t =>
    (if c == '\u200C' || c == '\u200D' then joinerAllowed c before t else true)
      && joinersAllowed (c :: before) t

/-! ## Directions -/

/-- Whether a label has characters that run from right to left. -/
def runsLeft (label : Text) : Bool :=
  label.any fun c => Unicode.direction c matches .right | .arabicNumber

/-- Whether a label does not mix directions. -/
def directionAllowed (label : Text) : Bool :=
  let ds := label.map Unicode.direction
  let last := (ds.reverse.dropWhile (· == .mark)).head?
  match ds.head? with
  | none => true
  | some .right =>
    ds.all (· matches .right | .arabicNumber | .europeanNumber | .neutral | .mark)
      && last.any (· matches .right | .arabicNumber | .europeanNumber)
      && !(ds.contains .arabicNumber && ds.contains .europeanNumber)
  | some .left =>
    ds.all (· matches .left | .europeanNumber | .neutral | .mark)
      && last.any (· matches .left | .europeanNumber)
  | some _ => false

/-! ## Labels -/

/-- Whether a label keeps the rules that concern it alone. -/
def labelAllowed (label : Text) : Bool :=
  !(label.head?).any Unicode.isMark && joinersAllowed [] label

/-- Whether a label may stand behind `xn--` in Punycode. -/
def isWritten (label : Text) : Bool :=
  label.any (!isAscii ·) && label.all (fun c => mapDomainChar? c == some [c])
    && Unicode.composed label == label && !acePart.isPrefixOf label

/-- The label that a mapped label stands for. -/
def meaning? (label : Text) : Option Text :=
  if acePart.isPrefixOf label then
    (Punycode.decode? (label.drop acePart.length)).filter isWritten
  else some label

def labelToAscii (label : Text) : Text :=
  if label.all isAscii then label else acePart ++ Punycode.encode label

/-- The form of a domain name in ASCII, unless the name is refused. -/
def toAscii? (name : Text) : Option Text := do
  let mapped ← name.mapM mapDomainChar?
  let labels := Text.split '.' (Unicode.composed mapped.flatten)
  let meanings ← labels.mapM meaning?
  if meanings.all (fun l => labelAllowed l && !l.any isForbidden && !l.contains '.')
      && (!meanings.any runsLeft || meanings.all directionAllowed) then
    return ['.'].intercalate (labels.map labelToAscii)
  else none

end Gateway.Url.Domain
