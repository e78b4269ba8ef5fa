/-!
# Text and bytes

The gateway reads bytes from connections and files and works on Unicode text.  Both are lists.
A function on text is then a recursion on its characters, and a statement about it is an
induction on them.

Texts are ordered as lists of characters, by code point.  UTF-8 keeps that order, so it is also the
order of the encoded bytes.
-/

namespace Gateway

/-- Bytes, as they travel over a connection or lie in a file. -/
abbrev Bytes := List UInt8

abbrev Text := List Char

end Gateway
