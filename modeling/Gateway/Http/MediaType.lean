import Gateway.Files.Path
import Gateway.Text.Utf8

/-!
# Media types

A served file is announced by the media type of its extension.  The case of ASCII letters does not
matter.  An extension outside the table, and so any that is not ASCII, has the default type.
-/

namespace Gateway.Http.MediaType

/-- The type of a file whose extension says nothing. -/
def fallback : Text := "application/octet-stream".toList

/-- The known extensions and their types. -/
def table : List (Text × Text) :=
  [("html", "text/html"), ("htm", "text/html"), ("css", "text/css"),
   ("js", "application/javascript"), ("mjs", "application/javascript"),
   ("json", "application/json"), ("txt", "text/plain"), ("xml", "application/xml"),
   ("svg", "image/svg+xml"), ("png", "image/png"), ("jpg", "image/jpeg"),
   ("jpeg", "image/jpeg"), ("gif", "image/gif"), ("ico", "image/x-icon"),
   ("webp", "image/webp"), ("wasm", "application/wasm"), ("pdf", "application/pdf")].map
    fun (e, t) => (e.toList, t.toList)

/-- A byte with an ASCII capital made small. -/
def lower (b : UInt8) : UInt8 := if 65 ≤ b ∧ b ≤ 90 then b + 32 else b

/-- The media type announced for the file at a path. -/
def ofPath (path : Bytes) : Text :=
  match (Files.fileName? path).bind Files.extension? with
  | some e => ((table.find? fun row => Utf8.encode row.1 == e.map lower).map Prod.snd).getD fallback
  | none => fallback

/-! ## Tests -/

example : ofPath (Utf8.encode "a/index.HTML".toList) = "text/html".toList := by decide
example : ofPath (Utf8.encode "a/x.css/.".toList) = "text/css".toList := by decide
example : ofPath (Utf8.encode ".html".toList) = fallback := by decide
example : ofPath (Utf8.encode "a.html/..".toList) = fallback := by decide

end Gateway.Http.MediaType
