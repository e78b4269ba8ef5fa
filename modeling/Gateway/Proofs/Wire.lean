import Gateway.Http.Response
import Gateway.Proofs.Request

/-!
# The wire form of a response

The wire form is a message in the sense of the framing (`wire_eq_message`): a status line, a line
for each header that is repeated, the two lines that the wire form writes itself, the blank line and
the body.

Of a response with clean headers, none of these lines can end the head early, and only the one line
that the wire form writes declares a length, since headers of that name are not repeated.  So a
reader finds the body where it was put and sees one whole message (`isOneMessage_wire`).
-/

namespace Gateway.Http

namespace Headers

/-! ## Clean headers -/

/-- A header that can be written as a line and read again. -/
structure CleanField (f : Text × Text) : Prop where
  name_ne_nil : f.1 ≠ []
  solid_name : Text.Solid f.1
  colon : ':' ∉ f.1
  cr : '\r' ∉ f.2
  lf : '\n' ∉ f.2

instance (f : Text × Text) : Decidable (CleanField f) :=
  decidable_of_iff (f.1 ≠ [] ∧ Text.Solid f.1 ∧ ':' ∉ f.1 ∧ '\r' ∉ f.2 ∧ '\n' ∉ f.2)
    ⟨fun ⟨hne, hsolid, hcolon, hcr, hlf⟩ => ⟨hne, hsolid, hcolon, hcr, hlf⟩,
      fun h => ⟨h.name_ne_nil, h.solid_name, h.colon, h.cr, h.lf⟩⟩

/-- Whether all headers of a map are clean. -/
def Clean (h : Headers) : Prop := ∀ f ∈ h.entries, CleanField f

instance (h : Headers) : Decidable h.Clean :=
  inferInstanceAs (Decidable (∀ f ∈ h.entries, CleanField f))

theorem Clean.set {h : Headers} (hclean : h.Clean) {name value : Text}
    (hfield : CleanField (name, value)) : (h.set name value).Clean := by
  intro f hf
  rcases mem_setIn hf with rfl | hf
  · exact hfield
  · exact hclean f hf

theorem clean_empty : empty.Clean := by
  intro f hf
  cases hf

theorem cleanField_contentLength (n : Nat) :
    CleanField (Framing.contentLength, Numeral.decimal n) where
  name_ne_nil := List.cons_ne_nil _ _
  solid_name := show Text.Solid Framing.contentLength by decide
  colon := show ':' ∉ Framing.contentLength by decide
  cr := (Numeral.solid_decimal n).not_mem (by decide)
  lf := (Numeral.solid_decimal n).not_mem (by decide)

end Headers

namespace Response

theorem clean_build (status : Status) {headers : Headers} (h : headers.Clean) (body : Bytes) :
    (build status headers body).headers.Clean :=
  h.set (Headers.cleanField_contentLength body.length)

theorem clean_errorPage (status : Status) (message : Text) :
    (errorPage status message).headers.Clean := by
  exact clean_build status (Headers.clean_empty.set (by decide)) _

/-! ## Lines -/

/-- The text of a status line. -/
def statusText (status : Status) : Text :=
  "HTTP/1.1 ".toList ++ Numeral.decimal status.code.toNat ++ [' '] ++ status.reason

/-- The line of a header, without its end. -/
def fieldLine (f : Text × Text) : Text := f.1 ++ ':' :: ' ' :: f.2

/-- The headers that are repeated. -/
def repeated (r : Response) : List (Text × Text) :=
  r.headers.sorted.filter fun e => !isFramingHeader e.1

/-- The headers that are written. -/
def wireFields (r : Response) : List (Text × Text) :=
  r.repeated ++ [(Framing.contentLength, Numeral.decimal r.body.length),
    ("Connection".toList, "close".toList)]

/-- The lines that are written. -/
def wireLines (r : Response) : List Text := statusText r.status :: r.wireFields.map fieldLine

theorem flatMap_lineEnd :
    ∀ {ls : List Text}, ls ≠ [] → ls.flatMap (· ++ lineEnd) = Framing.joinLines ls ++ lineEnd
  | [], h => absurd rfl h
  | [l], _ => by simp [Framing.joinLines]
  | l :: l' :: ls, _ => by
    rw [List.flatMap_cons, flatMap_lineEnd (List.cons_ne_nil l' ls), Framing.joinLines]
    simp [lineEnd]

theorem statusText_append (status : Status) :
    statusText status ++ lineEnd = statusLine status := rfl

theorem fieldLine_append (f : Text × Text) : fieldLine f ++ lineEnd = headerLine f := by
  simp [fieldLine, headerLine]

theorem wireLines_ne_nil (r : Response) : r.wireLines ≠ [] := List.cons_ne_nil _ _

theorem wireHead_eq (r : Response) :
    r.wireHead = Framing.joinLines r.wireLines ++ "\r\n\r\n".toList := by
  have hlines : r.wireLines.flatMap (· ++ lineEnd)
      = statusLine r.status ++ (r.repeated.flatMap headerLine
        ++ (headerLine (Framing.contentLength, Numeral.decimal r.body.length)
          ++ headerLine ("Connection".toList, "close".toList))) := by
    rw [wireLines, List.flatMap_cons, statusText_append, List.flatMap_map]
    simp only [fieldLine_append, wireFields, List.flatMap_append, List.flatMap_cons,
      List.flatMap_nil, List.append_nil]
  have hends : "\r\n\r\n".toList = lineEnd ++ lineEnd := rfl
  rw [hends, ← List.append_assoc, ← flatMap_lineEnd r.wireLines_ne_nil, hlines, wireHead, repeated]
  simp only [List.append_assoc]

/-- The bytes that are sent for a response are a message of these lines. -/
theorem wire_eq_message (r : Response) : r.wire = Framing.message r.wireLines r.body := by
  rw [wire, wireHead_eq, Utf8.encode_append, List.append_assoc]
  rfl

/-! ## Reading the lines -/

theorem mem_entries_of_mem_repeated {r : Response} {f : Text × Text} (h : f ∈ r.repeated) :
    f ∈ r.headers.entries ∧ isFramingHeader f.1 = false := by
  obtain ⟨hmem, hf⟩ := List.mem_filter.mp h
  rw [Bool.not_eq_true'] at hf
  exact ⟨List.mem_mergeSort.mp hmem, hf⟩

theorem isLine_statusText (status : Status) : Framing.IsLine (statusText status) := by
  have hreason : '\r' ∉ status.reason ∧ '\n' ∉ status.reason := by
    unfold Status.reason
    split <;> decide
  have hstart : Framing.IsLine "HTTP/1.1 ".toList := ⟨by decide, by decide, by decide⟩
  have hcode := hstart.append_solid (Numeral.solid_decimal status.code.toNat)
  exact (hcode.append (by decide) (by decide)).append hreason.1 hreason.2

theorem isLine_fieldLine {f : Text × Text} (h : Headers.CleanField f) :
    Framing.IsLine (fieldLine f) := by
  refine (Framing.IsLine.of_solid h.name_ne_nil h.solid_name).append ?_ ?_
  · simp [h.cr]
  · simp [h.lf]

/-- No line of a response with clean headers ends the head early. -/
theorem isLine_wireLines {r : Response} (h : r.headers.Clean) :
    ∀ l ∈ r.wireLines, Framing.IsLine l := by
  intro l hl
  rcases List.mem_cons.mp hl with rfl | hl
  · exact isLine_statusText r.status
  · obtain ⟨f, hf, rfl⟩ := List.mem_map.mp hl
    rcases List.mem_append.mp hf with hf | hf
    · exact isLine_fieldLine (h f (mem_entries_of_mem_repeated hf).1)
    · rcases List.mem_cons.mp hf with rfl | hf
      · exact isLine_fieldLine (Headers.cleanField_contentLength _)
      · cases List.mem_singleton.mp hf
        exact ⟨by decide, by decide, by decide⟩

/-- What the line of a header declares. -/
theorem lengthField?_fieldLine {name : Text} (hname : Text.Solid name) (hcolon : ':' ∉ name)
    (value : Text) : Framing.lengthField? (fieldLine (name, value)) =
      if Text.sameIgnoringCase name Framing.contentLength
      then Numeral.read? 10 Numeral.limit64 (Text.trim value) else none := by
  rw [Request.lengthField?_eq, fieldLine, Request.headerField?_append hname hcolon]
  rfl

/-- The length of the body is the one that is declared. -/
theorem findSome?_wireLines {r : Response} (h : r.headers.Clean)
    (hlen : r.body.length < Numeral.limit64) :
    (r.wireLines.drop 1).findSome? Framing.lengthField? = some r.body.length := by
  have hrepeated : (r.repeated.map fieldLine).findSome? Framing.lengthField? = none := by
    rw [List.findSome?_eq_none_iff]
    intro l hl
    obtain ⟨f, hf, rfl⟩ := List.mem_map.mp hl
    obtain ⟨hmem, hframing⟩ := mem_entries_of_mem_repeated hf
    obtain ⟨hother, -⟩ := Bool.or_eq_false_iff.mp hframing
    rw [lengthField?_fieldLine (h f hmem).solid_name (h f hmem).colon, hother]
    rfl
  rw [wireLines, List.drop_succ_cons, List.drop_zero, wireFields, List.map_append,
    List.findSome?_append, hrepeated, Option.none_or, List.map_cons, List.findSome?_cons,
    lengthField?_fieldLine (by decide) (by decide), (Numeral.solid_decimal _).trim_eq,
    Numeral.read?_decimal hlen]
  rfl

/-! ## Reading the wire form -/

/-- The body follows the first blank line. -/
theorem splitHead_wire {r : Response} (h : r.headers.Clean) :
    Framing.splitHead r.wire = (Utf8.encode (Framing.joinLines r.wireLines), r.body) := by
  rw [wire_eq_message, Framing.splitHead_message r.wireLines_ne_nil (isLine_wireLines h)]

theorem headEnd?_wire {r : Response} (h : r.headers.Clean) :
    ∃ e, Framing.headEnd? r.wire = some e ∧ r.wire.drop (e + 4) = r.body := by
  have hend := Framing.headEnd?_message r.body r.wireLines_ne_nil (isLine_wireLines h)
  rw [← wire_eq_message] at hend
  have hsplit := splitHead_wire h
  rw [Framing.splitHead_eq hend] at hsplit
  exact ⟨_, hend, congrArg Prod.snd hsplit⟩

/-- The length that the wire form declares is that of the body. -/
theorem declaredLength?_wire {r : Response} (h : r.headers.Clean)
    (hlen : r.body.length < Numeral.limit64) :
    Framing.declaredLength? r.wire = some r.body.length := by
  rw [wire_eq_message, Framing.declaredLength?_message r.wireLines_ne_nil (isLine_wireLines h),
    findSome?_wireLines h hlen]

theorem length_body_le_wire (r : Response) : r.body.length ≤ r.wire.length := by
  rw [wire, List.length_append]
  exact Nat.le_add_left _ _

/-- The wire form is one whole message. -/
theorem isOneMessage_wire {r : Response} (h : r.headers.Clean)
    (hlen : r.wire.length < Numeral.limit64) : Framing.IsOneMessage r.wire := by
  have hbody := Nat.lt_of_le_of_lt r.length_body_le_wire hlen
  rw [wire_eq_message] at hlen ⊢
  exact Framing.isOneMessage_message r.wireLines_ne_nil (isLine_wireLines h)
    (findSome?_wireLines h hbody) hlen

end Response

end Gateway.Http
