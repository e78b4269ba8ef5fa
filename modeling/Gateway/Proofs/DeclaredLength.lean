import Gateway.Proofs.Request

/-!
# The length that a request declares

A head may declare the length of the body on several lines, and it is read twice.  The framing takes
the first of these lines that carries a number.  The request takes the value that its header map
holds, which is that of the last such line, number or not (`declaredLength?_eq_lastLength?`).

So the two agree exactly on the heads that settle the length: the last line that declares one
carries the first number that is declared, if any is.  A complete message with such a head is read
as a request with exactly the body that the framing has waited for, as long as 64 bits hold its
length (`framing_agrees_iff`).  Other heads are framed with one length and read with another, and
`not_framing_agrees` shows two of them.

Names that differ only in letter case have entries of their own in the map.  Where such entries have
different values the result of a lookup depends on their order, and these maps are left out.
-/

namespace Gateway.Http

namespace Headers

/-! ## The last value of a name -/

/-- Whether all entries whose name is `name` in some letter case have the same value. -/
def Agrees (h : Headers) (name : Text) : Prop :=
  ∀ e ∈ h.entries, ∀ e' ∈ h.entries, Text.sameIgnoringCase e.1 name = true →
    Text.sameIgnoringCase e'.1 name = true → e.2 = e'.2

theorem mem_setIn_self (name value : Text) (es : List (Text × Text)) :
    (name, value) ∈ setIn name value es := by
  induction es with
  | nil => exact List.mem_singleton_self _
  | cons x es ih =>
    rw [setIn]
    split
    · exact List.mem_cons_self
    · exact List.mem_cons_of_mem x ih

/-- Setting a value leaves the entries of other names as they are. -/
theorem mem_setIn_of_ne {name value : Text} {e : Text × Text} {es : List (Text × Text)}
    (h : e ∈ es) (hne : e.1 ≠ name) : e ∈ setIn name value es := by
  induction es with
  | nil => cases h
  | cons x es ih =>
    rw [setIn]
    split
    · next hx =>
      rcases List.mem_cons.mp h with rfl | h
      · exact absurd hx hne
      · exact List.mem_cons_of_mem _ h
    · rcases List.mem_cons.mp h with rfl | h
      · exact List.mem_cons_self
      · exact List.mem_cons_of_mem x (ih h)

theorem mem_foldl_set {pairs : List (Text × Text)} {h : Headers} {e : Text × Text}
    (he : e ∈ h.entries) (hne : ∀ p ∈ pairs, e.1 ≠ p.1) :
    e ∈ (pairs.foldl (fun h p => h.set p.1 p.2) h).entries := by
  induction pairs generalizing h with
  | nil => exact he
  | cons p pairs ih =>
    refine ih (mem_setIn_of_ne he (hne p List.mem_cons_self)) fun q hq => ?_
    exact hne q (List.mem_cons_of_mem p hq)

/-- The last pair of a name is an entry of the map of the list. -/
theorem mem_entries_ofList {before after : List (Text × Text)} {e : Text × Text}
    (hlast : ∀ p ∈ after, e.1 ≠ p.1) : e ∈ (ofList (before ++ e :: after)).entries := by
  rw [ofList, List.foldl_append, List.foldl_cons]
  exact mem_foldl_set (mem_setIn_self e.1 e.2 _) hlast

/-- Where its values agree, a name has the value of the last pair that has it in some letter
case. -/
theorem Agrees.lookup?_ofList {pairs : List (Text × Text)} {name : Text}
    (h : (ofList pairs).Agrees name) :
    (ofList pairs).lookup? name
      = ((pairs.filter fun p => Text.sameIgnoringCase p.1 name).getLast?).map Prod.snd := by
  cases hlast : (pairs.filter fun p => Text.sameIgnoringCase p.1 name).getLast? with
  | none =>
    rw [List.getLast?_eq_none_iff, List.filter_eq_nil_iff] at hlast
    exact lookup?_ofList_eq_none_iff.mpr fun p hp => Bool.eq_false_iff.mpr (hlast p hp)
  | some e =>
    obtain ⟨front, hfilter⟩ := List.getLast?_eq_some_iff.mp hlast
    obtain ⟨first, second, rfl, -, hsecond⟩ := List.filter_eq_append_iff.mp hfilter
    obtain ⟨skip, after, rfl, -, hname, hafter⟩ := List.filter_eq_cons_iff.mp hsecond
    rw [List.filter_eq_nil_iff] at hafter
    have hmem : e ∈ (ofList (first ++ (skip ++ e :: after))).entries := by
      rw [← List.append_assoc]
      refine mem_entries_ofList fun p hp he => ?_
      rw [he] at hname
      exact hafter p hp hname
    rw [lookup?, Option.map_some]
    cases hfind : (ofList (first ++ (skip ++ e :: after))).entries.find?
        (fun e => Text.sameIgnoringCase e.1 name) with
    | none => exact absurd hname (List.find?_eq_none.mp hfind e hmem)
    | some e' =>
      have hname' : Text.sameIgnoringCase e'.1 name = true := by
        simpa using List.find?_some hfind
      exact congrArg some (h e' (List.mem_of_find?_eq_some hfind) e hmem hname' hname)

end Headers

namespace Request

/-! ## The two lengths -/

/-- The number of a value that declares a length. -/
def lengthOf? (value : Text) : Option Nat := Numeral.read? 10 Numeral.limit64 value

/-- The number of the first line in a head that declares one. -/
def firstLength? (head : Bytes) : Option Nat := (lengthValues head).findSome? lengthOf?

/-- The number of the last line in a head that declares a length, if it carries a number. -/
def lastLength? (head : Bytes) : Option Nat := (lengthValues head).getLast?.bind lengthOf?

/-- Whether the last line that declares a length carries the first number that is declared, if any
is. -/
def Settles (head : Bytes) : Prop := ∀ n, firstLength? head = some n → lastLength? head = some n

/-- Where no line carries a number, the last one does not. -/
theorem lastLength?_eq_none {head : Bytes} (h : firstLength? head = none) :
    lastLength? head = none := by
  rw [firstLength?, List.findSome?_eq_none_iff] at h
  rw [lastLength?, Option.bind_eq_none_iff]
  exact fun v hv => h v (List.mem_of_getLast? hv)

theorem settles_iff {head : Bytes} : Settles head ↔ lastLength? head = firstLength? head := by
  constructor
  · intro h
    cases hfirst : firstLength? head with
    | none => exact lastLength?_eq_none hfirst
    | some n => exact h n hfirst
  · intro h n hn
    rw [h, hn]

/-- The framing takes the first number. -/
theorem framing_declaredLength?_eq {bytes : Bytes} {n : Nat} (h : Framing.headEnd? bytes = some n) :
    Framing.declaredLength? bytes = firstLength? (Framing.splitHead bytes).1 := by
  rw [Framing.declaredLength?_eq_splitHead h, findSome?_lengthField?]
  rfl

/-- The request takes the value of the last line. -/
theorem declaredLength?_eq_lastLength? {head : Bytes} {r : Request} (hr : ofHead head = .ok r)
    (hagree : r.headers.Agrees Framing.contentLength) : r.declaredLength? = lastLength? head := by
  obtain ⟨method, target, more, -, rfl⟩ := ofHead_eq_ok hr
  rw [declaredLength?, header?, hagree.lookup?_ofList, lastLength?, lengthValues, List.getLast?_map]
  rfl

/-! ## Complete messages -/

/-- A complete message within 64 bits that is read as a request declares the same length to both
exactly if its head settles it.  Then nothing of its body is missing: the body is as long as
declared, or all that follows the head if nothing is declared. -/
theorem framing_agrees_iff {bytes : Bytes} {r : Request}
    (hcomplete : Framing.isComplete bytes = true) (hrange : Framing.InRange bytes)
    (hr : parse bytes = .ok r)
    (hagree : r.headers.Agrees Framing.contentLength) :
    (r.declaredLength? = Framing.declaredLength? bytes ↔ Settles (Framing.splitHead bytes).1) ∧
      (Settles (Framing.splitHead bytes).1 →
        r.truncated = false ∧
        (∀ n, Framing.declaredLength? bytes = some n →
          r.body.length = n ∧ r.body <+: (Framing.splitHead bytes).2) ∧
        (Framing.declaredLength? bytes = none → r.body = (Framing.splitHead bytes).2)) := by
  obtain ⟨e, he⟩ := Framing.exists_headEnd?_of_isComplete hcomplete
  have hle := Framing.le_of_isComplete hcomplete hrange
  obtain ⟨q, hq, rfl⟩ := parse_eq_ok_iff.mp hr
  have hlast : q.declaredLength? = lastLength? (Framing.splitHead bytes).1 :=
    declaredLength?_eq_lastLength? hq hagree
  have hiff : q.declaredLength? = Framing.declaredLength? bytes ↔
      Settles (Framing.splitHead bytes).1 := by
    rw [settles_iff, hlast, framing_declaredLength?_eq he]
  refine ⟨hiff, fun hsettles => ?_⟩
  have hsame := hiff.mpr hsettles
  rw [← hsame] at hle ⊢
  cases hlen : q.declaredLength? with
  | none =>
    rw [fill_of_none hlen]
    exact ⟨rfl, fun n hn => (nomatch hn), fun _ => rfl⟩
  | some n =>
    rw [hlen, Option.getD_some] at hle
    rw [fill_of_le hlen hle]
    refine ⟨rfl, fun m hm => ?_, fun hnone => (nomatch hnone)⟩
    cases hm
    exact ⟨List.length_take_of_le hle, List.take_prefix n _⟩

/-! ## Repeated lengths -/

/-- An upload that says its length again and again, in different ways, and once says nothing. -/
def repeatedLength : Bytes :=
  Utf8.encode ("PUT /api HTTP/1.1\r\nContent-Length: 02\r\ncontent-length: none\r\n".toList
    ++ "content-length:+2\r\nContent-Length: +2\r\n\r\nhi, you".toList)

/-- Its request. -/
def repeatedLengthRequest : Request where
  method := .put
  target := "/api".toList
  version := "HTTP/1.1".toList
  headers := Headers.ofList
    [("Content-Length".toList, "+2".toList), ("content-length".toList, "+2".toList)]
  body := Utf8.encode "hi".toList
  truncated := false

theorem framing_agrees_iff_repeatedLength :
    Framing.isComplete repeatedLength = true ∧ Framing.InRange repeatedLength ∧
      parse repeatedLength = .ok repeatedLengthRequest ∧
      repeatedLengthRequest.headers.Agrees Framing.contentLength ∧
      Settles (Framing.splitHead repeatedLength).1 ∧
      repeatedLengthRequest.declaredLength? = Framing.declaredLength? repeatedLength ∧
      repeatedLengthRequest.truncated = false ∧ repeatedLengthRequest.body.length = 2 := by
  have hcomplete : Framing.isComplete repeatedLength = true := by decide +kernel
  have hparse : parse repeatedLength = .ok repeatedLengthRequest := by decide +kernel
  have hagree : repeatedLengthRequest.headers.Agrees Framing.contentLength := by
    unfold Headers.Agrees
    decide
  have hsettles : Settles (Framing.splitHead repeatedLength).1 :=
    settles_iff.mpr (by decide +kernel)
  have hrange : Framing.InRange repeatedLength := by decide +kernel
  obtain ⟨hiff, hbody⟩ := framing_agrees_iff hcomplete hrange hparse hagree
  obtain ⟨htruncated, hlength, -⟩ := hbody hsettles
  exact ⟨hcomplete, hrange, hparse, hagree, hsettles, hiff.mpr hsettles, htruncated,
    (hlength 2 (by decide +kernel)).1⟩

/-- An upload whose second length is no number. -/
def unreadableLength : Bytes :=
  Utf8.encode ("PUT /api HTTP/1.1\r\nContent-Length: 2\r\n".toList
    ++ "Content-Length: none\r\n\r\nhi, you".toList)

/-- An upload whose second length is larger than its first. -/
def growingLength : Bytes :=
  Utf8.encode ("PUT /api HTTP/1.1\r\nContent-Length: 2\r\n".toList
    ++ "Content-Length: 3\r\n\r\nhi".toList)

/-- Both are complete with two bytes after the head, but the request in the first takes more, and
the request in the second waits for more. -/
theorem not_framing_agrees :
    (∃ r, Framing.isComplete unreadableLength = true ∧ Framing.InRange unreadableLength ∧
      parse unreadableLength = .ok r ∧ r.headers.Agrees Framing.contentLength ∧
      Framing.declaredLength? unreadableLength = some 2 ∧ r.declaredLength? = none ∧
      r.body.length = 7) ∧
    ∃ r, Framing.isComplete growingLength = true ∧ Framing.InRange growingLength ∧
      parse growingLength = .ok r ∧ r.headers.Agrees Framing.contentLength ∧
      Framing.declaredLength? growingLength = some 2 ∧ r.declaredLength? = some 3 ∧
      r.truncated = true := by
  refine ⟨⟨_, by decide, by decide, rfl, ?_, by decide, by decide, by decide⟩,
    ⟨_, by decide, by decide, rfl, ?_, by decide, by decide, by decide⟩⟩
  all_goals
    unfold Headers.Agrees
    decide

end Request

end Gateway.Http
