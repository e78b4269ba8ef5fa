import Mathlib.Data.List.TakeWhile
import Gateway.Http.RequestParser
import Gateway.Proofs.Framing

/-!
# The parts of a request

`Request.parse` splits its bytes and reads the two parts one after the other.  All but the body
comes from the head (`ofHead`), and the body is cut from what follows it (`fill`).  `parse_eq` says
that this is all, so bytes with the same head make requests that differ at most in their bodies.

The length of the body is declared in the head and read in two places: line by line by the framing,
and from the header map by the request.  The map keeps one line for each name, and names may differ
in letter case, so the two need not agree.  They do if all lines that declare a length carry the
same number (`Declares`), or if no line declares one.
-/

namespace Gateway.Http

namespace Headers

/-! ## Header maps from lists -/

theorem mem_setIn {name value : Text} : ∀ {es : List (Text × Text)} {e : Text × Text},
    e ∈ setIn name value es → e = (name, value) ∨ e ∈ es
  | [], e, h => Or.inl (List.mem_singleton.mp h)
  | x :: es, e, h => by
    rw [setIn] at h
    split at h
    · rcases List.mem_cons.mp h with h | h
      · exact Or.inl h
      · exact Or.inr (List.mem_cons_of_mem x h)
    · rcases List.mem_cons.mp h with h | h
      · exact Or.inr (h ▸ List.mem_cons_self)
      · rcases mem_setIn h with h | h
        · exact Or.inl h
        · exact Or.inr (List.mem_cons_of_mem x h)

/-- Setting a value keeps all names and adds its own. -/
theorem mem_names_set (h : Headers) (name value n : Text) :
    n ∈ (h.set name value).entries.map Prod.fst ↔ n ∈ h.entries.map Prod.fst ∨ n = name := by
  rw [set, map_fst_setIn]
  split
  · next hname =>
    constructor
    · exact Or.inl
    · rintro (hn | rfl)
      · exact hn
      · exact hname
  · rw [List.mem_append, List.mem_singleton]

/-- The map of a list, from a map that was there before. -/
theorem foldl_set_entries (pairs : List (Text × Text)) : ∀ h : Headers,
    (∀ e ∈ (pairs.foldl (fun h p => h.set p.1 p.2) h).entries, e ∈ h.entries ∨ e ∈ pairs) ∧
      ∀ n, n ∈ (pairs.foldl (fun h p => h.set p.1 p.2) h).entries.map Prod.fst ↔
        n ∈ h.entries.map Prod.fst ∨ n ∈ pairs.map Prod.fst := by
  induction pairs with
  | nil => exact fun h => ⟨fun e he => Or.inl he, fun n => by simp⟩
  | cons p pairs ih =>
    intro h
    obtain ⟨hmem, hnames⟩ := ih (h.set p.1 p.2)
    rw [List.foldl_cons]
    constructor
    · intro e he
      rcases hmem e he with he | he
      · rcases mem_setIn he with he | he
        · exact Or.inr (he ▸ List.mem_cons_self)
        · exact Or.inl he
      · exact Or.inr (List.mem_cons_of_mem p he)
    · intro n
      rw [hnames n, mem_names_set, List.map_cons, List.mem_cons, or_assoc]

/-- An entry of the map of a list is a pair of the list. -/
theorem mem_of_mem_entries_ofList {pairs : List (Text × Text)} {e : Text × Text}
    (h : e ∈ (ofList pairs).entries) : e ∈ pairs := by
  rcases (foldl_set_entries pairs empty).1 e h with h | h
  · cases h
  · exact h

/-- The map of a list has the names of the list. -/
theorem mem_names_ofList {pairs : List (Text × Text)} {n : Text} :
    n ∈ (ofList pairs).entries.map Prod.fst ↔ n ∈ pairs.map Prod.fst := by
  rw [ofList, (foldl_set_entries pairs empty).2 n]
  constructor
  · rintro (h | h)
    · cases h
    · exact h
  · exact Or.inr

/-- What a lookup in the map of a list finds is the value of one of its pairs. -/
theorem lookup?_ofList_eq_some {pairs : List (Text × Text)} {name v : Text}
    (h : (ofList pairs).lookup? name = some v) :
    ∃ k, (k, v) ∈ pairs ∧ Text.sameIgnoringCase k name = true := by
  obtain ⟨e, he, hv⟩ := Option.map_eq_some_iff.mp h
  have hname : Text.sameIgnoringCase e.1 name = true := by
    simpa using List.find?_some he
  refine ⟨e.1, ?_, hname⟩
  rw [← hv]
  exact mem_of_mem_entries_ofList (List.mem_of_find?_eq_some he)

/-- Nothing is found if no pair of the list has the name. -/
theorem lookup?_ofList_eq_none_iff {pairs : List (Text × Text)} {name : Text} :
    (ofList pairs).lookup? name = none ↔
      ∀ p ∈ pairs, Text.sameIgnoringCase p.1 name = false := by
  rw [lookup?, Option.map_eq_none_iff, List.find?_eq_none]
  constructor
  · intro h p hp
    have hname : p.1 ∈ (ofList pairs).entries.map Prod.fst :=
      mem_names_ofList.mpr (List.mem_map_of_mem hp)
    obtain ⟨e, he, hep⟩ := List.mem_map.mp hname
    rw [← hep]
    exact Bool.eq_false_iff.mpr (h e he)
  · intro h e he
    rw [h e (mem_of_mem_entries_ofList he)]
    exact Bool.false_ne_true

end Headers

namespace Request

/-! ## Head and body -/

/-- The names and values in a head, line by line. -/
def fields (head : Bytes) : List (Text × Text) :=
  (Framing.fieldLines head).filterMap headerField?

/-- A request without its body. -/
def bare (r : Request) : Request := { r with body := [], truncated := false }

/-- A request with as much of its body as it declares and as there is. -/
def fill (rest : Bytes) (r : Request) : Request :=
  { r with
    body := (cutBody r.declaredLength? rest).1
    truncated := (cutBody r.declaredLength? rest).2 }

/-- The request in a head. -/
def ofHead (head : Bytes) : Except RequestError Request :=
  match requestWords? (head.takeWhile (· != lineFeed)) with
  | some (method :: target :: more) =>
    .ok { method := .ofToken method
          target
          version := more.headD defaultVersion
          headers := Headers.ofList (fields head)
          body := []
          truncated := false }
  | _ => .error .malformedRequestLine

/-- No byte of a first line is a line feed. -/
theorem bne_lineFeed {line : Bytes} (h : (10 : UInt8) ∉ line) :
    ∀ b ∈ line, (b != lineFeed) = true := by
  intro b hb
  rw [bne_iff_ne]
  intro he
  have hten : b = 10 := he
  exact h (hten ▸ hb)

/-- The first line ends at the first line feed. -/
theorem takeWhile_append_lineFeed {line : Bytes} (h : (10 : UInt8) ∉ line) (rest : Bytes) :
    (line ++ 10 :: rest).takeWhile (· != lineFeed) = line := by
  rw [List.takeWhile_append_of_pos (bne_lineFeed h)]
  exact List.append_nil line

/-- The line feed that ends a line is its first one. -/
theorem takeWhile_encode_lineEnd {l : Text} (h : Framing.IsLine l) (rest : Bytes) :
    (Utf8.encode l ++ 13 :: 10 :: rest).takeWhile (· != lineFeed)
      = Utf8.encode (l ++ ['\r']) := by
  have hbytes : Utf8.encode l ++ 13 :: 10 :: rest = Utf8.encode (l ++ ['\r']) ++ 10 :: rest := by
    rw [Utf8.encode_append, List.append_assoc]
    rfl
  have hlf : (10 : UInt8) ∉ Utf8.encode (l ++ ['\r']) := by
    refine Framing.lf_not_mem_encode fun hm => ?_
    rcases List.mem_append.mp hm with hm | hm
    · exact h.lf hm
    · exact absurd hm (by decide)
  rw [hbytes, takeWhile_append_lineFeed hlf]

/-- Without a line feed everything is the first line. -/
theorem takeWhile_eq_self {line : Bytes} (h : (10 : UInt8) ∉ line) :
    line.takeWhile (· != lineFeed) = line :=
  List.takeWhile_eq_self_iff.mpr (bne_lineFeed h)

/-- A line feed that is read comes from a line feed. -/
theorem newline_not_mem_decodeLossy {line : Bytes} (h : (10 : UInt8) ∉ line) :
    '\n' ∉ Utf8.decodeLossy line :=
  fun hm => h (Utf8.mem_of_mem_decodeLossy (by decide) (by decide) hm)

/-- The fields of a head are read from what follows its first line. -/
theorem fields_append_lineFeed {line : Bytes} (h : (10 : UInt8) ∉ line) (rest : Bytes) :
    fields (line ++ 10 :: rest)
      = (Text.lines (Utf8.decodeLossy rest)).filterMap headerField? := by
  rw [fields, Framing.fieldLines, Utf8.decodeLossy_append_ascii (by decide)]
  exact congrArg (List.filterMap headerField?)
    (Text.drop_lines_append_newline _ (newline_not_mem_decodeLossy h))

/-- The headers are those of the lines after the first. -/
theorem headersOfText_eq (head : Bytes) :
    headersOfText (Utf8.decodeLossy (head.drop (head.takeWhile (· != lineFeed)).length))
      = Headers.ofList (fields head) := by
  by_cases hlf : (10 : UInt8) ∈ head
  · obtain ⟨line, rest, rfl, hline⟩ := List.eq_append_cons_of_mem hlf
    have hrest : Utf8.decodeLossy (10 :: rest) = '\n' :: Utf8.decodeLossy rest :=
      Utf8.decodeLossy_append_ascii (by decide) [] rest
    -- the text after the request line starts with its line feed, so its first line is empty
    rw [takeWhile_append_lineFeed hline, List.drop_left, fields_append_lineFeed hline, hrest,
      headersOfText, Text.lines, if_pos rfl]
    rfl
  · rw [takeWhile_eq_self hlf, List.drop_length, fields, Framing.fieldLines,
      Text.drop_lines_eq_nil (newline_not_mem_decodeLossy hlf)]
    rfl

/-- A request is read from its head, and its body from what follows. -/
theorem parse_eq (bytes : Bytes) :
    parse bytes
      = (ofHead (Framing.splitHead bytes).1).map (fill (Framing.splitHead bytes).2) := by
  rw [parse, ofHead]
  simp only [headersOfText_eq]
  cases requestWords? ((Framing.splitHead bytes).1.takeWhile (· != lineFeed)) with
  | none => rfl
  | some ws =>
    cases ws with
    | nil => rfl
    | cons method ws =>
      cases ws with
      | nil => rfl
      | cons target more => rfl

/-- What the request in a head is made of. -/
theorem ofHead_eq_ok {head : Bytes} {r : Request} (h : ofHead head = .ok r) :
    ∃ method target more,
      requestWords? (head.takeWhile (· != lineFeed)) = some (method :: target :: more) ∧
        r = { method := .ofToken method
              target
              version := more.headD defaultVersion
              headers := Headers.ofList (fields head)
              body := []
              truncated := false } := by
  rw [ofHead] at h
  split at h
  · next method target more hwords =>
    cases h
    exact ⟨method, target, more, hwords, rfl⟩
  · cases h

/-- The request in a head has no body yet. -/
theorem bare_of_ofHead {head : Bytes} {r : Request} (h : ofHead head = .ok r) : r.bare = r := by
  obtain ⟨method, target, more, -, rfl⟩ := ofHead_eq_ok h
  rfl

/-- All but the body is read from the head. -/
theorem map_bare_parse (bytes : Bytes) :
    (parse bytes).map bare = ofHead (Framing.splitHead bytes).1 := by
  rw [parse_eq]
  cases h : ofHead (Framing.splitHead bytes).1 with
  | error e => rfl
  | ok r => exact congrArg Except.ok (bare_of_ofHead h)

/-- Reading succeeds exactly if the head holds a request. -/
theorem parse_eq_ok_iff {bytes : Bytes} {r : Request} :
    parse bytes = .ok r ↔
      ∃ q, ofHead (Framing.splitHead bytes).1 = .ok q ∧ q.fill (Framing.splitHead bytes).2 = r := by
  rw [parse_eq]
  cases ofHead (Framing.splitHead bytes).1 with
  | error e =>
    constructor
    · intro h
      cases h
    · rintro ⟨q, hq, -⟩
      cases hq
  | ok q =>
    constructor
    · intro h
      cases h
      exact ⟨q, rfl, rfl⟩
    · rintro ⟨q', hq, hfill⟩
      cases hq
      exact congrArg Except.ok hfill

/-- A name with a colon and a space behind it is read as it was written, and the rest of the line
is its value. -/
theorem headerField?_append {name : Text} (hname : Text.Solid name) (hcolon : ':' ∉ name)
    (value : Text) : headerField? (name ++ ':' :: ' ' :: value) = some (name, Text.trim value) := by
  rw [headerField?, Text.splitOnce?_append _ hcolon]
  show some (Text.trim name, Text.trim (' ' :: value)) = some (name, Text.trim value)
  rw [hname.trim_eq, Text.trim_cons_blank (by decide)]

/-! ## The declared length, read twice -/

/-- Whether a field declares the length of a body. -/
def isLengthField (field : Text × Text) : Bool :=
  Text.sameIgnoringCase field.1 Framing.contentLength

/-- The values of the lines in a head that declare a length, in order. -/
def lengthValues (head : Bytes) : List Text :=
  ((fields head).filter isLengthField).map Prod.snd

/-- Whether a head declares a length, and all its lines that do carry the number `n`. -/
structure Declares (head : Bytes) (n : Nat) : Prop where
  /-- Some line declares a length. -/
  ne_nil : lengthValues head ≠ []
  /-- The number of each such line is `n`. -/
  read?_eq : ∀ v ∈ lengthValues head, Numeral.read? 10 Numeral.limit64 v = some n

theorem lengthField?_eq (line : Text) :
    Framing.lengthField? line = (headerField? line).bind fun f =>
      if isLengthField f then Numeral.read? 10 Numeral.limit64 f.2 else none := by
  rw [Framing.lengthField?, headerField?]
  cases Text.splitOnce? ':' line <;> rfl

/-- The framing takes the first value that is a number. -/
theorem findSome?_lengthField? : ∀ ls : List Text,
    ls.findSome? Framing.lengthField?
      = (((ls.filterMap headerField?).filter isLengthField).map Prod.snd).findSome?
          (Numeral.read? 10 Numeral.limit64)
  | [] => rfl
  | l :: ls => by
    have ih := findSome?_lengthField? ls
    rw [List.findSome?_cons, lengthField?_eq, ih]
    cases hf : headerField? l with
    | none => rw [List.filterMap_cons_none hf, Option.bind_none]
    | some f =>
      rw [List.filterMap_cons_some hf, Option.bind_some]
      by_cases hlen : isLengthField f = true
      · rw [if_pos hlen, List.filter_cons_of_pos hlen, List.map_cons, List.findSome?_cons]
      · rw [if_neg hlen, List.filter_cons_of_neg hlen]

/-- Line by line, the number that all declaring lines carry is found. -/
theorem Declares.findSome?_eq {head : Bytes} {n : Nat} (h : Declares head n) :
    (Framing.fieldLines head).findSome? Framing.lengthField? = some n := by
  rw [findSome?_lengthField?]
  show (lengthValues head).findSome? _ = some n
  cases hv : lengthValues head with
  | nil => exact absurd hv h.ne_nil
  | cons v vs => rw [List.findSome?_cons, h.read?_eq v (hv ▸ List.mem_cons_self)]

/-- A declared length fits into 64 bits. -/
theorem Declares.lt_limit {head : Bytes} {n : Nat} (h : Declares head n) : n < Numeral.limit64 := by
  obtain ⟨v, hv⟩ := List.exists_mem_of_ne_nil _ h.ne_nil
  obtain ⟨-, hlt⟩ := Option.filter_eq_some_iff.mp (h.read?_eq v hv)
  exact of_decide_eq_true hlt

/-- In the header map, the same number is found. -/
theorem Declares.declaredLength?_eq {head : Bytes} {n : Nat} (h : Declares head n) {r : Request}
    (hr : ofHead head = .ok r) : r.declaredLength? = some n := by
  obtain ⟨method, target, more, -, rfl⟩ := ofHead_eq_ok hr
  rw [declaredLength?, header?]
  have hvalue : ∀ {k v : Text}, (k, v) ∈ fields head →
      Text.sameIgnoringCase k Framing.contentLength = true → v ∈ lengthValues head :=
    fun hmem hname => List.mem_map_of_mem (f := Prod.snd) (List.mem_filter.mpr ⟨hmem, hname⟩)
  cases hv : (Headers.ofList (fields head)).lookup? Framing.contentLength with
  | none =>
    have hnone : lengthValues head = [] := by
      rw [lengthValues, List.filter_eq_nil_iff.mpr]
      · rfl
      · intro f hf
        rw [isLengthField, Headers.lookup?_ofList_eq_none_iff.mp hv f hf]
        exact Bool.false_ne_true
    exact absurd hnone h.ne_nil
  | some v =>
    obtain ⟨k, hk, hname⟩ := Headers.lookup?_ofList_eq_some hv
    exact h.read?_eq v (hvalue hk hname)

/-- It declares nothing to the request either. -/
theorem declaredLength?_eq_none {head : Bytes} (h : lengthValues head = []) {r : Request}
    (hr : ofHead head = .ok r) : r.declaredLength? = none := by
  obtain ⟨method, target, more, -, rfl⟩ := ofHead_eq_ok hr
  have hnone : (Headers.ofList (fields head)).lookup? Framing.contentLength = none := by
    rw [Headers.lookup?_ofList_eq_none_iff]
    intro f hf
    rw [lengthValues, List.map_eq_nil_iff, List.filter_eq_nil_iff] at h
    exact Bool.eq_false_iff.mpr (h f hf)
  rw [declaredLength?, header?, hnone]
  rfl

/-! ## The body -/

/-- Of more bytes than are declared, those declared are the body. -/
theorem fill_of_le {r : Request} {n : Nat} {rest : Bytes} (hn : r.declaredLength? = some n)
    (hle : n ≤ rest.length) : r.fill rest = { r with body := rest.take n, truncated := false } := by
  rw [fill, hn, cutBody, if_pos hle]

/-- If nothing is declared, everything is the body. -/
theorem fill_of_none {r : Request} (hn : r.declaredLength? = none) (rest : Bytes) :
    r.fill rest = { r with body := rest, truncated := false } := by
  rw [fill, hn, cutBody]

/-! ## More bytes -/

/-- Bytes after a complete message do not change its head. -/
theorem splitHead_append_of_isComplete {xs : Bytes} (h : Framing.isComplete xs = true)
    (ys : Bytes) : Framing.splitHead (xs ++ ys)
      = ((Framing.splitHead xs).1, (Framing.splitHead xs).2 ++ ys) := by
  obtain ⟨n, hn⟩ := Framing.exists_headEnd?_of_isComplete h
  exact Framing.splitHead_append hn ys

theorem Declares.declaredLength?_eq_some {xs : Bytes} {e n : Nat}
    (he : Framing.headEnd? xs = some e) (hn : Declares (Framing.splitHead xs).1 n) :
    Framing.declaredLength? xs = some n := by
  rw [Framing.declaredLength?_eq_splitHead he, hn.findSome?_eq]

/-- A complete message holds all of the body that it declares. -/
theorem Declares.le_of_isComplete {xs : Bytes} (h : Framing.isComplete xs = true) {n : Nat}
    (hn : Declares (Framing.splitHead xs).1 n)
    (hfits : (Framing.splitHead xs).1.length + 4 + n < Numeral.limit64) :
    n ≤ (Framing.splitHead xs).2.length := by
  obtain ⟨e, he⟩ := Framing.exists_headEnd?_of_isComplete h
  have hdeclared := hn.declaredLength?_eq_some he
  have hrange : Framing.InRange xs := by
    intro e' he'
    rwa [Framing.length_splitHead he', ← Option.getD_some (a := n) (b := 0), ← hdeclared] at hfits
  have hle := Framing.le_of_isComplete h hrange
  rwa [hdeclared, Option.getD_some] at hle

/-- If it declares one, they do not change the body either. -/
theorem parse_append {xs : Bytes} (h : Framing.isComplete xs = true) {n : Nat}
    (hn : Declares (Framing.splitHead xs).1 n)
    (hfits : (Framing.splitHead xs).1.length + 4 + n < Numeral.limit64) (ys : Bytes) :
    parse (xs ++ ys) = parse xs := by
  have hle := hn.le_of_isComplete h hfits
  rw [parse_eq, parse_eq, splitHead_append_of_isComplete h]
  cases hr : ofHead (Framing.splitHead xs).1 with
  | error e => rfl
  | ok r =>
    have hlen := hn.declaredLength?_eq hr
    refine congrArg Except.ok ?_
    show r.fill _ = r.fill _
    rw [fill_of_le hlen hle, fill_of_le hlen (by rw [List.length_append]; omega),
      List.take_append_of_le_length hle]

/-- If it declares none, they are added to the body. -/
theorem parse_append_of_lengthValues {xs : Bytes} (h : Framing.isComplete xs = true)
    (hnone : lengthValues (Framing.splitHead xs).1 = []) (ys : Bytes) :
    parse (xs ++ ys) = (parse xs).map fun r => { r with body := r.body ++ ys } := by
  rw [parse_eq, parse_eq, splitHead_append_of_isComplete h]
  cases hr : ofHead (Framing.splitHead xs).1 with
  | error e => rfl
  | ok r =>
    have hlen := declaredLength?_eq_none hnone hr
    refine congrArg Except.ok ?_
    show r.fill ((Framing.splitHead xs).2 ++ ys)
      = { r.fill (Framing.splitHead xs).2 with body := (r.fill (Framing.splitHead xs).2).body ++ ys }
    rw [fill_of_none hlen, fill_of_none hlen]

/-- Without a declared length nothing is cut off. -/
theorem truncated_eq_false {bytes : Bytes} (hnone : lengthValues (Framing.splitHead bytes).1 = [])
    {r : Request} (hr : parse bytes = .ok r) : r.truncated = false := by
  obtain ⟨q, hq, rfl⟩ := parse_eq_ok_iff.mp hr
  rw [fill_of_none (declaredLength?_eq_none hnone hq)]

end Request

end Gateway.Http
