import Gateway.Proofs.Body

/-!
# Header lines

The bytes after a request line are read as text before they are cut into lines, but each line might
as well be read by itself.

*Lines of bytes.*  A line feed ends any character that is unfinished before it, so cutting and
reading commute (`filterMap_lines_decodeLossy`).  What a line carries is said in its own bytes
(`Carries`): it is cut at its first colon, and both sides are read and trimmed.  So a line without a
colon carries nothing, and no line has a part in what another one carries.

*Blocks of lines.*  For each name, in exactly its spelling, the last line that carries it decides
about its value (`Decides`).  Hence the headers of two blocks, one after the other, are those of the
first block overridden by those of the second.

`headers_by_line` says both of the requests with one request line.
-/

namespace Gateway.Http

namespace Headers

/-! ## The value of a name -/

/-- The value of a name, in exactly this spelling. -/
def get? (h : Headers) (name : Text) : Option Text := h.entries.lookup name

theorem lookup_cons (n : Text) (e : Text × Text) (es : List (Text × Text)) :
    (e :: es).lookup n = if n = e.1 then some e.2 else es.lookup n := by
  rw [List.lookup_cons]
  by_cases hn : n = e.1
  · rw [if_pos hn, beq_iff_eq.mpr hn]
  · rw [if_neg hn, beq_eq_false_iff_ne.mpr hn]

theorem lookup_setIn (name value n : Text) : ∀ es : List (Text × Text),
    (setIn name value es).lookup n = if n = name then some value else es.lookup n
  | [] => lookup_cons n (name, value) []
  | e :: es => by
    rw [setIn]
    by_cases he : e.1 = name
    · rw [if_pos he, lookup_cons, lookup_cons, he]
      by_cases hn : n = name
      · rw [if_pos hn, if_pos hn]
      · rw [if_neg hn, if_neg hn, if_neg hn]
    · rw [if_neg he, lookup_cons, lookup_cons, lookup_setIn name value n es]
      by_cases hn : n = name
      · rw [hn, if_neg (Ne.symm he), if_pos rfl, if_pos rfl]
      · rw [if_neg hn, if_neg hn]

theorem get?_set (h : Headers) (name value n : Text) :
    (h.set name value).get? n = if n = name then some value else h.get? n :=
  lookup_setIn name value n h.entries

/-- Of the pairs that are set, the last one with a name decides about it. -/
theorem get?_foldl_set (n : Text) (pairs : List (Text × Text)) (h : Headers) :
    (pairs.foldl (fun h p => h.set p.1 p.2) h).get? n = (pairs.reverse.lookup n).or (h.get? n) := by
  induction pairs generalizing h with
  | nil => rfl
  | cons p pairs ih =>
    rw [List.foldl_cons, ih, get?_set, List.reverse_cons, List.lookup_append, Option.or_assoc,
      lookup_cons, List.lookup_nil]
    by_cases hn : n = p.1
    · rw [if_pos hn, if_pos hn, Option.some_or]
    · rw [if_neg hn, if_neg hn, Option.none_or]

theorem get?_ofList (n : Text) (pairs : List (Text × Text)) :
    (ofList pairs).get? n = pairs.reverse.lookup n := by
  rw [ofList, get?_foldl_set]
  exact Option.or_none

/-- The pairs of a later list override those of an earlier one. -/
theorem get?_ofList_append (n : Text) (pairs pairs' : List (Text × Text)) :
    (ofList (pairs ++ pairs')).get? n
      = ((ofList pairs').get? n).or ((ofList pairs).get? n) := by
  rw [get?_ofList, get?_ofList, get?_ofList, List.reverse_append, List.lookup_append]

theorem get?_ofList_eq_some_iff {n v : Text} {pairs : List (Text × Text)} :
    (ofList pairs).get? n = some v ↔
      ∃ before after, pairs = before ++ (n, v) :: after ∧ ∀ p ∈ after, p.1 ≠ n := by
  rw [get?_ofList, List.lookup_eq_some_iff]
  constructor
  · rintro ⟨after, before, hpairs, hafter⟩
    refine ⟨before.reverse, after.reverse, ?_, fun p hp he => ?_⟩
    · rw [List.reverse_eq_iff.mp hpairs]
      simp
    · simpa [he] using hafter p (List.mem_reverse.mp hp)
  · rintro ⟨before, after, rfl, hafter⟩
    refine ⟨after.reverse, before.reverse, by simp, fun p hp => ?_⟩
    exact bne_iff_ne.mpr (Ne.symm (hafter p (List.mem_reverse.mp hp)))

end Headers

namespace Request

/-! ## Lines of bytes -/

/-- The byte between the name and the value of a header. -/
def colon : UInt8 := 58

/-- Whether a line carries a name and a value: it has a colon, and they stand before and after its
first one, with or without blanks around them. -/
def Carries (line : Bytes) (name value : Text) : Prop :=
  ∃ before after, line = before ++ colon :: after ∧ colon ∉ before ∧
    Text.trim (Utf8.decodeLossy before) = name ∧ Text.trim (Utf8.decodeLossy after) = value

/-- Whether a name is carried by some line of a block, and the last line that carries it carries it
with this value. -/
def Decides (block : Bytes) (name value : Text) : Prop :=
  ∃ before line after, block.splitOn lineFeed = before ++ line :: after ∧ Carries line name value ∧
    ∀ l ∈ after, ∀ v, ¬ Carries l name v

/-- What a line carries, if it has a colon. -/
def readLine? (line : Bytes) : Option (Text × Text) := headerField? (Utf8.decodeLossy line)

/-- What the lines of a block carry. -/
def blockFields (block : Bytes) : List (Text × Text) :=
  (block.splitOn lineFeed).filterMap readLine?

/-- A colon that is read comes from a colon. -/
theorem colon_not_mem_decodeLossy {line : Bytes} (h : colon ∉ line) :
    ':' ∉ Utf8.decodeLossy line :=
  fun hm => h (Utf8.mem_of_mem_decodeLossy (by decide) (by decide) hm)

theorem readLine?_append {before : Bytes} (h : colon ∉ before) (after : Bytes) :
    readLine? (before ++ colon :: after)
      = some (Text.trim (Utf8.decodeLossy before), Text.trim (Utf8.decodeLossy after)) := by
  have hcut : Utf8.decodeLossy (before ++ colon :: after)
      = Utf8.decodeLossy before ++ ':' :: Utf8.decodeLossy after :=
    Utf8.decodeLossy_append_ascii (by decide) before after
  rw [readLine?, headerField?, hcut, Text.splitOnce?_append _ (colon_not_mem_decodeLossy h)]
  rfl

theorem readLine?_eq_none {line : Bytes} (h : colon ∉ line) : readLine? line = none := by
  rw [readLine?, headerField?, Text.splitOnce?_eq_none (colon_not_mem_decodeLossy h)]
  rfl

theorem readLine?_eq_some_iff {line : Bytes} {name value : Text} :
    readLine? line = some (name, value) ↔ Carries line name value := by
  constructor
  · intro h
    by_cases hcolon : colon ∈ line
    · obtain ⟨before, after, rfl, hbefore⟩ := List.eq_append_cons_of_mem hcolon
      rw [readLine?_append hbefore] at h
      cases h
      exact ⟨before, after, rfl, hbefore, rfl, rfl⟩
    · rw [readLine?_eq_none hcolon] at h
      cases h
  · rintro ⟨before, after, rfl, hbefore, rfl, rfl⟩
    exact readLine?_append hbefore after

/-- A carriage return at the end of a line does not matter. -/
theorem headerField?_append_return (t : Text) : headerField? (t ++ ['\r']) = headerField? t := by
  by_cases hcolon : ':' ∈ t
  · obtain ⟨name, value, rfl, hname⟩ := List.eq_append_cons_of_mem hcolon
    rw [List.append_assoc, List.cons_append, headerField?, headerField?,
      Text.splitOnce?_append _ hname, Text.splitOnce?_append _ hname]
    show some (_, Text.trim (value ++ ['\r'])) = some (_, Text.trim value)
    rw [Text.trim_concat_blank (by decide)]
  · have hcolon' : ':' ∉ t ++ ['\r'] := by simp [hcolon]
    rw [headerField?, headerField?, Text.splitOnce?_eq_none hcolon,
      Text.splitOnce?_eq_none hcolon']

/-- Bytes may be read before they are cut into lines or after. -/
theorem filterMap_lines_decodeLossy (block : Bytes) :
    (Text.lines (Utf8.decodeLossy block)).filterMap headerField? = blockFields block := by
  by_cases hlf : lineFeed ∈ block
  · obtain ⟨line, rest, hblock, hline⟩ := List.eq_append_cons_of_mem hlf
    have hcut : Utf8.decodeLossy (line ++ lineFeed :: rest)
        = Utf8.decodeLossy line ++ '\n' :: Utf8.decodeLossy rest :=
      Utf8.decodeLossy_append_ascii (by decide) line rest
    obtain ⟨first, hfirst, hends⟩ := Text.exists_lines_append_newline (Utf8.decodeLossy rest)
      (newline_not_mem_decodeLossy hline)
    have hread : headerField? first = readLine? line := by
      rw [readLine?]
      rcases hends with he | he
      · rw [he]
      · rw [he, headerField?_append_return]
    have ih := filterMap_lines_decodeLossy rest
    rw [hblock, hcut, hfirst, blockFields, List.splitOn_append_cons_self_of_not_mem hline,
      List.filterMap_cons, List.filterMap_cons, hread, ih, blockFields]
  · have hnone : headerField? [] = none := rfl
    rw [blockFields, List.splitOn_eq_singleton hlf, List.filterMap_cons, List.filterMap_nil]
    cases hread : Utf8.decodeLossy block with
    | nil => simp [readLine?, hread, Text.lines, hnone]
    | cons c t =>
      have hline : '\n' ∉ c :: t := hread ▸ newline_not_mem_decodeLossy hlf
      rw [Text.lines_eq_singleton (List.cons_ne_nil c t) hline, readLine?, hread]
      rfl
termination_by block.length
decreasing_by
  rw [hblock, List.length_append, List.length_cons]
  omega

/-! ## Blocks of lines -/

theorem get?_blockFields_eq_some_iff {block : Bytes} {name value : Text} :
    (Headers.ofList (blockFields block)).get? name = some value ↔ Decides block name value := by
  rw [Headers.get?_ofList_eq_some_iff]
  constructor
  · rintro ⟨before, after, hfields, hafter⟩
    obtain ⟨first, rest, hlines, -, hrest⟩ := List.filterMap_eq_append_iff.mp hfields
    obtain ⟨skip, line, last, rfl, -, hline, rfl⟩ := List.filterMap_eq_cons_iff.mp hrest
    refine ⟨first ++ skip, line, last, by rw [hlines, List.append_assoc],
      readLine?_eq_some_iff.mp hline, fun l hl v hv => ?_⟩
    exact hafter (name, v) (List.mem_filterMap.mpr ⟨l, hl, readLine?_eq_some_iff.mpr hv⟩) rfl
  · rintro ⟨before, line, after, hlines, hline, hafter⟩
    refine ⟨before.filterMap readLine?, after.filterMap readLine?, ?_, ?_⟩
    · rw [blockFields, hlines, List.filterMap_append,
        List.filterMap_cons_some (readLine?_eq_some_iff.mpr hline)]
    · rintro ⟨n, v⟩ hp rfl
      obtain ⟨l, hl, hv⟩ := List.mem_filterMap.mp hp
      exact hafter l hl v (readLine?_eq_some_iff.mp hv)

/-- Whole lines carry the same in front of others. -/
theorem blockFields_append {block : Bytes} (h : block = [] ∨ block.getLast? = some lineFeed)
    (more : Bytes) : blockFields (block ++ more) = blockFields block ++ blockFields more := by
  have hempty : blockFields [] = [] := rfl
  rcases h with rfl | h
  · rw [hempty, List.nil_append, List.nil_append]
  · obtain ⟨front, rfl⟩ := List.getLast?_eq_some_iff.mp h
    rw [List.append_assoc, List.singleton_append, blockFields, blockFields, blockFields,
      List.splitOn_append_cons_self, List.splitOn_append_cons_self, List.splitOn_nil,
      List.filterMap_append, List.filterMap_append]
    simp [readLine?, headerField?, Text.splitOnce?, Utf8.decodeLossy, Utf8.pieces]

/-- A request with the request line of another, and with the headers of a block after it. -/
structure Extends (r : Request) (block : Bytes) (q : Request) : Prop where
  method : q.method = r.method
  target : q.target = r.target
  version : q.version = r.version
  headers : ∀ name value, q.headers.get? name = some value ↔ Decides block name value

/-- A block after a request line adds its headers to what is read of that line. -/
theorem ofHead_append_block {line : Bytes} (hline : lineFeed ∉ line) {q : Request}
    (hq : ofHead (line ++ [lineFeed]) = .ok q) (block : Bytes) :
    ofHead (line ++ lineFeed :: block)
      = .ok { q with headers := Headers.ofList (blockFields block) } := by
  have hfirst : ∀ rest, (line ++ lineFeed :: rest).takeWhile (· != lineFeed) = line :=
    takeWhile_append_lineFeed hline
  have hfields : fields (line ++ lineFeed :: block) = blockFields block := by
    rw [← filterMap_lines_decodeLossy]
    exact fields_append_lineFeed hline block
  obtain ⟨method, target, more, hwords, rfl⟩ := ofHead_eq_ok hq
  rw [hfirst] at hwords
  rw [ofHead, hfirst, hwords, hfields]

theorem exists_parse_append {line block : Bytes} {r : Request} (hline : lineFeed ∉ line)
    (hr : parse (line ++ [lineFeed]) = .ok r)
    (hnone : Framing.headEnd? (line ++ lineFeed :: block) = none) :
    ∃ q, parse (line ++ lineFeed :: block) = .ok q ∧ Extends r block q ∧
      q.headers = Headers.ofList (blockFields block) := by
  have hstart : Framing.headEnd? (line ++ [lineFeed]) = none := by
    refine Framing.headEnd?_eq_none_of_isPrefix ⟨block, ?_⟩ hnone
    rw [List.append_assoc, List.singleton_append]
  obtain ⟨q, hq, rfl⟩ := (parse_eq_ok_iff_of_headEnd?_eq_none hstart).mp hr
  refine ⟨_, (parse_eq_ok_iff_of_headEnd?_eq_none hnone).mpr
    ⟨_, ofHead_append_block hline hq block, rfl⟩, ⟨rfl, rfl, rfl, fun name value => ?_⟩, rfl⟩
  exact get?_blockFields_eq_some_iff

/-- After one request line, blocks of lines give the headers that their lines carry: for each name
the last line that carries it decides.  If whole lines stand in front of other lines, the headers of
both together are those of the former overridden by those of the latter, name by name.  The method,
the target and the version are those of the request line alone. -/
theorem headers_by_line {line block more : Bytes} {r : Request} (hline : lineFeed ∉ line)
    (hr : parse (line ++ [lineFeed]) = .ok r)
    (hblock : block = [] ∨ block.getLast? = some lineFeed)
    (hnone : Framing.headEnd? (line ++ lineFeed :: block) = none)
    (hnone' : Framing.headEnd? (line ++ lineFeed :: more) = none)
    (hboth : Framing.headEnd? (line ++ lineFeed :: (block ++ more)) = none) :
    ∃ p p' q, parse (line ++ lineFeed :: block) = .ok p ∧
      parse (line ++ lineFeed :: more) = .ok p' ∧
      parse (line ++ lineFeed :: (block ++ more)) = .ok q ∧
      Extends r block p ∧ Extends r more p' ∧ Extends r (block ++ more) q ∧
      ∀ name, q.headers.get? name = (p'.headers.get? name).or (p.headers.get? name) := by
  obtain ⟨p, hp, hextends, hheaders⟩ := exists_parse_append hline hr hnone
  obtain ⟨p', hp', hextends', hheaders'⟩ := exists_parse_append hline hr hnone'
  obtain ⟨q, hq, hextends'', hheaders''⟩ := exists_parse_append hline hr hboth
  refine ⟨p, p', q, hp, hp', hq, hextends, hextends', hextends'', fun name => ?_⟩
  rw [hheaders, hheaders', hheaders'', blockFields_append hblock]
  exact Headers.get?_ofList_append name _ _

/-- A line without a colon carries nothing. -/
theorem not_carries {line : Bytes} (h : colon ∉ line) (name value : Text) :
    ¬ Carries line name value := by
  rw [← readLine?_eq_some_iff, readLine?_eq_none h]
  exact fun hc => nomatch hc

/-- The two bytes of a character stand on two lines, where each is invalid by itself.  The second
line has no colon, and the third one overrides the first. -/
theorem headers_by_line_torn :
    let line := Utf8.encode "GET / HTTP/1.1\r".toList
    let block := Utf8.encode "Tag:".toList ++ [0xC3, lineFeed]
    let more := 0xA9 :: lineFeed :: Utf8.encode "Tag : b".toList
    lineFeed ∉ line ∧ (∃ r, parse (line ++ [lineFeed]) = .ok r) ∧ block.getLast? = some lineFeed ∧
      Framing.headEnd? (line ++ lineFeed :: block) = none ∧
      Framing.headEnd? (line ++ lineFeed :: more) = none ∧
      Framing.headEnd? (line ++ lineFeed :: (block ++ more)) = none ∧
      ∃ p q, parse (line ++ lineFeed :: block) = .ok p ∧
        parse (line ++ lineFeed :: (block ++ more)) = .ok q ∧
        p.headers.get? "Tag".toList = some ['\uFFFD'] ∧
        q.headers.get? "Tag".toList = some ['b'] := by
  intro line block more
  have hline : lineFeed ∉ line := by decide
  have hr : ∃ r, parse (line ++ [lineFeed]) = .ok r := ⟨_, rfl⟩
  have hblock : block.getLast? = some lineFeed := by decide
  have hnone : Framing.headEnd? (line ++ lineFeed :: block) = none := by decide
  have hnone' : Framing.headEnd? (line ++ lineFeed :: more) = none := by decide
  have hboth : Framing.headEnd? (line ++ lineFeed :: (block ++ more)) = none := by decide
  obtain ⟨r, hr'⟩ := hr
  obtain ⟨p, p', q, hp, -, hq, hfirst, hsecond, -, hover⟩ :=
    headers_by_line hline hr' (.inr hblock) hnone hnone' hboth
  have htag : p.headers.get? "Tag".toList = some ['\uFFFD'] := by
    rw [hfirst.headers]
    refine ⟨[], Utf8.encode "Tag:".toList ++ [0xC3], [[]], by decide, ?_, ?_⟩
    · exact ⟨Utf8.encode "Tag".toList, [0xC3], by decide, by decide, by decide, by decide⟩
    · exact fun l hl => not_carries (List.mem_singleton.mp hl ▸ List.not_mem_nil) _
  have htag' : p'.headers.get? "Tag".toList = some ['b'] := by
    rw [hsecond.headers]
    refine ⟨[[0xA9]], Utf8.encode "Tag : b".toList, [], by decide, ?_, fun l hl => nomatch hl⟩
    exact ⟨Utf8.encode "Tag ".toList, Utf8.encode " b".toList, by decide, by decide, by decide,
      by decide⟩
  refine ⟨hline, ⟨r, hr'⟩, hblock, hnone, hnone', hboth, p, q, hp, hq, htag, ?_⟩
  rw [hover, htag']
  rfl

end Request

end Gateway.Http
