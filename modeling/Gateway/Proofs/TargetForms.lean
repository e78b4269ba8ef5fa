import Gateway.Proofs.Confinement
import Gateway.Proofs.Text

/-!
# Forms of a target

A file can be asked for in many ways, and none of them shows in the response.

*What a response depends on.*  A responder reads two things off a target before it looks at the
tree, whether it holds a NUL and whether it holds a segment `..`.  Then it walks.  Targets that
agree in these three things get one response, be it a file or a refusal
(`Responder.serve_congr_target`).

*Padding.*  `Padding` is a text of slashes and `./`.  Where a segment may start, it adds segments
that lead nowhere in front of one that is there already (`Padding.exists_split`,
`StartsSegment.exists_split`).  A walk does not notice them (`Tree.walk_insert`).

*Canonical locations.*  Of a walk that succeeds, only its end shows.  So targets whose paths have
one canonical location get one response, through whatever links they lead there
(`Responder.serve_of_canonical_eq`).

`Responder.serve_equivalent` has all forms in one place.
-/

namespace Gateway.Files

open Gateway.Http

/-! ## Padding -/

/-- Text of slashes and `./`. -/
inductive Padding : Text → Prop where
  | nil : Padding []
  | slash {pad : Text} : Padding pad → Padding ('/' :: pad)
  | dot {pad : Text} : Padding pad → Padding ('.' :: '/' :: pad)

/-- What follows this text starts a segment. -/
inductive StartsSegment : Text → Prop where
  | nil : StartsSegment []
  | slash {front : Text} : StartsSegment (front ++ ['/'])

theorem Padding.eq_or_eq {pad : Text} (h : Padding pad) {c : Char} (hc : c ∈ pad) :
    c = '/' ∨ c = '.' := by
  induction h with
  | nil => simp at hc
  | slash _ ih =>
      obtain rfl | hc := List.mem_cons.1 hc
      · exact .inl rfl
      · exact ih hc
  | dot _ ih =>
      obtain rfl | hc := List.mem_cons.1 hc
      · exact .inr rfl
      · obtain rfl | hc := List.mem_cons.1 hc
        · exact .inl rfl
        · exact ih hc

theorem Padding.exists_split {pad : Text} (h : Padding pad) :
    ∃ pads : List Text, (∀ p ∈ pads, p = [] ∨ p = ['.']) ∧
      ∀ back, Text.split '/' (pad ++ back) = pads ++ Text.split '/' back := by
  induction h with
  | nil => exact ⟨[], by simp⟩
  | slash _ ih =>
      obtain ⟨pads, hpads, hsplit⟩ := ih
      exact ⟨[] :: pads, by simpa using hpads, fun back => by simp [Text.split, hsplit]⟩
  | dot _ ih =>
      obtain ⟨pads, hpads, hsplit⟩ := ih
      exact ⟨['.'] :: pads, by simpa using hpads,
        fun back => by simp [Text.split, Text.consLine, hsplit]⟩

theorem StartsSegment.exists_split {front : Text} (h : StartsSegment front) :
    ∃ pre : List Text, ∀ back, Text.split '/' (front ++ back) = pre ++ Text.split '/' back := by
  cases h with
  | nil => exact ⟨[], fun _ => rfl⟩
  | @slash front =>
      exact ⟨Text.split '/' front, fun back => by
        rw [List.append_assoc]
        exact Text.split_append_cons '/' back front⟩

theorem idle_encode {p : Text} (h : p = [] ∨ p = ['.']) : Idle (Utf8.encode p) := by
  obtain rfl | rfl := h
  · exact .inl rfl
  · exact .inr (by decide)

/-- A walk along a text does not notice padding in front of a segment. -/
theorem Tree.walk_padding {t : Tree} {front pad : Text} (hfront : StartsSegment front)
    (hpad : Padding pad) (back : Text) (links : Nat) (root : Location) :
    t.walk links [] (root ++ segments (Utf8.encode (front ++ (pad ++ back))))
      = t.walk links [] (root ++ segments (Utf8.encode (front ++ back))) := by
  obtain ⟨pre, hpre⟩ := hfront.exists_split
  obtain ⟨pads, hpads, hsplit⟩ := hpad.exists_split
  obtain ⟨s, post, hback⟩ := List.exists_cons_of_ne_nil (Text.split_ne_nil '/' back)
  have hidle : ∀ p ∈ pads.map Utf8.encode, Idle p := by
    intro p hp
    obtain ⟨q, hq, rfl⟩ := List.mem_map.1 hp
    exact idle_encode (hpads q hq)
  have hinsert := t.walk_insert hidle (Utf8.encode s) (post.map Utf8.encode) links []
    (root ++ pre.map Utf8.encode)
  rw [segments_encode, segments_encode, hpre, hpre, hsplit, hback]
  simpa using hinsert

namespace Responder

variable {r : Responder} {t : Tree}

/-! ## What a response depends on -/

/-- What follows a question mark is not asked for. -/
theorem asked_query (target query : Text) : asked (target ++ '?' :: query) = asked target := by
  induction target with
  | nil => simp [asked]
  | cons c target ih =>
      rw [asked, asked] at ih
      rw [asked, asked, List.cons_append, List.takeWhile_cons, List.takeWhile_cons, ih]

theorem asked_append {front : Text} (h : '?' ∉ front) (back : Text) :
    asked (front ++ back) = front ++ asked back :=
  List.takeWhile_append_of_pos fun c hc => by
    simpa using fun hmark : c = '?' => h (hmark ▸ hc)

theorem asked_append_of_mem {front : Text} (h : '?' ∈ front) (back : Text) :
    asked (front ++ back) = asked front := by
  obtain ⟨target, query, rfl, -⟩ := List.eq_append_cons_of_mem h
  rw [List.append_assoc, List.cons_append, asked_query, asked_query]

theorem relativePath_eq (target : Text) :
    relativePath target = (asked target).dropWhile (· == '/') := rfl

theorem relativePath_slashes {slashes : Text} (h : ∀ c ∈ slashes, c = '/') (target : Text) :
    relativePath (slashes ++ target) = relativePath target := by
  have hmark : '?' ∉ slashes := fun hm => absurd (h _ hm) (by decide)
  rw [relativePath_eq, relativePath_eq, asked_append hmark]
  exact List.dropWhile_append_of_pos fun c hc => by simpa using h c hc

/-- A walk would not notice the leading slashes that a responder strips. -/
theorem walk_relativePath (target : Text) (links : Nat) (root : Location) :
    t.walk links [] (root ++ segments (Utf8.encode (relativePath target)))
      = t.walk links [] (root ++ segments (Utf8.encode (asked target))) := by
  rw [relativePath_eq]
  induction asked target with
  | nil => rfl
  | cons c rest ih =>
      by_cases hc : c = '/'
      · -- One slash is padding at the start.
        subst hc
        rw [List.dropWhile_cons_of_pos (by simp), ih]
        exact (Tree.walk_padding .nil (.slash .nil) rest links root).symm
      · rw [List.dropWhile_cons_of_neg (by simpa using hc)]

theorem serve_of_relativePath_eq {target target' : Text}
    (h : relativePath target = relativePath target') : r.serve t target = r.serve t target' := by
  simp only [serve, find, resolve, relative, h]

/-- Targets that pass the same checks and walk alike get one response. -/
theorem serve_congr_target {target target' : Text}
    (hnul : '\x00' ∈ asked target ↔ '\x00' ∈ asked target')
    (hparent : ['.', '.'] ∈ Text.split '/' (asked target) ↔
      ['.', '.'] ∈ Text.split '/' (asked target'))
    (hwalk : t.walk Tree.maxLinks [] (r.root ++ segments (Utf8.encode (relativePath target)))
      = t.walk Tree.maxLinks [] (r.root ++ segments (Utf8.encode (relativePath target')))) :
    r.serve t target = r.serve t target' := by
  have hresolve : r.resolve t target = r.resolve t target' := by
    simp only [resolve, relative_eq, hnul, hparent]
    by_cases hinvalid : '\x00' ∈ asked target'
    · simp only [hinvalid, if_true]
    · by_cases hescapes : ['.', '.'] ∈ Text.split '/' (asked target')
      · simp only [hinvalid, hescapes, if_true, if_false]
      · simp only [hinvalid, hescapes, if_false, hwalk]
  simp only [serve, find, hresolve]

/-! ## Equivalent targets -/

theorem serve_padding {front pad : Text} (hfront : StartsSegment front) (hpad : Padding pad)
    (back : Text) : r.serve t (front ++ (pad ++ back)) = r.serve t (front ++ back) := by
  by_cases hmark : '?' ∈ front
  · -- The padding is part of the query.
    apply serve_of_relativePath_eq
    simp only [relativePath_eq, asked_append_of_mem hmark]
  · have hpadmark : '?' ∉ pad := fun h => by simpa using hpad.eq_or_eq h
    have hpadnul : '\x00' ∉ pad := fun h => by simpa using hpad.eq_or_eq h
    obtain ⟨pre, hpre⟩ := hfront.exists_split
    obtain ⟨pads, hpads, hsplit⟩ := hpad.exists_split
    have hparent : ['.', '.'] ∉ pads := fun h => by simpa using hpads _ h
    apply serve_congr_target
    · simp [asked_append hmark, asked_append hpadmark, hpadnul]
    · simp [asked_append hmark, asked_append hpadmark, hpre, hsplit, hparent]
    · rw [walk_relativePath, walk_relativePath, asked_append hmark, asked_append hmark,
        asked_append hpadmark]
      exact Tree.walk_padding hfront hpad (asked back) Tree.maxLinks r.root

theorem serve_of_canonical_eq (hroot : ∀ n ∈ r.root, slash ∉ n) {target target' : Text}
    (h : Permitted target) (h' : Permitted target')
    (hcanonical : t.canonical [] (pathOf r.root ++ slash :: Utf8.encode (relativePath target))
      = t.canonical [] (pathOf r.root ++ slash :: Utf8.encode (relativePath target'))) :
    r.serve t target = r.serve t target' := by
  rw [Tree.canonical_pathOf_append hroot, Tree.canonical_pathOf_append hroot] at hcanonical
  exact serve_congr_target (iff_of_false h.no_nul h'.no_nul)
    (iff_of_false h.no_parent h'.no_parent) hcanonical

/-- A responder that was mounted for some root answers all forms of a target alike, in whatever tree
it finds then.  A query changes nothing, nor do leading slashes, nor does padding wherever a segment
may start.  Two targets that may name paths get one response if these paths have one canonical
location, through whatever links. -/
theorem serve_equivalent {mounted : Tree} {base : Location} {root : Bytes} {max : Nat}
    (hbase : ∀ n ∈ base, slash ∉ n) (hmount : mount mounted base root max = .ok r) (t : Tree) :
    (∀ target query, r.serve t (target ++ '?' :: query) = r.serve t target) ∧
      (∀ slashes target, (∀ c ∈ slashes, c = '/') →
        r.serve t (slashes ++ target) = r.serve t target) ∧
      (∀ front pad back, StartsSegment front → Padding pad →
        r.serve t (front ++ (pad ++ back)) = r.serve t (front ++ back)) ∧
      ∀ target target' location, Permitted target → Permitted target' →
        t.canonical [] (pathOf r.root ++ slash :: Utf8.encode (relativePath target))
          = .ok location →
        t.canonical [] (pathOf r.root ++ slash :: Utf8.encode (relativePath target'))
          = .ok location →
        r.serve t target = r.serve t target' := by
  have hroot : ∀ n ∈ r.root, slash ∉ n := fun n hn =>
    ((Tree.canonical_real hbase (of_mount hmount).1).isName n hn).slash_not_mem
  refine ⟨fun target query => ?query, fun slashes target hslashes => ?slashes,
    fun front pad back hfront hpad => serve_padding hfront hpad back,
    fun target target' location h h' hlocation hlocation' => ?canonical⟩
  case query =>
    apply serve_of_relativePath_eq
    rw [relativePath_eq, relativePath_eq, asked_query]
  case slashes => exact serve_of_relativePath_eq (relativePath_slashes hslashes target)
  case canonical => exact serve_of_canonical_eq hroot h h' (hlocation.trans hlocation'.symm)

/-- In `/w`, the link `b` stands for the file `a`.  A query, slashes and padding make no difference
to what is sent of it. -/
theorem serve_equivalent_links :
    let r : Responder := { root := [[119]], maxFileSize := 4 }
    let t := linkedSite [1]
    mount t [[119]] [46, 46, 47, 114] 4 = .ok r ∧
      r.serve t "/a?q".toList = r.serve t "/a".toList ∧
      r.serve t "///a".toList = r.serve t "a".toList ∧
      r.serve t "/././/a".toList = r.serve t "/a".toList ∧
      r.serve t "/b".toList = r.serve t "/a".toList ∧
      (r.serve t "/b".toList).body = [104, 101, 108, 108] := by
  intro r t
  obtain ⟨-, hlink, -⟩ := canonical_linkedSite [1]
  have hfile : t.canonical [] [47, 119, 47, 97] = .ok [[119], [97]] := by
    simp [t, Tree.canonical, Tree.maxLinks, Tree.walk, Tree.look, Tree.maxName, Tree.node?,
      linkedSite, List.lookup_cons, segments, isAbsolute, needsDirectory, slash, dot, dotDot]
  have hnames : ∀ n ∈ [[119]], slash ∉ n := by simp [slash]
  have hmount : mount t [[119]] [46, 46, 47, 114] 4 = .ok r := mount_linkedSite [1]
  have hserves : Serves r t "/b".toList [[119], [97]] [104, 101, 108, 108, 111] :=
    { permitted := ⟨by decide, by decide⟩
      canonical := hlink
      inside := by simp [r]
      file := ⟨_, rfl, rfl⟩ }
  obtain ⟨hquery, hslashes, hpadding, hcanonical⟩ := serve_equivalent hnames hmount t
  refine ⟨hmount, hquery "/a".toList "q".toList, hslashes ['/', '/', '/'] "a".toList (by simp),
    hpadding "/".toList "././/".toList "a".toList (@StartsSegment.slash [])
      (.dot (.dot (.slash .nil))),
    hcanonical _ _ _ hserves.permitted ⟨by decide, by decide⟩ hlink hfile, ?_⟩
  rw [hserves.serve_eq hnames]
  rfl

end Responder

end Gateway.Files
