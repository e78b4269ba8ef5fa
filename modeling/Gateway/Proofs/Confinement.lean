import Gateway.Files.Responder
import Gateway.Proofs.Utf8
import Gateway.Proofs.Walk

/-!
# Confinement of served files

Whatever links a file tree holds, nothing outside the served root reaches a client.

*Targets.*  The responder strips leading slashes and reads the bytes of what is left.  Neither
matters to the two lexical checks: a target passes them exactly if the characters before its query
hold no NUL and no segment `..` (`Responder.relative_eq_ok`).

*Files.*  `Responder.Serves` says what leads a target to a file, in terms of the canonical location
of its path.  A target is found exactly if it is served some file (`Responder.find_eq_ok`).

*Dependence.*  Canonical locations do not depend on what files hold, and only a file inside the root
is read.  So a responder cannot tell trees apart that differ in files outside
(`Responder.serve_congr`).

`Responder.serve_confined` puts the three together.
-/

namespace Gateway.Files

open Gateway.Http

/-! ## Segments of text -/

/-- Cutting a text at slashes and writing it as bytes commute: a slash is a byte of no other
character. -/
theorem segments_encode (t : Text) :
    segments (Utf8.encode t) = (Text.split '/' t).map Utf8.encode := by
  induction t with
  | nil => simp [Text.split]
  | cons c t ih =>
      by_cases hc : c = '/'
      · subst hc
        have hslash : String.utf8EncodeChar '/' = [slash] := Utf8.utf8EncodeChar_ascii (by simp)
        simp [Text.split, hslash, ih]
      · have hslash : slash ∉ String.utf8EncodeChar c := fun h =>
          hc (Utf8.eq_of_mem_utf8EncodeChar h (by simp [slash])).symm
        cases hsplit : Text.split '/' t with
        | nil =>
            rw [hsplit] at ih
            exact absurd ih (segments_ne_nil _)
        | cons s ss =>
            rw [hsplit, List.map_cons] at ih
            simp [Text.split, hc, hsplit, Text.consLine, segments_append hslash ih]

theorem encode_mem_segments {s t : Text} :
    Utf8.encode s ∈ segments (Utf8.encode t) ↔ s ∈ Text.split '/' t := by
  simp [segments_encode, Utf8.encode_injective.eq_iff]

/-- Leading slashes add nothing but empty segments. -/
theorem mem_split_dropWhile {s : Text} (hs : s ≠ []) (t : Text) :
    s ∈ Text.split '/' (t.dropWhile (· == '/')) ↔ s ∈ Text.split '/' t := by
  induction t with
  | nil => simp
  | cons c t ih =>
      by_cases hc : c = '/'
      · simp [hc, Text.split, ih, hs]
      · simp [hc]

theorem mem_dropWhile_slash {c : Char} (hc : c ≠ '/') (t : Text) :
    c ∈ t.dropWhile (· == '/') ↔ c ∈ t := by
  induction t with
  | nil => simp
  | cons d t ih =>
      by_cases hd : d = '/'
      · simp [hd, ih, hc]
      · simp [hd]

/-! ## The media type of a location -/

theorem fileName?_pathOf {l : Location} (hl : ∀ n ∈ l, IsName n) :
    fileName? (pathOf l) = l.getLast? := by
  have hsegments : segments (pathOf l) = [] :: l := by
    simpa using segments_pathOf_append (fun n hn => (hl n hn).slash_not_mem) segments_nil
  have hfilter : l.filter (fun s => s ≠ [] ∧ s ≠ dot) = l :=
    List.filter_eq_self.2 fun n hn => by simp [(hl n hn).ne_nil, (hl n hn).ne_dot]
  rw [fileName?, hsegments, List.filter_cons_of_neg (by simp), hfilter]
  cases h : l.getLast? with
  | none => rfl
  | some n => simp [(hl n (List.mem_of_getLast? h)).ne_dotDot]

theorem fileName?_name {n : Name} (hn : IsName n) : fileName? n = some n := by
  simp [fileName?, segments_eq_singleton hn.slash_not_mem, hn.ne_nil, hn.ne_dot, hn.ne_dotDot]

/-- The last name of a location alone decides about its media type. -/
theorem ofPath_pathOf {l : Location} (hl : ∀ n ∈ l, IsName n) :
    MediaType.ofPath (pathOf l) = MediaType.ofPath (l.getLastD []) := by
  rw [MediaType.ofPath, MediaType.ofPath, fileName?_pathOf hl, List.getLastD_eq_getLast?]
  cases h : l.getLast? with
  | none => rfl
  | some n => rw [Option.getD_some, fileName?_name (hl n (List.mem_of_getLast? h))]

/-- Trees that differ at most in what files outside a location hold. -/
structure Tree.DiffersOutside (root : Location) (t t' : Tree) : Prop where
  alike : t.Alike t'
  inside : ∀ l, root <+: l → t.node? l = t'.node? l

namespace Responder

/-! ## Targets -/

/-- The part of a target that asks for a file. -/
def asked (target : Text) : Text := target.takeWhile (· != '?')

/-- A target that may name a path below the root. -/
structure Permitted (target : Text) : Prop where
  no_nul : '\x00' ∉ asked target
  no_parent : ['.', '.'] ∉ Text.split '/' (asked target)

theorem permitted_iff {target : Text} :
    Permitted target ↔ '\x00' ∉ asked target ∧ ['.', '.'] ∉ Text.split '/' (asked target) :=
  ⟨fun h => ⟨h.no_nul, h.no_parent⟩, fun h => ⟨h.1, h.2⟩⟩

/-- What is refused before the tree is looked at. -/
theorem relative_eq (target : Text) :
    relative target =
      if '\x00' ∈ asked target then .error .invalid
      else if ['.', '.'] ∈ Text.split '/' (asked target) then .error .escapes
      else .ok (segments (Utf8.encode (relativePath target))) := by
  have hnul : '\x00' ∈ relativePath target ↔ '\x00' ∈ asked target :=
    mem_dropWhile_slash (by simp) (asked target)
  have hparent : dotDot ∈ segments (Utf8.encode (relativePath target)) ↔
      ['.', '.'] ∈ Text.split '/' (asked target) :=
    encode_mem_segments.trans (mem_split_dropWhile (s := ['.', '.']) (by simp) (asked target))
  simp only [relative, List.contains_iff_mem, hnul, hparent]

theorem relative_eq_ok {target : Text} {ss : List Bytes} :
    relative target = .ok ss ↔
      Permitted target ∧ segments (Utf8.encode (relativePath target)) = ss := by
  rw [relative_eq, permitted_iff]
  split
  · next h => simp [h]
  · next h =>
    split
    · next h' => simp [h']
    · next h' => simp [h, h']

/-! ## Files -/

/-- What leads a target to a location and the bytes of the file there: it names a path below the
root, the canonical location of that path lies in the root, and a file that may be read is there. -/
structure Serves (r : Responder) (t : Tree) (target : Text) (location : Location)
    (content : Bytes) : Prop where
  permitted : Permitted target
  canonical : t.canonical [] (pathOf r.root ++ slash :: Utf8.encode (relativePath target))
    = .ok location
  inside : r.root <+: location
  file : ∃ access, t.node? location = some { entry := .file content, access } ∧ access.read = true

variable {r : Responder} {t t' : Tree} {target : Text}

theorem resolve_eq_ok (hroot : ∀ n ∈ r.root, slash ∉ n) {location : Location} :
    r.resolve t target = .ok location ↔
      Permitted target ∧
        t.canonical [] (pathOf r.root ++ slash :: Utf8.encode (relativePath target))
          = .ok location ∧
        r.root <+: location := by
  rw [Tree.canonical_pathOf_append hroot, resolve]
  cases hrelative : relative target with
  | error e =>
      have hnot : ¬ Permitted target := fun h => by
        have hok := relative_eq_ok.2 ⟨h, rfl⟩
        simp [hrelative] at hok
      simp [hnot]
  | ok ss =>
      obtain ⟨hpermitted, rfl⟩ := relative_eq_ok.1 hrelative
      simp only [hpermitted, true_and, List.isPrefixOf_iff_prefix]
      generalize t.walk _ _ _ = reached
      cases reached with
      | error e => simp
      | ok l =>
          by_cases h : r.root <+: l
          · simp only [h, if_true, Except.ok.injEq, iff_self_and]
            rintro rfl
            exact h
          · simp only [h, if_false, reduceCtorEq, Except.ok.injEq, false_iff, not_and]
            rintro rfl
            exact h

theorem content_eq_ok {location : Location} {bytes : Bytes} :
    r.content t location = .ok bytes ↔
      ∃ content, (∃ access, t.node? location = some { entry := .file content, access } ∧
        access.read = true) ∧ content.take r.maxFileSize = bytes := by
  unfold content
  cases t.node? location with
  | none => simp
  | some node =>
      obtain ⟨entry, ⟨read, search⟩⟩ := node
      cases read with
      | false => simp
      | true => cases entry <;> simp [and_assoc]

/-- A target is found exactly if it is served a file. -/
theorem find_eq_ok (hroot : ∀ n ∈ r.root, slash ∉ n) {location : Location} {bytes : Bytes} :
    r.find t target = .ok (location, bytes) ↔
      ∃ content, Serves r t target location content ∧ content.take r.maxFileSize = bytes := by
  constructor
  · intro h
    rw [find] at h
    cases hresolve : r.resolve t target with
    | error e => simp [hresolve] at h
    | ok l =>
        cases hcontent : r.content t l with
        | error e => simp [hresolve, hcontent] at h
        | ok b =>
            simp only [hresolve, hcontent, Except.ok.injEq, Prod.mk.injEq] at h
            obtain ⟨rfl, rfl⟩ := h
            obtain ⟨hpermitted, hcanonical, hinside⟩ := (resolve_eq_ok hroot).1 hresolve
            obtain ⟨content, hfile, htake⟩ := content_eq_ok.1 hcontent
            exact ⟨content, ⟨hpermitted, hcanonical, hinside, hfile⟩, htake⟩
  · rintro ⟨content, h, htake⟩
    have hresolve := (resolve_eq_ok hroot).2 ⟨h.permitted, h.canonical, h.inside⟩
    have hcontent := content_eq_ok.2 ⟨content, h.file, htake⟩
    simp [find, hresolve, hcontent]

/-- What is sent of the file that a target is served. -/
theorem Serves.serve_eq (hroot : ∀ n ∈ r.root, slash ∉ n) {location : Location} {content : Bytes}
    (h : Serves r t target location content) :
    r.serve t target
      = Response.build .ok (typeHeader location) (content.take r.maxFileSize) := by
  rw [serve, (find_eq_ok hroot).2 ⟨content, h, rfl⟩]

/-- A refusal is answered with 403 or 404. -/
theorem status_response (refusal : Refusal) :
    refusal.response.status = .forbidden ∨ refusal.response.status = .notFound := by
  cases refusal with
  | invalid => simp [Refusal.response, Response.errorPage, Response.build]
  | escapes => simp [Refusal.response, Response.forbidden, Response.errorPage, Response.build]
  | failed e =>
      cases e <;> simp [Refusal.response, Response.forbidden, Response.notFound,
        Response.errorPage, Response.build]

theorem status_eq_ok_iff :
    (r.serve t target).status = .ok ↔ ∃ found, r.find t target = .ok found := by
  rw [serve]
  cases r.find t target with
  | error refusal => obtain h | h := status_response refusal <;> simp [h]
  | ok found => simp [Response.build]

theorem header?_typeHeader (location : Location) (bytes : Bytes) :
    (Response.build .ok (typeHeader location) bytes).header? "Content-Type".toList
      = some (MediaType.ofPath (location.getLastD [])) := rfl

/-! ## Dependence on the tree -/

theorem mount_congr (h : t.Alike t') (base : Location) (root : Bytes) (max : Nat) :
    mount t base root max = mount t' base root max := by
  simp [mount, Tree.canonical_congr h]

theorem resolve_congr (h : t.Alike t') (r : Responder) (target : Text) :
    r.resolve t target = r.resolve t' target := by
  simp [resolve, Tree.walk_congr h]

theorem root_isPrefix_of_resolve {location : Location} (h : r.resolve t target = .ok location) :
    r.root <+: location := by
  unfold resolve at h
  grind

theorem serve_congr (h : Tree.DiffersOutside r.root t t') (target : Text) :
    r.serve t target = r.serve t' target := by
  have hfind : r.find t target = r.find t' target := by
    rw [find, find, ← resolve_congr h.alike r target]
    cases hlocation : r.resolve t target with
    | error e => rfl
    | ok location =>
        have hinside := h.inside location (root_isPrefix_of_resolve hlocation)
        simp [content, hinside]
  simp [serve, hfind]

/-- The root of a mounted responder is the canonical location of the given path. -/
theorem of_mount {base : Location} {root : Bytes} {max : Nat} (h : mount t base root max = .ok r) :
    t.canonical base root = .ok r.root ∧ r.maxFileSize = max := by
  rw [mount] at h
  cases hcanonical : t.canonical base root with
  | error e => simp [hcanonical, Except.map] at h
  | ok l =>
      rw [hcanonical] at h
      cases h
      exact ⟨rfl, rfl⟩

/-- A responder for an existing root answers 200 exactly if the target is served a file, whose
canonical location then lies in the root and goes through no link.  What is sent is the start of
that file, under the media type of its canonical path.  In a tree that differs only in what files
outside the root hold, the responder is the same and so is each of its answers. -/
theorem serve_confined {base : Location} {root : Bytes} {max : Nat}
    (hbase : ∀ n ∈ base, slash ∉ n) (hmount : mount t base root max = .ok r) :
    (∀ target, (r.serve t target).status = .ok ↔
        ∃ location content, Serves r t target location content) ∧
      (∀ target location content, Serves r t target location content →
        t.Real location ∧
          (r.serve t target).body = content.take (min max content.length) ∧
          (r.serve t target).header? "Content-Type".toList
            = some (MediaType.ofPath (pathOf location))) ∧
      ∀ t', Tree.DiffersOutside r.root t t' →
        mount t' base root max = .ok r ∧ ∀ target, r.serve t' target = r.serve t target := by
  obtain ⟨hcanonical, rfl⟩ := of_mount hmount
  have hroot : ∀ n ∈ r.root, slash ∉ n := fun n hn =>
    ((Tree.canonical_real hbase hcanonical).isName n hn).slash_not_mem
  refine ⟨fun target => ?status, fun target location content h => ?file, fun t' h => ?outside⟩
  case status =>
    rw [status_eq_ok_iff]
    constructor
    · rintro ⟨⟨location, bytes⟩, hfind⟩
      obtain ⟨content, h, -⟩ := (find_eq_ok hroot).1 hfind
      exact ⟨location, content, h⟩
    · rintro ⟨location, content, h⟩
      exact ⟨_, (find_eq_ok hroot).2 ⟨content, h, rfl⟩⟩
  case file =>
    have hreal : t.Real location := Tree.canonical_real (by simp) h.canonical
    rw [h.serve_eq hroot, header?_typeHeader, ofPath_pathOf hreal.isName]
    exact ⟨hreal, List.take_eq_take_min .., rfl⟩
  case outside =>
    exact ⟨by rw [← mount_congr h.alike, hmount], fun target => (serve_congr h target).symm⟩

/-- A tree with the directory `/w`, which the link `/r` stands for, and beside it `/wx`, whose file
`/wx/s` holds a secret.  In `/w`, the link `o` leaves for `/wx`, and the link `b` leaves for it too
but comes back through the link `/wx/i` to the file `/w/a`. -/
def linkedSite (secret : Bytes) : Tree where
  nodes :=
    [([[119, 120], [115]], { entry := .file secret }),
     ([], { entry := .directory }),
     ([[114]], { entry := .link [47, 119] }),
     ([[119]], { entry := .directory }),
     ([[119], [97]], { entry := .file [104, 101, 108, 108, 111] }),
     ([[119], [111]], { entry := .link [46, 46, 47, 119, 120] }),
     ([[119], [98]], { entry := .link [46, 46, 47, 119, 120, 47, 105] }),
     ([[119, 120]], { entry := .directory }),
     ([[119, 120], [105]], { entry := .link [46, 46, 47, 119, 47, 97] })]

/-- Where `../r` leads from `/w`, and where `/w/b` and `/w/o/s` lead. -/
theorem canonical_linkedSite (secret : Bytes) :
    (linkedSite secret).canonical [[119]] [46, 46, 47, 114] = .ok [[119]] ∧
      (linkedSite secret).canonical [] [47, 119, 47, 98] = .ok [[119], [97]] ∧
      (linkedSite secret).canonical [] [47, 119, 47, 111, 47, 115]
        = .ok [[119, 120], [115]] := by
  simp [Tree.canonical, Tree.maxLinks, Tree.walk, Tree.look, Tree.maxName, Tree.node?, linkedSite,
    List.lookup_cons, segments, isAbsolute, needsDirectory, slash, dot, dotDot]

theorem mount_linkedSite (secret : Bytes) :
    mount (linkedSite secret) [[119]] [46, 46, 47, 114] 4
      = .ok { root := [[119]], maxFileSize := 4 } := by
  rw [mount, (canonical_linkedSite secret).1]
  rfl

theorem differsOutside_linkedSite (secret secret' : Bytes) :
    Tree.DiffersOutside [[119]] (linkedSite secret) (linkedSite secret') := by
  have other : ∀ l, l ≠ [[119, 120], [115]] →
      (linkedSite secret).node? l = (linkedSite secret').node? l := by
    intro l hl
    have hne : (l == [[119, 120], [115]]) = false := by simpa using hl
    simp only [linkedSite, Tree.node?, List.lookup_cons, hne]
  constructor
  · intro l
    by_cases hl : l = [[119, 120], [115]]
    · subst hl
      exact .some .file
    · rw [other l hl]
      cases (linkedSite secret').node? l with
      | none => exact .none
      | some node => exact .some .same
  · intro l hl
    refine other l ?_
    rintro rfl
    simp at hl

/-- The root is found through a link.  Below it, the link that comes back is served and the one that
stays outside is not, and the secret does not show. -/
theorem serve_confined_links :
    let r : Responder := { root := [[119]], maxFileSize := 4 }
    let t := linkedSite [1]
    mount t [[119]] [46, 46, 47, 114] 4 = .ok r ∧
      Serves r t "//b?q".toList [[119], [97]] [104, 101, 108, 108, 111] ∧
      (r.serve t "//b?q".toList).body = [104, 101, 108, 108] ∧
      (r.serve t "/o/s".toList).status ≠ .ok ∧
      Tree.DiffersOutside r.root t (linkedSite [2]) ∧
      ∀ target, r.serve (linkedSite [2]) target = r.serve t target := by
  intro r t
  obtain ⟨-, hback, hout⟩ := canonical_linkedSite [1]
  have hbase : ∀ n ∈ [[119]], slash ∉ n := by simp [slash]
  have hmount : mount t [[119]] [46, 46, 47, 114] 4 = .ok r := mount_linkedSite [1]
  have hserves : Serves r t "//b?q".toList [[119], [97]] [104, 101, 108, 108, 111] :=
    { permitted := ⟨by decide, by decide⟩
      canonical := hback
      inside := by simp [r]
      file := ⟨_, rfl, rfl⟩ }
  obtain ⟨hstatus, hfile, hsame⟩ := serve_confined hbase hmount
  have hdiffers := differsOutside_linkedSite [1] [2]
  refine ⟨hmount, hserves, (hfile _ _ _ hserves).2.1, ?_, hdiffers, (hsame _ hdiffers).2⟩
  rw [Ne, hstatus]
  rintro ⟨location, content, h⟩
  cases h.canonical.symm.trans hout
  simpa [r] using h.inside

end Responder

end Gateway.Files
