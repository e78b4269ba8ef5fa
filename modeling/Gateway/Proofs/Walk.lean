import Gateway.Files.Canonical

/-!
# Walks through a file tree

Facts on canonical locations that hold of every tree.

*Paths and locations.*  `pathOf` writes a location as a path, and `segments` reads it back
(`segments_pathOf_append`).  So the canonical location of a path below a location is where the names
of that location and the segments of the path lead from the root (`Tree.canonical_pathOf_append`).

*Where a walk ends.*  A location is `Real` if each of its names is found in what the names before it
lead to, and is no link there.  A walk from a real location ends at a real one (`Tree.walk_real`):
`..` goes back to a real location, a link is not walked on but replaced by its target, and any other
entry is walked on.

*Segments that lead nowhere.*  Empty segments and `.` in front of another segment change nothing,
neither where a walk ends nor how it fails (`Tree.walk_insert`).  They also do not change whether a
directory is needed before them.

*What a walk depends on.*  A walk looks at the kinds of the entries, at the access to them and at
the targets of links, but never into a file.  So trees that differ only in what files hold have the
same walks (`Tree.walk_congr`).
-/

namespace Gateway.Files

/-! ## Segments -/

@[simp] theorem segments_nil : segments [] = [[]] := rfl

theorem segments_ne_nil (p : Bytes) : segments p ≠ [] := by
  cases p with
  | nil => simp [segments]
  | cons b p => grind [segments]

@[simp] theorem segments_cons_slash (p : Bytes) : segments (slash :: p) = [] :: segments p := by
  cases h : segments p with
  | nil => exact absurd h (segments_ne_nil p)
  | cons s ss => simp [segments, h]

theorem segments_cons {b : UInt8} (hb : b ≠ slash) {p s : Bytes} {ss : List Bytes}
    (hp : segments p = s :: ss) : segments (b :: p) = (b :: s) :: ss := by
  simp [segments, hp, hb]

/-- Bytes without a slash are put in front of the first segment. -/
theorem segments_append {n : Bytes} (hn : slash ∉ n) {p s : Bytes} {ss : List Bytes}
    (hp : segments p = s :: ss) : segments (n ++ p) = (n ++ s) :: ss := by
  induction n with
  | nil => exact hp
  | cons b n ih =>
      have hb : b ≠ slash := fun h => hn (by simp [h])
      exact segments_cons hb (ih fun h => hn (List.mem_cons_of_mem _ h))

theorem segments_eq_singleton {n : Bytes} (hn : slash ∉ n) : segments n = [n] := by
  simpa using segments_append hn segments_nil

theorem slash_not_mem_of_mem_segments {p s : Bytes} (hs : s ∈ segments p) : slash ∉ s := by
  induction p generalizing s with
  | nil => simp_all [segments]
  | cons b p ih =>
      obtain ⟨first, rest, hp⟩ := List.exists_cons_of_ne_nil (segments_ne_nil p)
      by_cases hb : b = slash
      · subst hb
        rw [segments_cons_slash, List.mem_cons] at hs
        obtain rfl | hs := hs
        · simp
        · exact ih hs
      · rw [segments_cons hb hp, List.mem_cons] at hs
        obtain rfl | hs := hs
        · have : slash ∉ first := ih (by simp [hp])
          simp [this, Ne.symm hb]
        · exact ih (by simp [hp, hs])

/-! ## Paths of locations -/

/-- A location as an absolute path. -/
def pathOf (l : Location) : Bytes := l.flatMap fun n => slash :: n

@[simp] theorem pathOf_nil : pathOf [] = [] := rfl

@[simp] theorem pathOf_cons (n : Name) (l : Location) :
    pathOf (n :: l) = slash :: (n ++ pathOf l) := rfl

/-- A location is read back from its path.  What follows it starts with a slash or is empty. -/
theorem segments_pathOf_append {l : Location} (hl : ∀ n ∈ l, slash ∉ n) {p : Bytes}
    {ss : List Bytes} (hp : segments p = [] :: ss) :
    segments (pathOf l ++ p) = [] :: (l ++ ss) := by
  induction l with
  | nil => exact hp
  | cons n l ih =>
      have hrest := ih fun m hm => hl m (List.mem_cons_of_mem _ hm)
      simpa using segments_append (hl n List.mem_cons_self) hrest

/-! ## Real locations -/

/-- A segment that is looked up. -/
structure IsName (s : Bytes) : Prop where
  ne_nil : s ≠ []
  ne_dot : s ≠ dot
  ne_dotDot : s ≠ dotDot
  slash_not_mem : slash ∉ s

namespace Tree

variable {t : Tree}

/-- A location each of whose names is found and is no link. -/
inductive Real (t : Tree) : Location → Prop where
  | root : Real t []
  | entry {here : Location} {s : Name} {node : Node} :
      Real t here → IsName s → t.look here s = .ok node →
      (∀ target, node.entry ≠ .link target) → Real t (here ++ [s])

theorem Real.isName {l : Location} (h : Real t l) : ∀ n ∈ l, IsName n := by
  induction h with
  | root => simp
  | entry _ hs _ _ ih =>
      intro n hn
      rw [List.mem_append, List.mem_singleton] at hn
      obtain hn | rfl := hn
      · exact ih n hn
      · exact hs

theorem Real.dropLast {l : Location} (h : Real t l) : Real t l.dropLast := by
  cases h with
  | root => exact .root
  | entry hhere _ _ _ => simpa using hhere

theorem Real.next {here : Location} {s : Name} {node : Node} (hhere : Real t here)
    (hs : ¬ (s = [] ∨ s = dot)) (hs' : s ≠ dotDot) (hslash : slash ∉ s)
    (hlook : t.look here s = .ok node) (hlink : ∀ target, node.entry ≠ .link target) :
    Real t (here ++ [s]) :=
  hhere.entry ⟨fun h => hs (.inl h), fun h => hs (.inr h), hs', hslash⟩ hlook hlink

/-- A walk from a real location ends at a real location. -/
theorem walk_real (links : Nat) (here : Location) (path : List Bytes) {l : Location}
    (hhere : Real t here) (hpath : ∀ s ∈ path, slash ∉ s)
    (h : t.walk links here path = .ok l) : Real t l := by
  -- One case for each step of a walk.  Those that fail lead nowhere.
  induction links, here, path using Tree.walk.induct t with
  | case1 links here =>
      rw [walk] at h
      cases h
      exact hhere
  | case2 links here s rest hs ih =>
      simp only [walk, hs, if_true] at h
      exact ih hhere (List.forall_mem_cons.1 hpath).2 h
  | case3 links here rest hs ih =>
      simp only [walk, hs, if_true, if_false] at h
      exact ih hhere.dropLast (List.forall_mem_cons.1 hpath).2 h
  | case4 links here s rest hs hs' e hlook =>
      simp [walk, hs, hs', hlook] at h
  | case5 here s rest hs hs' target access hlook =>
      simp [walk, hs, hs', hlook] at h
  | case6 here s rest hs hs' target access hlook links ih =>
      simp only [walk, hs, hs', hlook, if_false] at h
      refine ih ?_ (List.forall_mem_append.2 ⟨?_, (List.forall_mem_cons.1 hpath).2⟩) h
      · split
        · exact .root
        · exact hhere
      · exact fun s hs => slash_not_mem_of_mem_segments hs
  | case7 links here s rest hs hs' access hlook ih =>
      simp only [walk, hs, hs', hlook, if_false] at h
      have ⟨hslash, hrest⟩ := List.forall_mem_cons.1 hpath
      exact ih (hhere.next hs hs' hslash hlook (by simp)) hrest h
  | case8 links here s rest hs hs' content access hlook hneeds =>
      simp [walk, hs, hs', hlook, hneeds] at h
  | case9 links here s rest hs hs' content access hlook hneeds ih =>
      simp only [walk, hs, hs', hlook, hneeds, if_false] at h
      have ⟨hslash, hrest⟩ := List.forall_mem_cons.1 hpath
      exact ih (hhere.next hs hs' hslash hlook (by simp)) hrest h

/-- A canonical location is real. -/
theorem canonical_real {base : Location} {path : Bytes} {l : Location}
    (hbase : ∀ n ∈ base, slash ∉ n) (h : t.canonical base path = .ok l) : Real t l := by
  rw [canonical] at h
  split at h
  · cases h
  · refine walk_real _ _ _ .root (List.forall_mem_append.2 ⟨?_, ?_⟩) h
    · split
      · simp
      · exact hbase
    · exact fun s hs => slash_not_mem_of_mem_segments hs

/-- Below a location, a path is followed from where the location lies. -/
theorem canonical_pathOf_append {l : Location} (hl : ∀ n ∈ l, slash ∉ n) (p : Bytes) :
    t.canonical [] (pathOf l ++ slash :: p) = t.walk maxLinks [] (l ++ segments p) := by
  have hsegments := segments_pathOf_append hl (segments_cons_slash p)
  simp [canonical, hsegments, walk]

end Tree

/-! ## Segments that lead nowhere -/

/-- A segment that a walk skips. -/
def Idle (s : Bytes) : Prop := s = [] ∨ s = dot

theorem needsDirectory_cons_idle {s : Bytes} (hs : Idle s) {rest : List Bytes}
    (hrest : rest ≠ []) : needsDirectory (s :: rest) = needsDirectory rest := by
  obtain ⟨next, rest, rfl⟩ := List.exists_cons_of_ne_nil hrest
  obtain rfl | rfl := hs <;> simp [needsDirectory]

theorem needsDirectory_cons_of_not_idle {s : Bytes} (hs : ¬ Idle s) (rest : List Bytes) :
    needsDirectory (s :: rest) = (s == dotDot) := by
  rw [Idle, not_or] at hs
  simp [needsDirectory, hs.1, hs.2]

theorem needsDirectory_insert {pads : List Bytes} (hpads : ∀ p ∈ pads, Idle p) (pre : List Bytes)
    (s : Bytes) (post : List Bytes) :
    needsDirectory (pre ++ (pads ++ s :: post)) = needsDirectory (pre ++ s :: post) := by
  induction pre with
  | nil =>
      induction pads with
      | nil => rfl
      | cons p pads ih =>
          obtain ⟨hp, hpads⟩ := List.forall_mem_cons.1 hpads
          exact (needsDirectory_cons_idle hp (by simp)).trans (ih hpads)
  | cons q pre ih =>
      rw [List.cons_append, List.cons_append]
      by_cases hq : Idle q
      · rw [needsDirectory_cons_idle hq (by simp), needsDirectory_cons_idle hq (by simp), ih]
      · rw [needsDirectory_cons_of_not_idle hq, needsDirectory_cons_of_not_idle hq]

namespace Tree

variable {t : Tree} {pads : List Bytes}

theorem walk_pads (hpads : ∀ p ∈ pads, Idle p) (links : Nat) (here : Location)
    (path : List Bytes) : t.walk links here (pads ++ path) = t.walk links here path := by
  induction pads with
  | nil => rfl
  | cons p pads ih =>
      obtain ⟨hp, hpads⟩ := List.forall_mem_cons.1 hpads
      have hskip : p = [] ∨ p = dot := hp
      rw [List.cons_append, walk, if_pos hskip, ih hpads]

/-- Segments that lead nowhere may stand in front of any segment.  The recursion is that of `walk`,
on the segments before them. -/
theorem walk_insert (hpads : ∀ p ∈ pads, Idle p) (s : Bytes) (post : List Bytes)
    (links : Nat) (here : Location) (pre : List Bytes) :
    t.walk links here (pre ++ (pads ++ s :: post)) = t.walk links here (pre ++ s :: post) :=
  match pre with
  | [] => walk_pads hpads links here (s :: post)
  | q :: rest => by
      have hneeds := needsDirectory_insert hpads rest s post
      have hrest := fun here => walk_insert hpads s post links here rest
      rw [List.cons_append, List.cons_append, walk, walk, hneeds]
      split
      · exact hrest here
      · split
        · exact hrest here.dropLast
        · cases t.look here q with
          | error e => rfl
          | ok node =>
              obtain ⟨entry, access⟩ := node
              cases entry with
              | directory => exact hrest (here ++ [q])
              | file content => simp only [hrest]
              | link target =>
                  cases links with
                  | zero => rfl
                  | succ links =>
                      -- The segments of the target join those before the insertion.
                      simpa only [List.append_assoc] using
                        walk_insert hpads s post links (if isAbsolute target then [] else here)
                          (segments target ++ rest)
termination_by (links, pre.length)

end Tree

/-! ## Trees that differ in files only -/

/-- Nodes that differ at most in what a file holds. -/
inductive Node.Alike : Node → Node → Prop where
  | same {node : Node} : Alike node node
  | file {access : Access} {content content' : Bytes} :
      Alike { entry := .file content, access } { entry := .file content', access }

namespace Tree

variable {t t' : Tree}

/-- Trees that differ at most in what files hold. -/
def Alike (t t' : Tree) : Prop := ∀ l, Option.Rel Node.Alike (t.node? l) (t'.node? l)

/-- What the same look-up in such trees may give. -/
inductive LookAlike : Except FileError Node → Except FileError Node → Prop where
  | error {e : FileError} : LookAlike (.error e) (.error e)
  | found {node node' : Node} : node.Alike node' → LookAlike (.ok node) (.ok node')

theorem LookAlike.eq_error {e : FileError} {found : Except FileError Node} :
    LookAlike (.error e) found → found = .error e
  | .error => rfl

theorem LookAlike.eq_ok {node : Node} (hnode : ∀ content, node.entry ≠ .file content)
    {found : Except FileError Node} : LookAlike (.ok node) found → found = .ok node
  | .found .same => rfl
  | .found .file => absurd rfl (hnode _)

theorem LookAlike.exists_file {content : Bytes} {access : Access} {found : Except FileError Node} :
    LookAlike (.ok { entry := .file content, access }) found →
      ∃ content', found = .ok { entry := .file content', access }
  | .found .same => ⟨_, rfl⟩
  | .found .file => ⟨_, rfl⟩

theorem Alike.look (h : Alike t t') (here : Location) (s : Name) :
    LookAlike (t.look here s) (t'.look here s) := by
  have hhere := h here
  have hentry := h (here ++ [s])
  unfold Tree.look
  generalize t.node? here = n, t'.node? here = n' at hhere
  generalize t.node? (here ++ [s]) = m, t'.node? (here ++ [s]) = m' at hentry
  cases hhere with
  | none => exact .error
  | @some node _ hnode =>
      cases hnode with
      | file => exact .error
      | same =>
          obtain ⟨entry, access⟩ := node
          cases entry with
          | file | link => exact .error
          | directory =>
              simp only
              split
              · exact .error
              · split
                · exact .error
                · cases hentry with
                  | none => exact .error
                  | some hnode => exact .found hnode

theorem walk_congr (h : Alike t t') (links : Nat) (here : Location) (path : List Bytes) :
    t.walk links here path = t'.walk links here path := by
  induction links, here, path using Tree.walk.induct t with
  | case1 links here => simp [walk]
  | case2 links here s rest hs ih => simpa [walk, hs] using ih
  | case3 links here rest hs ih => simpa [walk, hs] using ih
  | case4 links here s rest hs hs' e hlook =>
      have hlook' := (hlook ▸ h.look here s).eq_error
      simp [walk, hs, hs', hlook, hlook']
  | case5 here s rest hs hs' target access hlook =>
      have hlook' := (hlook ▸ h.look here s).eq_ok (by simp)
      simp [walk, hs, hs', hlook, hlook']
  | case6 here s rest hs hs' target access hlook links ih =>
      have hlook' := (hlook ▸ h.look here s).eq_ok (by simp)
      simpa [walk, hs, hs', hlook, hlook'] using ih
  | case7 links here s rest hs hs' access hlook ih =>
      have hlook' := (hlook ▸ h.look here s).eq_ok (by simp)
      simpa [walk, hs, hs', hlook, hlook'] using ih
  | case8 links here s rest hs hs' content access hlook hneeds =>
      obtain ⟨content', hlook'⟩ := (hlook ▸ h.look here s).exists_file
      simp [walk, hs, hs', hlook, hlook', hneeds]
  | case9 links here s rest hs hs' content access hlook hneeds ih =>
      obtain ⟨content', hlook'⟩ := (hlook ▸ h.look here s).exists_file
      simpa [walk, hs, hs', hlook, hlook', hneeds] using ih

theorem canonical_congr (h : Alike t t') (base : Location) (path : Bytes) :
    t.canonical base path = t'.canonical base path := by
  simp [canonical, walk_congr h]

end Tree

end Gateway.Files
