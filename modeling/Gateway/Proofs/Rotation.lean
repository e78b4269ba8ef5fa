import Mathlib.Data.List.Rotate
import Gateway.Proxy.Pool

/-!
# Where the rotation leads

A pick tries the indices of the pool in an order, which is the cyclic order from the cursor on
(`order_eq_rotate`).  After a pick of an index the order starts behind it, and what was passed goes
to the end (`order_past`).

Each failure moves the cursor and may change who is eligible.  Still the picks of one request go
along the candidates that the pool had when it started (`leads_candidates`).  The part of the order
that lies ahead holds the candidates that are left, untouched since the start.  What was tried or
passed lies behind it and is not reached again before the candidates are used up.
-/

namespace Gateway.Proxy

/-! ## Backends and time -/

namespace Backend

@[simp] theorem recordFailure_url (now : Instant) (b : Backend) :
    (b.recordFailure now).url = b.url := rfl

@[simp] theorem recordSuccess_url (now : Instant) (b : Backend) :
    (b.recordSuccess now).url = b.url := rfl

/-- A backend that is due stays due as time goes on. -/
theorem isDue_mono {b : Backend} {now later : Instant} (hle : now ≤ later)
    (h : b.isDue now = true) : b.isDue later = true := by
  obtain ⟨hdown, hseen⟩ := Bool.and_eq_true_iff.mp h
  refine Bool.and_eq_true_iff.mpr ⟨hdown, ?_⟩
  cases hs : b.lastSeen with
  | none => rfl
  | some seen =>
    rw [hs] at hseen
    have hretry : retryAfter ≤ now - seen := of_decide_eq_true hseen
    exact decide_eq_true (Nat.le_trans hretry (Nat.sub_le_sub_right hle seen))

end Backend

namespace Pool

/-! ## The order of a pick -/

theorem order_eq_rotate (p : Pool) :
    p.order = (List.range p.backends.length).rotate p.cursor := by
  refine List.ext_getElem (by simp [order]) fun k hk _ => ?_
  simp [order, List.getElem_rotate, Nat.add_comm]

theorem order_perm (p : Pool) : p.order.Perm (List.range p.backends.length) := by
  rw [order_eq_rotate]
  exact List.rotate_perm _ _

theorem nodup_order (p : Pool) : p.order.Nodup :=
  p.order_perm.nodup_iff.mpr List.nodup_range

theorem mem_order {p : Pool} {i : Nat} : i ∈ p.order ↔ i < p.backends.length := by
  rw [p.order_perm.mem_iff, List.mem_range]

/-- The pool after a pick of an index. -/
def past (p : Pool) (i : Nat) : Pool := { p with cursor := (i + 1) % p.backends.length }

/-- A pick finds an index and moves the cursor past it. -/
theorem next?_eq (p : Pool) (now : Instant) :
    p.next? now = (p.pick? now).bind fun i => (p.backends[i]?).map fun b => (b, p.past i) := by
  unfold next?
  cases p.pick? now with
  | none => rfl
  | some i =>
    show (p.backends[i]?).bind _ = (p.backends[i]?).map _
    cases p.backends[i]? <;> rfl

/-- After a pick, the order starts behind the index that was picked. -/
theorem order_past {p : Pool} {skip more : List Nat} {i : Nat} (h : p.order = skip ++ i :: more) :
    (p.past i).order = more ++ (skip ++ [i]) := by
  have hi : i = (p.cursor + skip.length) % p.backends.length := by
    have hget : p.order[skip.length]? = some i := by
      rw [h, List.getElem?_append_right (Nat.le_refl _), Nat.sub_self]
      rfl
    obtain ⟨hlt, hget⟩ := List.getElem?_eq_some_iff.mp hget
    rw [← hget]
    simp [order]
  have hcursor : (i + 1) % p.backends.length
      = (p.cursor + (skip ++ [i]).length) % p.backends.length := by
    rw [hi, Nat.mod_add_mod, List.length_append, ← Nat.add_assoc]
    rfl
  have hrotate : ∀ k, (List.range p.backends.length).rotate (k % p.backends.length)
      = (List.range p.backends.length).rotate k := by
    intro k
    have hmod := List.rotate_mod (List.range p.backends.length) k
    rwa [List.length_range] at hmod
  calc (p.past i).order
      = (List.range p.backends.length).rotate ((i + 1) % p.backends.length) :=
        order_eq_rotate (p.past i)
    _ = (List.range p.backends.length).rotate (p.cursor + (skip ++ [i]).length) := by
        rw [hcursor, hrotate]
    _ = ((skip ++ [i]) ++ more).rotate (skip ++ [i]).length := by
        rw [← List.rotate_rotate, ← order_eq_rotate, h, List.append_assoc]
        rfl
    _ = more ++ (skip ++ [i]) := List.rotate_append_length_eq _ _

/-! ## Candidates -/

/-- The indices that a request may try, in the order of its picks: all that are eligible, or else
the one whose last exchange lies furthest back. -/
def candidates (now : Instant) (p : Pool) : List Nat :=
  if p.order.any (p.eligibleAt now) then p.order.filter (p.eligibleAt now)
  else p.longestUnseen?.toList

/-- Some index is eligible exactly if some backend is. -/
theorem any_order_iff {now : Instant} {p : Pool} : p.order.any (p.eligibleAt now) = true ↔
    ∃ b ∈ p.backends, b.isEligible now = true := by
  rw [List.any_eq_true]
  constructor
  · rintro ⟨i, -, helig⟩
    obtain ⟨b, hb, hbe⟩ := (Option.any_eq_true _ _).mp helig
    exact ⟨b, List.mem_of_getElem? hb, hbe⟩
  · rintro ⟨b, hb, hbe⟩
    obtain ⟨i, hi, rfl⟩ := List.getElem_of_mem hb
    refine ⟨i, mem_order.mpr hi, ?_⟩
    rw [eligibleAt, List.getElem?_eq_getElem hi]
    exact hbe

/-- Where backends are eligible, they are the candidates, in cyclic order from the cursor on. -/
theorem candidates_of_eligible {now : Instant} {p : Pool}
    (h : ∃ b ∈ p.backends, b.isEligible now = true) :
    p.candidates now
      = ((List.range p.backends.length).rotate p.cursor).filter (p.eligibleAt now) := by
  rw [candidates, if_pos (any_order_iff.mpr h), order_eq_rotate]

theorem map_getElem?_range {α : Type} (l : List α) :
    (List.range l.length).map (fun i => l[i]?) = l.map some := by
  refine List.ext_getElem (by simp) fun i hi _ => ?_
  simp only [List.length_map, List.length_range] at hi
  simp [hi]

/-- As many indices are eligible as backends are. -/
theorem length_filter_order (now : Instant) (p : Pool) :
    (p.order.filter (p.eligibleAt now)).length = p.backends.countP (Backend.isEligible now) := by
  have heligible : p.eligibleAt now
      = (fun b? : Option Backend => b?.any (Backend.isEligible now)) ∘ fun i => p.backends[i]? := rfl
  rw [← List.countP_eq_length_filter, p.order_perm.countP_eq, heligible, ← List.countP_map,
    map_getElem?_range, List.countP_map]
  rfl

theorem length_longestUnseen? (p : Pool) :
    p.longestUnseen?.toList.length = min p.backends.length 1 := by
  unfold longestUnseen?
  split
  · next h =>
    rw [h]
    rfl
  · next b rest h =>
    rw [h, List.length_cons, Nat.min_eq_right (Nat.le_add_left 1 _)]
    rfl

/-- The candidates are as many as are counted. -/
theorem length_candidates (now : Instant) (p : Pool) :
    (p.candidates now).length = p.candidateCount now := by
  have hcount := p.length_filter_order now
  unfold candidates
  split
  · next h =>
    obtain ⟨i, hi, helig⟩ := List.any_eq_true.mp h
    have hpos := List.length_pos_of_mem (List.mem_filter.mpr ⟨hi, helig⟩)
    rw [candidateCount, ← hcount]
    omega
  · next h =>
    have hnone : p.order.filter (p.eligibleAt now) = [] := by
      rw [List.filter_eq_nil_iff]
      exact fun i hi helig => h (List.any_eq_true.mpr ⟨i, hi, helig⟩)
    rw [hnone, List.length_nil] at hcount
    rw [length_longestUnseen?, candidateCount, ← hcount, Nat.zero_max]

theorem nodup_candidates (now : Instant) (p : Pool) : (p.candidates now).Nodup := by
  unfold candidates
  split
  · exact p.nodup_order.filter _
  · cases p.longestUnseen? with
    | none => exact List.nodup_nil
    | some i => exact List.nodup_singleton i

/-! ## Records by URL -/

/-- Whether no two backends have the same URL. -/
def DistinctUrls (p : Pool) : Prop := (p.backends.map Backend.url).Nodup

/-- Where URLs differ, what is recorded for the URL of an index changes that index. -/
theorem updateFirst_eq_modify {f : Backend → Backend} :
    ∀ {bs : List Backend} {i : Nat} {b : Backend}, (bs.map Backend.url).Nodup → bs[i]? = some b →
      updateFirst b.url f bs = bs.modify i f
  | [], _, _, _, hb => by cases hb
  | c :: bs, 0, b, _, hb => by
    cases hb
    rw [updateFirst, if_pos rfl, List.modify_zero_cons]
  | c :: bs, i + 1, b, hdistinct, hb => by
    obtain ⟨hnot, hrest⟩ := List.nodup_cons.mp hdistinct
    have hb' : bs[i]? = some b := hb
    have hne : c.url ≠ b.url := by
      intro he
      rw [he] at hnot
      exact hnot (List.mem_map_of_mem (List.mem_of_getElem? hb'))
    rw [updateFirst, if_neg hne, updateFirst_eq_modify hrest hb', List.modify_succ_cons]

/-- What an update leaves as it is in a backend, it leaves as it is in all of them. -/
theorem map_updateFirst {α : Type} {url : Text} {f : Backend → Backend} {g : Backend → α}
    (hf : ∀ b, g (f b) = g b) (bs : List Backend) : (updateFirst url f bs).map g = bs.map g := by
  induction bs with
  | nil => rfl
  | cons b bs ih =>
    rw [updateFirst]
    split
    · rw [List.map_cons, hf, List.map_cons]
    · rw [List.map_cons, ih, List.map_cons]

/-- A record keeps the URLs of a pool that a pick was made from. -/
theorem map_url_recordFailure (p : Pool) (i : Nat) (now : Instant) (url : Text) :
    ((p.past i).recordFailure now url).backends.map Backend.url = p.backends.map Backend.url :=
  map_updateFirst (fun b => b.recordFailure_url now) p.backends

theorem length_recordFailure (p : Pool) (i : Nat) (now : Instant) (url : Text) :
    ((p.past i).recordFailure now url).backends.length = p.backends.length := by
  have hlen := congrArg List.length (p.map_url_recordFailure i now url)
  rwa [List.length_map, List.length_map] at hlen

theorem order_recordFailure (p : Pool) (i : Nat) (now : Instant) (url : Text) :
    ((p.past i).recordFailure now url).order = (p.past i).order := by
  have hlen := p.length_recordFailure i now url
  rw [order, order, hlen]
  rfl

theorem DistinctUrls.recordFailure {p : Pool} (h : p.DistinctUrls) (i : Nat) (now : Instant)
    (url : Text) : ((p.past i).recordFailure now url).DistinctUrls := by
  rw [DistinctUrls, map_url_recordFailure]
  exact h

theorem DistinctUrls.getElem?_updateFirst_self {p : Pool} (h : p.DistinctUrls) {i : Nat}
    {b : Backend} (hb : p.backends[i]? = some b) (f : Backend → Backend) :
    (updateFirst b.url f p.backends)[i]? = some (f b) := by
  rw [updateFirst_eq_modify h hb, List.getElem?_modify_eq, hb]
  rfl

/-- A record for the URL of an index leaves the other indices as they are. -/
theorem DistinctUrls.getElem?_updateFirst {p : Pool} (h : p.DistinctUrls) {i j : Nat} {b : Backend}
    (hb : p.backends[i]? = some b) (hne : i ≠ j) (f : Backend → Backend) :
    (updateFirst b.url f p.backends)[j]? = p.backends[j]? := by
  rw [updateFirst_eq_modify h hb, List.getElem?_modify_ne _ _ hne]

/-! ## Leading along a list -/

/-- Whether at a time no backend is due that was not due before. -/
structure Settled (p : Pool) (now t : Instant) : Prop where
  /-- The time lies ahead. -/
  le : now ≤ t
  /-- What is due at it was due before. -/
  isDue : ∀ b ∈ p.backends, b.isDue t = true → b.isDue now = true

theorem Settled.isEligible_eq {p : Pool} {now t : Instant} (h : p.Settled now t) {b : Backend}
    (hb : b ∈ p.backends) : b.isEligible t = b.isEligible now := by
  have hdue : b.isDue t = b.isDue now := by
    rw [Bool.eq_iff_iff]
    exact ⟨h.isDue b hb, Backend.isDue_mono h.le⟩
  rw [Backend.isEligible, Backend.isEligible, hdue]

theorem Settled.eligibleAt_eq {p : Pool} {now t : Instant} (h : p.Settled now t) (i : Nat) :
    p.eligibleAt t i = p.eligibleAt now i := by
  unfold eligibleAt
  cases hb : p.backends[i]? with
  | none => rfl
  | some b => exact h.isEligible_eq (List.mem_of_getElem? hb)

/-- Whether the picks of a pool go along a list, as long as what was picked fails.  `fair` says at
which times picks are made. -/
def Leads (fair : Instant → Prop) : List Nat → Pool → Prop
  | [], _ => True
  | i :: rest, p => (∀ t, fair t → p.pick? t = some i) ∧
      ∀ b, p.backends[i]? = some b →
        ∀ t, Leads fair rest ((p.past i).recordFailure t b.url)

/-- What lies ahead in the order, as it was at the start, is where the rotation leads. -/
theorem leads_ahead {start : Pool} {now : Instant} :
    ∀ {todo ahead behind : List Nat} {p : Pool}, p.DistinctUrls → p.order = ahead ++ behind →
      (∀ j ∈ ahead, p.backends[j]? = start.backends[j]?) →
      ahead.filter (start.eligibleAt now) = todo → p.Leads (start.Settled now) todo
  | [], _, _, _, _, _, _, _ => trivial
  | i :: todo, ahead, behind, p, hurls, horder, hsame, htodo => by
    obtain ⟨skip, more, rfl, hskip, hi, hmore⟩ := List.filter_eq_cons_iff.mp htodo
    rw [List.append_assoc] at horder
    have helig : ∀ {t : Instant}, start.Settled now t → ∀ j ∈ skip ++ i :: more,
        p.eligibleAt t j = start.eligibleAt now j := by
      intro t ht j hj
      rw [← ht.eligibleAt_eq, eligibleAt, eligibleAt, hsame j hj]
    constructor
    · intro t ht
      have hfirst : (skip ++ i :: more ++ behind).find? (p.eligibleAt t) = some i := by
        refine List.find?_eq_some_iff_append.mpr ⟨?_, skip, more ++ behind, by simp, ?_⟩
        · rw [helig ht i (List.mem_append_right skip List.mem_cons_self)]
          exact hi
        · intro j hj
          rw [helig ht j (List.mem_append_left _ hj)]
          exact Bool.not_eq_true' _ ▸ Bool.eq_false_iff.mpr (hskip j hj)
      rw [pick?, horder, ← List.append_assoc, hfirst]
      rfl
    · intro b hb t
      have hsplit : p.order = skip ++ i :: (more ++ behind) := horder
      have horder' : ((p.past i).recordFailure t b.url).order
          = more ++ (behind ++ (skip ++ [i])) := by
        rw [order_recordFailure, order_past hsplit, List.append_assoc]
      refine leads_ahead (hurls.recordFailure i t b.url) horder' ?_ hmore
      intro j hj
      have hnodup := p.nodup_order
      rw [horder] at hnodup
      have hne : i ≠ j := by
        rintro rfl
        have hi' := (List.nodup_cons.mp hnodup.of_append_right).1
        exact hi' (List.mem_append_left behind hj)
      refine (hurls.getElem?_updateFirst hb hne _).trans ?_
      exact hsame j (List.mem_append_right skip (List.mem_cons_of_mem i hj))

/-- The picks of one request go along the candidates at its start. -/
theorem leads_candidates {p : Pool} (h : p.DistinctUrls) (now : Instant) :
    p.Leads (p.Settled now) (p.candidates now) := by
  unfold candidates
  split
  · exact leads_ahead h (List.append_nil _).symm (fun _ _ => rfl) rfl
  · next hnone =>
    cases hl : p.longestUnseen? with
    | none => trivial
    | some i =>
      refine ⟨fun t ht => ?_, fun _ _ _ => trivial⟩
      have hfind : p.order.find? (p.eligibleAt t) = none := by
        rw [List.find?_eq_none]
        intro j hj helig
        rw [ht.eligibleAt_eq] at helig
        exact hnone (List.any_eq_true.mpr ⟨j, hj, helig⟩)
      rw [pick?, hfind, hl]
      rfl

end Pool

end Gateway.Proxy
