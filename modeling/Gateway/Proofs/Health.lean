import Gateway.Proofs.Rotation

/-!
# The health of a pool

A pool is reached from its configured backends, all of them up, by picks and records at any times.
In each such pool a backend is down exactly if it has failed as often as the threshold says, and one
that is down has been seen (`sound_of_reachable`).

So if no backend is eligible, all of them are down and have been seen, and the one that is picked is
the one that was seen first, the first of equals (`exists_candidates_eq`).
-/

namespace Gateway.Proxy

namespace Backend

/-! ## Records -/

/-- What is known about a backend fits together. -/
structure Sound (b : Backend) : Prop where
  /-- It is down exactly if it failed too often. -/
  down_iff : b.health = .down ↔ failureThreshold ≤ b.failures
  /-- If it is down, it was seen. -/
  seen : b.health = .down → ∃ t, b.lastSeen = some t

theorem Sound.recordFailure {b : Backend} (h : b.Sound) (now : Instant) :
    (b.recordFailure now).Sound := by
  refine ⟨?_, fun _ => ⟨now, rfl⟩⟩
  have hmax : failureThreshold ≤ maxFailures := by decide
  have hdown := h.down_iff
  unfold Backend.recordFailure isUp
  cases hb : b.health with
  | up =>
    simp only [decide_true, Bool.true_and, decide_eq_true_eq]
    split
    · next hreached => exact ⟨fun _ => hreached, fun _ => rfl⟩
    · next hbelow => exact ⟨fun he => (by cases he), fun he => absurd he hbelow⟩
  | down =>
    have hfailures := hdown.mp hb
    refine ⟨fun _ => Nat.le_min.mpr ⟨Nat.le_succ_of_le hfailures, hmax⟩, fun _ => ?_⟩
    rfl

theorem Sound.recordSuccess (b : Backend) (now : Instant) : (b.recordSuccess now).Sound := by
  constructor
  · constructor
    · intro h
      cases h
    · intro h
      exact absurd h (by decide : ¬ failureThreshold ≤ 0)
  · intro h
    cases h

/-- A backend that may not be picked is down. -/
theorem health_of_isEligible {b : Backend} {now : Instant} (h : b.isEligible now = false) :
    b.health = .down := by
  cases hb : b.health with
  | up =>
    rw [isEligible, isUp, hb] at h
    cases h
  | down => rfl

end Backend

namespace Pool

/-! ## Reachable pools -/

/-- The pool of backends with URLs and names, before any request. -/
def ofSites (sites : List (Text × Option Text)) : Pool where
  backends := sites.map fun site => { url := site.1, name := site.2 }

/-- Whether a pool is reached by picks and records, in any order and at any times. -/
inductive Reachable : Pool → Prop where
  | start (sites : List (Text × Option Text)) : Reachable (ofSites sites)
  | pick {p p' : Pool} {b : Backend} (now : Instant) :
    Reachable p → p.next? now = some (b, p') → Reachable p'
  | failure {p : Pool} (now : Instant) (url : Text) :
    Reachable p → Reachable (p.recordFailure now url)
  | success {p : Pool} (now : Instant) (url : Text) :
    Reachable p → Reachable (p.recordSuccess now url)

theorem mem_updateFirst {url : Text} {f : Backend → Backend} :
    ∀ {bs : List Backend} {b : Backend}, b ∈ updateFirst url f bs →
      b ∈ bs ∨ ∃ c ∈ bs, f c = b
  | [], b, h => by cases h
  | c :: bs, b, h => by
    rw [updateFirst] at h
    split at h
    · rcases List.mem_cons.mp h with rfl | h
      · exact Or.inr ⟨c, List.mem_cons_self, rfl⟩
      · exact Or.inl (List.mem_cons_of_mem c h)
    · rcases List.mem_cons.mp h with rfl | h
      · exact Or.inl List.mem_cons_self
      · rcases mem_updateFirst h with h | ⟨d, hd, hfd⟩
        · exact Or.inl (List.mem_cons_of_mem c h)
        · exact Or.inr ⟨d, List.mem_cons_of_mem c hd, hfd⟩

/-- A pick changes no backend. -/
theorem backends_of_next? {p p' : Pool} {now : Instant} {b : Backend}
    (h : p.next? now = some (b, p')) : p'.backends = p.backends := by
  obtain ⟨i, -, h⟩ := Option.bind_eq_some_iff.mp h
  obtain ⟨c, -, h⟩ := Option.bind_eq_some_iff.mp h
  cases h
  rfl

/-- In a reachable pool, what is known about each backend fits together. -/
theorem sound_of_reachable {p : Pool} (h : p.Reachable) : ∀ b ∈ p.backends, b.Sound := by
  induction h with
  | start sites =>
    intro b hb
    obtain ⟨site, -, rfl⟩ := List.mem_map.mp hb
    constructor
    · have hbelow : ¬ Backend.failureThreshold ≤ 0 := by decide
      exact ⟨fun he => (by cases he), fun he => absurd he hbelow⟩
    · intro he
      cases he
  | pick now _ hnext ih =>
    rw [backends_of_next? hnext]
    exact ih
  | failure now url _ ih =>
    intro b hb
    rcases mem_updateFirst hb with hb | ⟨c, hc, rfl⟩
    · exact ih b hb
    · exact (ih c hc).recordFailure now
  | success now url _ ih =>
    intro b hb
    rcases mem_updateFirst hb with hb | ⟨c, -, rfl⟩
    · exact ih b hb
    · exact Backend.Sound.recordSuccess c now

/-! ## The longest unseen -/

/-- The rank of a last exchange: none comes first, and then those in the order of their times. -/
def rank : Option Instant → Nat
  | none => 0
  | some t => t + 1

theorem earlier_iff (a b : Option Instant) : earlier a b = true ↔ rank a < rank b := by
  cases a with
  | none => cases b <;> simp [earlier, rank]
  | some s => cases b <;> simp [earlier, rank]

/-- Whether an index with a rank is the first of least rank among the first `n` backends. -/
structure Least (bs : List Backend) (n : Nat) (best : Nat × Option Instant) : Prop where
  /-- The index has the rank. -/
  found : ∃ b, bs[best.1]? = some b ∧ b.lastSeen = best.2
  /-- No rank is less, and before the index each is greater. -/
  least : ∀ j < n, ∀ b, bs[j]? = some b →
    rank best.2 < rank b.lastSeen ∨ (rank best.2 = rank b.lastSeen ∧ best.1 ≤ j)

/-- The scan keeps the first of least rank. -/
theorem least_longestUnseenFrom {bs : List Backend} :
    ∀ {rest : List Backend} {n : Nat} {best : Nat × Option Instant}, bs.drop n = rest →
      best.1 ≤ n → Least bs n best → ∃ seen, Least bs bs.length (longestUnseenFrom n best rest, seen)
  | [], n, best, hdrop, _, h => by
    refine ⟨best.2, h.found, fun j hj => ?_⟩
    have hlen : bs.length ≤ n := List.drop_eq_nil_iff.mp hdrop
    exact h.least j (Nat.lt_of_lt_of_le hj hlen)
  | b :: rest, n, best, hdrop, hle, h => by
    have hb : bs[n]? = some b := by
      rw [← List.head?_drop, hdrop]
      rfl
    have hrest : bs.drop (n + 1) = rest := by
      rw [← List.drop_drop, hdrop]
      rfl
    rw [longestUnseenFrom]
    split
    · next hearlier =>
      rw [earlier_iff] at hearlier
      refine least_longestUnseenFrom hrest (Nat.le_succ n) ⟨⟨b, hb, rfl⟩, fun j hj c hc => ?_⟩
      rcases Nat.lt_succ_iff_lt_or_eq.mp hj with hj | rfl
      · rcases h.least j hj c hc with hlt | ⟨heq, -⟩
        · exact Or.inl (Nat.lt_trans hearlier hlt)
        · exact Or.inl (heq ▸ hearlier)
      · rw [hb] at hc
        cases hc
        exact Or.inr ⟨rfl, Nat.le_refl j⟩
    · next hearlier =>
      rw [earlier_iff, Nat.not_lt] at hearlier
      refine least_longestUnseenFrom hrest (Nat.le_succ_of_le hle) ⟨h.found, fun j hj c hc => ?_⟩
      rcases Nat.lt_succ_iff_lt_or_eq.mp hj with hj | rfl
      · exact h.least j hj c hc
      · rw [hb] at hc
        cases hc
        rcases Nat.lt_or_eq_of_le hearlier with hlt | heq
        · exact Or.inl hlt
        · exact Or.inr ⟨heq, hle⟩

theorem least_longestUnseen? {p : Pool} {i : Nat} (h : p.longestUnseen? = some i) :
    ∃ seen, Least p.backends p.backends.length (i, seen) := by
  unfold longestUnseen? at h
  split at h
  · cases h
  · next b rest hbs =>
    cases h
    refine least_longestUnseenFrom (n := 1) (by rw [hbs]; rfl) (Nat.zero_le 1)
      ⟨⟨b, by rw [hbs]; rfl, rfl⟩, fun j hj c hc => ?_⟩
    cases Nat.lt_one_iff.mp hj
    rw [hbs] at hc
    cases hc
    exact Or.inr ⟨rfl, Nat.le_refl 0⟩

theorem exists_of_pick? {p : Pool} {now : Instant} {i : Nat} (h : p.pick? now = some i) :
    ∃ b, p.backends[i]? = some b := by
  rcases Option.or_eq_some_iff.mp h with h | ⟨-, h⟩
  · have hi := mem_order.mp (List.mem_of_find?_eq_some h)
    exact ⟨_, List.getElem?_eq_getElem hi⟩
  · obtain ⟨_, ⟨b, hb, _⟩, _⟩ := least_longestUnseen? h
    exact ⟨b, hb⟩

/-- Only an empty pool gives no pick. -/
theorem pick?_eq_none_iff {p : Pool} {now : Instant} : p.pick? now = none ↔ p.backends = [] := by
  constructor
  · intro h
    have hnone := (Option.or_eq_none_iff.mp h).2
    unfold longestUnseen? at hnone
    split at hnone
    · next hempty => exact hempty
    · cases hnone
  · intro h
    simp [pick?, order, longestUnseen?, h]

/-- Whether the backend at an index is down, was seen, and no other was seen before it, or at the
same time with a lower index. -/
def LongestUnseen (p : Pool) (i : Nat) : Prop :=
  ∃ b seen, p.backends[i]? = some b ∧ b.health = .down ∧ b.lastSeen = some seen ∧
    ∀ (j : Nat) c, p.backends[j]? = some c →
      ∃ seen', c.lastSeen = some seen' ∧ (seen < seen' ∨ (seen = seen' ∧ i ≤ j))

/-- Of a reachable pool in which no backend is eligible, the longest unseen is the candidate. -/
theorem exists_candidates_eq {p : Pool} (h : p.Reachable) {now : Instant}
    (hnone : ∀ b ∈ p.backends, b.isEligible now = false) (hne : p.backends ≠ []) :
    ∃ i, p.LongestUnseen i ∧ p.candidates now = [i] := by
  have hseen : ∀ (j : Nat) c, p.backends[j]? = some c →
      c.health = .down ∧ ∃ t, c.lastSeen = some t := by
    intro j c hc
    have hmem := List.mem_of_getElem? hc
    have hdown := Backend.health_of_isEligible (hnone c hmem)
    exact ⟨hdown, (sound_of_reachable h c hmem).seen hdown⟩
  have hany : ¬ p.order.any (p.eligibleAt now) = true := by
    intro hany
    obtain ⟨b, hb, hbe⟩ := any_order_iff.mp hany
    rw [hnone b hb] at hbe
    cases hbe
  cases hl : p.longestUnseen? with
  | none =>
    have hlen := p.length_longestUnseen?
    rw [hl] at hlen
    have hpos := List.length_pos_iff.mpr hne
    rw [Option.toList_none, List.length_nil] at hlen
    omega
  | some i =>
    refine ⟨i, ?_, by rw [candidates, if_neg hany, hl]; rfl⟩
    obtain ⟨seen?, ⟨b, hb, hbseen⟩, hleast⟩ := least_longestUnseen? hl
    obtain ⟨hdown, seen, hs⟩ := hseen i b hb
    refine ⟨b, seen, hb, hdown, hs, fun j c hc => ?_⟩
    obtain ⟨-, seen', hs'⟩ := hseen j c hc
    have hrank := hleast j (List.getElem?_eq_some_iff.mp hc).1 c hc
    rw [← hbseen, hs, hs'] at hrank
    refine ⟨seen', hs', ?_⟩
    rcases hrank with hlt | ⟨heq, hle⟩
    · exact Or.inl (Nat.lt_of_succ_lt_succ hlt)
    · exact Or.inr ⟨Nat.succ.inj heq, hle⟩

end Pool

end Gateway.Proxy
