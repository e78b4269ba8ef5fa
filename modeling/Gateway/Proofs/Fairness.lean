import Gateway.Proofs.Health
import Gateway.Proofs.Turns

/-!
# Fair picks

As long as nothing is recorded and no time passes, the candidates of a pool take turns.  A pick
takes the first of them (`pick?_eq_head?`) and moves the cursor past it, and that puts it at the end
of the cyclic order that the next pick follows (`candidates_past`).  So a run of picks is a run of
turns (`picks_eq_turns`), for any cursor and for any pattern of backends that are up, down and due.

If backends are eligible, they are the candidates, in cyclic order from the cursor on, and as many
picks as are counted take each of them once.  If none is, the longest unseen is the only one and has
every turn.  `takesTurns_of_reachable` says this of the calls of `next?`.
-/

namespace Gateway.Proxy.Pool

variable {now : Instant} {p : Pool}

/-! ## One pick -/

/-- A pick takes the first candidate. -/
theorem pick?_eq_head? (now : Instant) (p : Pool) : p.pick? now = (p.candidates now).head? := by
  rw [pick?, candidates]
  split
  · next hany =>
    obtain ⟨i, hi, helig⟩ := List.any_eq_true.mp hany
    have hfound : (p.order.find? (p.eligibleAt now)).isSome := List.find?_isSome.mpr ⟨i, hi, helig⟩
    rw [List.head?_filter, Option.or_of_isSome hfound]
  · next hany =>
    have hnone : p.order.find? (p.eligibleAt now) = none := by
      rw [List.find?_eq_none]
      exact fun i hi helig => hany (List.any_eq_true.mpr ⟨i, hi, helig⟩)
    rw [hnone, Option.none_or]
    cases p.longestUnseen? <;> rfl

/-- Only without backends is there no candidate. -/
theorem candidates_eq_nil_iff (now : Instant) (p : Pool) :
    p.candidates now = [] ↔ p.backends = [] := by
  rw [← List.head?_eq_none_iff, ← pick?_eq_head?]
  exact pick?_eq_none_iff

theorem any_order_past (i : Nat) :
    (p.past i).order.any ((p.past i).eligibleAt now) = p.order.any (p.eligibleAt now) := by
  rw [Bool.eq_iff_iff, any_order_iff, any_order_iff]
  rfl

/-- A candidate that is picked goes to the end. -/
theorem candidates_past {i : Nat} {rest : List Nat} (h : p.candidates now = i :: rest) :
    (p.past i).candidates now = rest ++ [i] := by
  rw [candidates] at h ⊢
  rw [any_order_past]
  split at h
  · next hany =>
    obtain ⟨skip, more, horder, hskip, helig, rfl⟩ := List.filter_eq_cons_iff.mp h
    have hpassed : skip.filter (p.eligibleAt now) = [] := List.filter_eq_nil_iff.mpr hskip
    have hi : [i].filter (p.eligibleAt now) = [i] := by rw [List.filter_singleton, helig]; rfl
    rw [if_pos hany, order_past horder]
    show (more ++ (skip ++ [i])).filter (p.eligibleAt now) = _
    rw [List.filter_append, List.filter_append, hpassed, hi, List.nil_append]
  · next hany =>
    rw [if_neg hany]
    show p.longestUnseen?.toList = _
    cases hl : p.longestUnseen? with
    | none =>
      rw [hl] at h
      cases h
    | some j =>
      rw [hl] at h
      cases h
      rfl

/-- A call finds no candidate, or it gives the backend at the first one. -/
theorem next?_cases (now : Instant) (p : Pool) :
    (p.candidates now = [] ∧ p.next? now = none) ∨
    ∃ i rest b, p.candidates now = i :: rest ∧ p.backends[i]? = some b ∧
      p.next? now = some (b, p.past i) := by
  have hpick := p.pick?_eq_head? now
  cases hc : p.candidates now with
  | nil =>
    rw [hc] at hpick
    exact Or.inl ⟨rfl, by rw [next?_eq, hpick]; rfl⟩
  | cons i rest =>
    rw [hc] at hpick
    obtain ⟨b, hb⟩ := exists_of_pick? hpick
    refine Or.inr ⟨i, rest, b, rfl, hb, ?_⟩
    rw [next?_eq, hpick, List.head?_cons, Option.bind_some, hb]
    rfl

/-! ## Picks in a row -/

/-- The indices that `n` picks in a row take. -/
def picks (now : Instant) : Nat → Pool → List Nat
  | 0, _ => []
  | n + 1, p =>
    match p.pick? now with
    | none => []
    | some i => i :: picks now n (p.past i)

/-- The backends that `n` calls in a row give, and the pool after them. -/
def nexts (now : Instant) : Nat → Pool → List Backend × Pool
  | 0, p => ([], p)
  | n + 1, p =>
    match p.next? now with
    | none => ([], p)
    | some (b, p') =>
      let (more, after) := nexts now n p'
      (b :: more, after)

/-- The candidates take turns. -/
theorem picks_eq_turns (n : Nat) (p : Pool) : picks now n p = turns n (p.candidates now) := by
  induction n generalizing p with
  | zero => rfl
  | succ n ih =>
    rw [picks, pick?_eq_head?]
    cases hc : p.candidates now with
    | nil => rfl
    | cons i rest =>
      rw [turns_succ_cons, ← candidates_past hc]
      exact congrArg (List.cons i) (ih (p.past i))

/-- Calls give the backends at the indices that are picked. -/
theorem map_nexts (n : Nat) (p : Pool) :
    (nexts now n p).1.map some = (picks now n p).map fun i => p.backends[i]? := by
  induction n generalizing p with
  | zero => rfl
  | succ n ih =>
    rw [nexts, picks, pick?_eq_head?]
    rcases p.next?_cases now with ⟨hc, hnext⟩ | ⟨i, rest, b, hc, hb, hnext⟩
    · rw [hc, hnext]
      rfl
    · rw [hc, hnext]
      show some b :: (nexts now n (p.past i)).1.map some = p.backends[i]? :: _
      rw [hb, ih]
      rfl

theorem backends_nexts (n : Nat) (p : Pool) : (nexts now n p).2.backends = p.backends := by
  induction n generalizing p with
  | zero => rfl
  | succ n ih =>
    rw [nexts]
    cases hnext : p.next? now with
    | none => rfl
    | some picked => exact (ih picked.2).trans (backends_of_next? hnext)

/-- After some calls, the candidates have moved on by as many places. -/
theorem candidates_nexts (n : Nat) (p : Pool) :
    (nexts now n p).2.candidates now = (p.candidates now).rotate n := by
  induction n generalizing p with
  | zero => rw [List.rotate_zero]; rfl
  | succ n ih =>
    rw [nexts]
    rcases p.next?_cases now with ⟨hc, hnext⟩ | ⟨i, rest, b, hc, hb, hnext⟩
    · rw [hnext, hc, List.rotate_nil]
    · rw [hnext, hc, List.rotate_cons_succ, ← candidates_past hc]
      exact ih (p.past i)

/-! ## Turns of a pool -/

/-- Where backends are eligible, the candidates are the indices of those. -/
theorem mem_candidates (h : ∃ b ∈ p.backends, b.isEligible now = true) {i : Nat} :
    i ∈ p.candidates now ↔ p.eligibleAt now i = true := by
  rw [candidates_of_eligible h, List.mem_filter, List.mem_rotate, List.mem_range]
  refine and_iff_right_of_imp fun helig => ?_
  obtain ⟨b, hb, -⟩ := (Option.any_eq_true _ _).mp helig
  exact (List.getElem?_eq_some_iff.mp hb).1

/-- How a pool hands out its backends, while nothing is recorded and no time passes. -/
structure TakesTurns (now : Instant) (p : Pool) : Prop where
  /-- Only without backends is none given. -/
  unserved : p.next? now = none ↔ p.backends = []
  /-- Calls give the backends at the indices that are picked, and change none. -/
  gives : ∀ n, (nexts now n p).1.map some = (picks now n p).map fun i => p.backends[i]?
  keeps : ∀ n, (nexts now n p).2.backends = p.backends
  length : p.backends ≠ [] → ∀ n, (picks now n p).length = n
  /-- If backends are eligible, they are counted. -/
  counted : (∃ b ∈ p.backends, b.isEligible now = true) →
    p.candidateCount now = p.backends.countP (Backend.isEligible now)
  /-- After any picks, as many as are counted go round the eligible ones, from the cursor on. -/
  round : (∃ b ∈ p.backends, b.isEligible now = true) → ∀ m,
    (picks now (m + p.candidateCount now) p).drop m =
      ((List.range p.backends.length).rotate (nexts now m p).2.cursor).filter (p.eligibleAt now)
  /-- They take each of those once. -/
  once : (∃ b ∈ p.backends, b.isEligible now = true) → ∀ m i, p.eligibleAt now i = true →
    ((picks now (m + p.candidateCount now) p).drop m).count i = 1
  /-- No other is ever picked. -/
  only : (∃ b ∈ p.backends, b.isEligible now = true) → ∀ n, ∀ i ∈ picks now n p,
    p.eligibleAt now i = true
  /-- Over any picks, after any others, no eligible one is more than one ahead of another. -/
  even : (∃ b ∈ p.backends, b.isEligible now = true) → ∀ m n i j, p.eligibleAt now i = true →
    p.eligibleAt now j = true →
    ((picks now (m + n) p).drop m).count i ≤ ((picks now (m + n) p).drop m).count j + 1
  /-- If none is eligible, the longest unseen is picked every time. -/
  alone : (∀ b ∈ p.backends, b.isEligible now = false) → p.backends ≠ [] →
    p.candidateCount now = 1 ∧ ∃ i, p.LongestUnseen i ∧ ∀ n, picks now n p = List.replicate n i

theorem turns_singleton (n i : Nat) : turns n [i] = List.replicate n i := by
  induction n with
  | zero => rfl
  | succ n ih => rw [turns_succ_cons, List.nil_append, ih, List.replicate_succ]

/-- The backends of a reachable pool take turns. -/
theorem takesTurns_of_reachable {p : Pool} (h : p.Reachable) (now : Instant) :
    TakesTurns now p where
  unserved := by
    rw [← candidates_eq_nil_iff now p]
    rcases p.next?_cases now with ⟨hc, hnext⟩ | ⟨i, rest, b, hc, hb, hnext⟩ <;> simp [hc, hnext]
  gives n := map_nexts n p
  keeps n := backends_nexts n p
  length hne n := by
    rw [picks_eq_turns]
    exact length_turns (fun hnone => hne ((candidates_eq_nil_iff now p).mp hnone)) n
  counted helig := by
    obtain ⟨b, hb, hbe⟩ := helig
    have hpos : 0 < p.backends.countP (Backend.isEligible now) :=
      List.countP_pos_iff.mpr ⟨b, hb, hbe⟩
    rw [candidateCount]
    omega
  round helig m := by
    have hafter : ∃ b ∈ (nexts now m p).2.backends, b.isEligible now = true := by
      rw [backends_nexts]
      exact helig
    have hsame : (nexts now m p).2.eligibleAt now = p.eligibleAt now := by
      unfold eligibleAt
      rw [backends_nexts]
    rw [picks_eq_turns, ← length_candidates, drop_turns_length, ← candidates_nexts,
      candidates_of_eligible hafter, hsame, backends_nexts]
  once helig m i hi := by
    rw [picks_eq_turns, ← length_candidates, drop_turns_length]
    refine List.count_eq_one_of_mem (List.nodup_rotate.mpr (p.nodup_candidates now)) ?_
    rw [List.mem_rotate, mem_candidates helig]
    exact hi
  only helig n i hi := by
    rw [picks_eq_turns] at hi
    exact (mem_candidates helig).mp (mem_of_mem_turns hi)
  even helig m n i j _ hj := by
    rw [picks_eq_turns, drop_turns]
    refine count_turns_le (List.nodup_rotate.mpr (p.nodup_candidates now)) ?_ n
    rw [List.mem_rotate, mem_candidates helig]
    exact hj
  alone hnone hne := by
    obtain ⟨i, hi, hc⟩ := exists_candidates_eq h hnone hne
    refine ⟨by rw [← length_candidates, hc]; rfl, i, hi, fun n => ?_⟩
    rw [picks_eq_turns, hc, turns_singleton]

/-- Three backends, of which the second has failed until it was down. -/
def limping : Pool :=
  let fail := recordFailure 0 "b".toList
  fail (fail (fail (ofSites [("a".toList, none), ("b".toList, none), ("c".toList, none)])))

/-- The same, after a pick of the first. -/
def limpingOn : Pool := limping.past 0

theorem reachable_limpingOn : limpingOn.Reachable := by
  have hlimping : limping.Reachable := .failure 0 _ (.failure 0 _ (.failure 0 _ (.start _)))
  have hnext : limping.next? 0 = some ({ url := "a".toList }, limpingOn) := rfl
  exact .pick 0 hlimping hnext

/-- The second sits out, and it has its turns again once it is due. -/
theorem takesTurns_limping :
    limpingOn.Reachable ∧ TakesTurns 5 limpingOn ∧ picks 5 5 limpingOn = [2, 0, 2, 0, 2] ∧
      TakesTurns Backend.retryAfter limpingOn ∧
      picks Backend.retryAfter 4 limpingOn = [1, 2, 0, 1] :=
  ⟨reachable_limpingOn, takesTurns_of_reachable reachable_limpingOn 5, by decide,
    takesTurns_of_reachable reachable_limpingOn _, by decide⟩

end Gateway.Proxy.Pool
