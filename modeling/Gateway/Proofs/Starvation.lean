import Gateway.Proofs.Charge
import Gateway.Proofs.Fairness

/-!
# Tries while all backends are down

With all backends down and none of them due, a request makes a single try, of the backend that was
seen longest ago.  If that fails too, the backend has just been seen.  So the backends wait in a
queue, in the order in which they were last seen: a request tries the first, and the failure sends
it to the end (`Waiting.requeue`).  As long as nothing else happens the backends take turns, and
none is left out (`none_starved`).

The order of the queue is by the times of the records alone, so it needs a clock that moves between
one record and the next.  Records of the same time would be told apart by their indices, and of two
such backends the first would come before the second again.
-/

namespace Gateway.Proxy

open Gateway.Http

variable {σ : Type} {s : Settings} {net : Network σ}

/-! ## The queue -/

namespace Pool

/-- The rank of the last exchange of the backend at an index. -/
def rankAt (p : Pool) (i : Nat) : Nat := rank ((p.backends[i]?).bind Backend.lastSeen)

/-- Whether the backend at an index was last seen before another, or at the same time and comes
first. -/
def SeenBefore (p : Pool) (i j : Nat) : Prop :=
  p.rankAt i < p.rankAt j ∨ p.rankAt i = p.rankAt j ∧ i < j

/-- Whether a list has all indices of a pool, in the order in which their backends were last
seen. -/
structure Queue (p : Pool) (queue : List Nat) : Prop where
  perm : queue.Perm (List.range p.backends.length)
  sorted : queue.Pairwise p.SeenBefore

theorem rankAt_eq {p : Pool} {i : Nat} {b : Backend} (hb : p.backends[i]? = some b) :
    p.rankAt i = rank b.lastSeen := by
  rw [rankAt, hb, Option.bind_some]

/-- Every pool has a queue. -/
theorem exists_queue (p : Pool) : ∃ queue, p.Queue queue := by
  let le (i j : Nat) : Bool :=
    decide (p.rankAt i < p.rankAt j ∨ p.rankAt i = p.rankAt j ∧ i ≤ j)
  have htrans : ∀ i j k, le i j = true → le j k = true → le i k = true := by
    intro i j k hij hjk
    simp only [le, decide_eq_true_eq] at hij hjk ⊢
    omega
  have htotal : ∀ i j, (le i j || le j i) = true := by
    intro i j
    simp only [le, Bool.or_eq_true, decide_eq_true_eq]
    omega
  have hperm := List.mergeSort_perm (List.range p.backends.length) le
  have hnodup := hperm.nodup_iff.mpr List.nodup_range
  refine ⟨_, hperm, ?_⟩
  refine (hnodup.and (List.pairwise_mergeSort htrans htotal _)).imp fun {i j} hij => ?_
  obtain ⟨hne, hle⟩ := hij
  simp only [le, decide_eq_true_eq] at hle
  rcases hle with hlt | ⟨heq, hle⟩
  · exact Or.inl hlt
  · exact Or.inr ⟨heq, Nat.lt_of_le_of_ne hle hne⟩

/-- The first of the queue is the longest unseen. -/
theorem Queue.longestUnseen? {p : Pool} {i : Nat} {rest : List Nat} (h : p.Queue (i :: rest)) :
    p.longestUnseen? = some i := by
  have hi : i < p.backends.length := List.mem_range.mp (h.perm.subset List.mem_cons_self)
  cases hl : p.longestUnseen? with
  | none =>
    have hlen := p.length_longestUnseen?
    rw [hl, Option.toList_none, List.length_nil] at hlen
    omega
  | some k =>
    obtain ⟨seen, ⟨c, hc, hseen⟩, hleast⟩ := least_longestUnseen? hl
    have hk : k ∈ i :: rest := h.perm.mem_iff.mpr (List.mem_range.mpr
      (List.getElem?_eq_some_iff.mp hc).1)
    rcases List.mem_cons.mp hk with rfl | hk
    · rfl
    · -- two indices cannot both come before each other
      have hbefore := List.rel_of_pairwise_cons h.sorted hk
      have hrank := hleast i hi _ (List.getElem?_eq_getElem hi)
      rw [SeenBefore, rankAt_eq hc, rankAt_eq (List.getElem?_eq_getElem hi), hseen] at hbefore
      omega

/-- Whether the backends of a pool are all down and wait in a queue. -/
structure Waiting (p : Pool) (queue : List Nat) : Prop where
  urls : p.DistinctUrls
  down : ∀ b ∈ p.backends, b.health = .down
  queue : p.Queue queue

/-- Only the first of the queue is a candidate, as long as none is due. -/
theorem Waiting.candidates_eq {p : Pool} {i : Nat} {rest : List Nat} (h : p.Waiting (i :: rest))
    {now : Instant} (hdue : ∀ b ∈ p.backends, b.isDue now = false) : p.candidates now = [i] := by
  have hany : ¬ p.order.any (p.eligibleAt now) = true := by
    intro hany
    obtain ⟨b, hb, helig⟩ := any_order_iff.mp hany
    rw [Backend.isEligible, Backend.isUp, h.down b hb, hdue b hb] at helig
    cases helig
  rw [candidates, if_neg hany, h.queue.longestUnseen?]
  rfl

/-- A failure that is recorded later than all others sends the first of the queue to its end. -/
theorem Waiting.requeue {p : Pool} {i : Nat} {rest : List Nat} (h : p.Waiting (i :: rest))
    {b : Backend} (hb : p.backends[i]? = some b) {now : Instant}
    (hlater : ∀ c ∈ p.backends, ∀ seen ∈ c.lastSeen, seen < now) :
    ((p.past i).recordFailure now b.url).Waiting (rest ++ [i]) := by
  have hlt : ∀ j, p.rankAt j < now + 1 := by
    intro j
    cases hc : p.backends[j]? with
    | none =>
      rw [rankAt, hc]
      exact Nat.succ_pos now
    | some c =>
      rw [rankAt_eq hc]
      cases hseen : c.lastSeen with
      | none => exact Nat.succ_pos now
      | some seen => exact Nat.succ_lt_succ (hlater c (List.mem_of_getElem? hc) seen hseen)
  have hget : ((p.past i).recordFailure now b.url).backends[i]? = some (b.recordFailure now) :=
    h.urls.getElem?_updateFirst_self hb _
  have hself : ((p.past i).recordFailure now b.url).rankAt i = now + 1 := rankAt_eq hget
  have hother : ∀ j, j ≠ i → ((p.past i).recordFailure now b.url).rankAt j = p.rankAt j := by
    intro j hj
    have hsame := h.urls.getElem?_updateFirst hb (Ne.symm hj) (Backend.recordFailure now)
    exact congrArg (fun c? => rank (c?.bind Backend.lastSeen)) hsame
  have hnodup := List.nodup_cons.mp (h.queue.perm.nodup_iff.mpr List.nodup_range)
  have hne : ∀ j ∈ rest, j ≠ i := by
    rintro j hj rfl
    exact hnodup.1 hj
  refine ⟨h.urls.recordFailure i now b.url, fun c hc => ?_, ?_, ?_⟩
  · rcases mem_updateFirst hc with hc | ⟨d, hd, rfl⟩
    · exact h.down c hc
    · have hdown := h.down d hd
      simp [Backend.recordFailure, Backend.isUp, hdown]
  · rw [length_recordFailure]
    exact (List.perm_append_singleton i rest).trans h.queue.perm
  · refine List.pairwise_append.mpr ⟨?_, List.pairwise_singleton _ i, ?_⟩
    · refine (List.pairwise_cons.mp h.queue.sorted).2.imp_of_mem fun {j k} hj hk hjk => ?_
      rw [SeenBefore, hother j (hne j hj), hother k (hne k hk)]
      exact hjk
    · intro j hj k hk
      cases List.mem_singleton.mp hk
      rw [SeenBefore, hother j (hne j hj), hself]
      exact Or.inl (hlt j)

end Pool

/-! ## One request -/

/-- What is charged to a backend that did not answer is a fault. -/
theorem Try.isFault_of_counts {t : Try σ} (hfailed : t.outcome.isOk = false)
    (hcounts : t.counts = true) : t.IsFault := by
  obtain ⟨index, before, outcome, after⟩ := t
  cases outcome with
  | ok response => cases hfailed
  | error e => exact ⟨e, rfl, hcounts⟩

/-- A single try is of the backend that the rotation picks, and is charged. -/
theorem exists_logged_one {p : Pool} {world : σ} {i : Nat} {b : Backend}
    (hpick : p.pick? (net.clock world) = some i) (hb : p.backends[i]? = some b) (r : Request)
    (last : ProxyError) :
    ∃ t : Try σ, (logged s net r 1 last p world).1 = [t] ∧ t.index = i ∧
      exchange s net b.url r world = (t.outcome, t.after) ∧
      (t.IsFault → (logged s net r 1 last p world).2.2.1
        = (p.past i).recordFailure (net.clock t.after) b.url) := by
  rw [logged, hpick]
  dsimp only
  rw [hb]
  dsimp only
  cases hx : exchange s net b.url r world with
  | mk outcome after =>
    cases outcome with
    | ok response =>
      refine ⟨⟨i, world, .ok response, after⟩, rfl, rfl, rfl, ?_⟩
      rintro ⟨e, he, -⟩
      cases he
    | error e =>
      dsimp only
      split
      · exact ⟨⟨i, world, .error e, after⟩, rfl, rfl, rfl, fun _ => rfl⟩
      · next hrefused =>
        refine ⟨⟨i, world, .error e, after⟩, rfl, rfl, rfl, ?_⟩
        rintro ⟨e', he, hfault⟩
        cases he
        exact absurd hfault hrefused

/-- The tries of a request. -/
def triesOf (s : Settings) (net : Network σ) (p : Pool) (call : Request × σ) : List (Try σ) :=
  (logged s net call.1 (p.candidateCount (net.clock call.2)) .noBackend p call.2).1

theorem loggedRun_cons (call : Request × σ) (calls : List (Request × σ)) (p : Pool) :
    (loggedRun s net (call :: calls) p).1 = triesOf s net p call
      ++ (loggedRun s net calls (forwardRun s net [call] p)).1 := by
  rw [forwardRun, List.foldl_cons, List.foldl_nil, forward, ← logged_snd]
  rfl

/-- While backends wait, a request tries the first of the queue alone, and its failure sends it to
the end. -/
theorem Pool.Waiting.exists_triesOf {p : Pool} {i : Nat} {rest : List Nat}
    (h : p.Waiting (i :: rest)) {call : Request × σ}
    (hdue : ∀ b ∈ p.backends, b.isDue (net.clock call.2) = false)
    (hfault : ∀ t ∈ triesOf s net p call, t.IsFault)
    (hlater : ∀ t ∈ triesOf s net p call, ∀ c ∈ p.backends, ∀ seen ∈ c.lastSeen,
      seen < net.clock t.after) :
    ∃ (t : Try σ) (b : Backend), triesOf s net p call = [t] ∧ t.index = i ∧
      p.backends[i]? = some b ∧ exchange s net b.url call.1 call.2 = (t.outcome, t.after) ∧
      forwardRun s net [call] p = (p.past i).recordFailure (net.clock t.after) b.url ∧
      (forwardRun s net [call] p).Waiting (rest ++ [i]) := by
  have hcandidates := h.candidates_eq hdue
  have hcount : p.candidateCount (net.clock call.2) = 1 := by
    rw [← length_candidates, hcandidates]
    rfl
  have hpick : p.pick? (net.clock call.2) = some i := by
    rw [pick?_eq_head?, hcandidates]
    rfl
  obtain ⟨b, hb⟩ := exists_of_pick? hpick
  obtain ⟨t, hlog, hindex, hx, hafter⟩ := exists_logged_one hpick hb (s := s) call.1 .noBackend
  have htries : triesOf s net p call = [t] := by rw [triesOf, hcount, hlog]
  have hnext : forwardRun s net [call] p = (p.past i).recordFailure (net.clock t.after) b.url := by
    rw [forwardRun, List.foldl_cons, List.foldl_nil, forward, hcount, ← logged_snd]
    exact hafter (hfault t (by simp [htries]))
  refine ⟨t, b, htries, hindex, hb, hx, hnext, ?_⟩
  rw [hnext]
  exact h.requeue hb (hlater t (by simp [htries]))

/-! ## Requests one after the other -/

/-- Whether in a run of requests no backend becomes due, every exchange fails by a fault of the
backend, and each failure is recorded later than all that was recorded before. -/
structure Fruitless (s : Settings) (net : Network σ) (calls : List (Request × σ)) (p : Pool) :
    Prop where
  /-- No backend is due when a request comes. -/
  idle : ∀ k (hk : k < calls.length), ∀ b ∈ (forwardRun s net (calls.take k) p).backends,
    b.isDue (net.clock calls[k].2) = false
  fault : ∀ t ∈ (loggedRun s net calls p).1, t.IsFault
  rising : (loggedRun s net calls p).1.Pairwise fun t u => net.clock t.after < net.clock u.after
  later : ∀ t ∈ (loggedRun s net calls p).1, ∀ b ∈ p.backends, ∀ seen ∈ b.lastSeen,
    seen < net.clock t.after

/-- What a run of requests tries, by the pool before it and its log. -/
structure Probed (s : Settings) (net : Network σ) (calls : List (Request × σ)) (p : Pool)
    (queue : List Nat) (log : List (Try σ)) : Prop where
  /-- Each request makes one try. -/
  single : ∀ k (hk : k < calls.length), ∃ t b, log[k]? = some t ∧
    triesOf s net (forwardRun s net (calls.take k) p) calls[k] = [t] ∧
    p.backends[t.index]? = some b ∧
    exchange s net b.url calls[k].1 calls[k].2 = (t.outcome, t.after)
  /-- The tries are turns of the queue. -/
  turns : log.map Try.index = turns calls.length queue

/-- While backends wait, a run without fruit goes round their queue. -/
theorem Pool.Waiting.probed {calls : List (Request × σ)} {p : Pool} {queue : List Nat}
    (h : p.Waiting queue) (hne : queue ≠ []) (hrun : Fruitless s net calls p) :
    Probed s net calls p queue (loggedRun s net calls p).1 := by
  induction calls generalizing p queue with
  | nil => exact ⟨fun k hk => absurd hk (Nat.not_lt_zero k), rfl⟩
  | cons call calls ih =>
    obtain ⟨i, rest, rfl⟩ := List.exists_cons_of_ne_nil hne
    obtain ⟨hidle, hfault, hrising, hlater⟩ := hrun
    rw [loggedRun_cons] at hfault hrising hlater ⊢
    have hdue : ∀ b ∈ p.backends, b.isDue (net.clock call.2) = false := hidle 0 (Nat.succ_pos _)
    obtain ⟨t, b, htries, rfl, hb, hx, hnext, hwaiting⟩ :=
      h.exists_triesOf hdue (fun t ht => hfault t (List.mem_append_left _ ht))
        (fun t ht => hlater t (List.mem_append_left _ ht))
    rw [htries, List.singleton_append] at hfault hrising hlater ⊢
    obtain ⟨hfirst, hrising⟩ := List.pairwise_cons.mp hrising
    have hafter : Fruitless s net calls (forwardRun s net [call] p) := by
      refine ⟨fun k hk => hidle (k + 1) (Nat.succ_lt_succ hk),
        fun u hu => hfault u (List.mem_cons_of_mem t hu), hrising, fun u hu c hc seen hseen => ?_⟩
      rw [hnext] at hc
      rcases mem_updateFirst hc with hc | ⟨d, -, rfl⟩
      · exact hlater u (List.mem_cons_of_mem t hu) c hc seen hseen
      · cases hseen
        exact hfirst u hu
    obtain ⟨hsingle, hturns⟩ := ih hwaiting (by simp) hafter
    refine ⟨fun k hk => ?_, ?_⟩
    · cases k with
      | zero => exact ⟨t, b, rfl, htries, hb, hx⟩
      | succ k =>
        obtain ⟨u, c, hu, huTries, hc, hcx⟩ := hsingle k (Nat.lt_of_succ_lt_succ hk)
        -- the URLs are those of the pool before the run
        have hurl := congrArg (·[u.index]?)
          (p.map_url_recordFailure t.index (net.clock t.after) b.url)
        rw [← hnext] at hurl
        simp only [List.getElem?_map, hc, Option.map_some] at hurl
        obtain ⟨d, hd, hdurl⟩ := Option.map_eq_some_iff.mp hurl.symm
        exact ⟨u, d, hu, huTries, hd, hdurl ▸ hcx⟩
    · rw [List.map_cons, hturns, List.length_cons, turns_succ_cons]

/-- In a run without fruit on backends that are all down, each request makes one try.  The first
requests try the backends in the order in which they were last seen, those of the same time in the
order of their indices, and that order repeats.  So no backend is left out by as many requests in a
row as there are backends. -/
theorem none_starved {calls : List (Request × σ)} {p : Pool} (hne : p.backends ≠ [])
    (hurls : p.DistinctUrls) (hdown : ∀ b ∈ p.backends, b.health = .down)
    (h : Fruitless s net calls p) :
    let log := (loggedRun s net calls p).1
    let n := p.backends.length
    ∃ queue, p.Queue queue ∧ log.length = calls.length ∧
      (∀ k (hk : k < calls.length), ∃ t b, log[k]? = some t ∧
        triesOf s net (forwardRun s net (calls.take k) p) calls[k] = [t] ∧
        queue[k % n]? = some t.index ∧ p.backends[t.index]? = some b ∧
        exchange s net b.url calls[k].1 calls[k].2 = (t.outcome, t.after)) ∧
      ∀ m, m + n ≤ calls.length → (((log.drop m).take n).map Try.index).Perm (List.range n) := by
  intro log n
  obtain ⟨queue, hqueue⟩ := p.exists_queue
  have hlen : queue.length = n := by rw [hqueue.perm.length_eq, List.length_range]
  have hsome : queue ≠ [] := List.ne_nil_of_length_pos (hlen ▸ List.length_pos_iff.mpr hne)
  obtain ⟨hsingle, hturns⟩ := Pool.Waiting.probed ⟨hurls, hdown, hqueue⟩ hsome h
  refine ⟨queue, hqueue, ?_, fun k hk => ?_, fun m hm => ?_⟩
  · rw [← List.length_map Try.index, hturns, length_turns hsome]
  · obtain ⟨t, b, ht, htries, hb, hx⟩ := hsingle k hk
    refine ⟨t, b, ht, htries, ?_, hb, hx⟩
    rw [← hlen, ← getElem?_turns hk, ← hturns, List.getElem?_map, ht]
    rfl
  · have hround : ((log.drop m).take n).map Try.index = queue.rotate m := by
      rw [List.map_take, List.map_drop, hturns, ← Nat.add_sub_of_le (Nat.le_of_add_right_le hm),
        drop_turns, take_turns (by omega), ← hlen, ← List.length_rotate queue m, turns_length]
    rw [hround]
    exact (List.rotate_perm queue m).trans hqueue.perm

/-- A backend that is down and was last seen at a time. -/
def sleeper (url : Text) (seen : Instant) : Backend where
  url := url
  health := .down
  lastSeen := some seen
  failures := 3

/-- Three of them, two of which were seen at the same time. -/
def sleepers : Pool where
  backends := [sleeper "tcp://127.0.0.1:40000".toList 5, sleeper "tcp://127.0.0.1:40001".toList 3,
    sleeper "tcp://127.0.0.1:40002".toList 3]
  cursor := 2

/-- Seven requests, one after the other. -/
def knocks : List (Request × Instant) :=
  (List.range 7).map fun k => (plainRequest, 10 * k + 10)

theorem fruitless_knocks : Fruitless {} .isolated knocks sleepers where
  idle := by decide
  fault t ht := by
    have hall : ∀ t ∈ (loggedRun {} .isolated knocks sleepers).1,
        t.outcome.isOk = false ∧ t.counts = true := by decide
    exact Try.isFault_of_counts (hall t ht).1 (hall t ht).2
  rising := by decide
  later := by decide

/-- The last two are tried before the first, and then all over again. -/
theorem none_starved_knocks :
    sleepers.backends ≠ [] ∧ sleepers.DistinctUrls ∧ Fruitless {} .isolated knocks sleepers ∧
      (loggedRun {} .isolated knocks sleepers).1.map Try.index = [1, 2, 0, 1, 2, 0, 1] ∧
      ∃ queue, sleepers.Queue queue ∧ queue[4 % 3]? = some 2 := by
  have hurls : sleepers.DistinctUrls := by
    unfold Pool.DistinctUrls
    decide
  refine ⟨by decide, hurls, fruitless_knocks, by decide, ?_⟩
  obtain ⟨queue, hqueue, -, hsingle, -⟩ :=
    none_starved (by decide) hurls (by decide) fruitless_knocks
  obtain ⟨t, b, ht, -, hturn, -⟩ := hsingle 4 (by decide)
  have hindex : (loggedRun {} .isolated knocks sleepers).1[4]?.map Try.index = some 2 := by decide
  rw [ht, Option.map_some] at hindex
  exact ⟨queue, hqueue, hturn.trans hindex⟩

end Gateway.Proxy
