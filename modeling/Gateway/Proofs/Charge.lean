import Mathlib.Data.List.Perm.Basic
import Gateway.Server.Handler
import Gateway.Proofs.Failover
import Gateway.Proofs.History

/-!
# What exchanges are charged to

A pick takes the backend at an index, and what the exchange comes to is recorded for the URL of that
backend, at the home of the URL.  Where two backends have the same URL, this is another index: the
second is charged nothing and stays up, however often it fails (`not_charged_to_picked`).

A run of requests leaves a log of tries, which lead from the pool before it to the pool after it
(`Trail`).  Of the pool, each backend is what the tries make of it that are charged to its index
(`getElem?_replay`).  So a backend whose URL no other has follows its own exchanges.  After three
failures in a row it is down, it is not counted, and it sits out as long as another is up
(`sitsOut_of_struck`).
-/

namespace Gateway.Proxy

open Gateway.Http

variable {σ : Type} {s : Settings} {net : Network σ} {requests : List Request}

/-! ## Charging -/

namespace Try

/-- Whether what a try came to is charged to a backend.  A request that is too large is not. -/
def counts (t : Try σ) : Bool :=
  match t.outcome with
  | .ok _ => true
  | .error e => e.isBackendFault

theorem effect_url (t : Try σ) (b : Backend) : (t.effect net b).url = b.url := by
  unfold effect
  split
  · rfl
  · split <;> rfl

/-- What is not charged has no effect. -/
theorem effect_of_not_counts {t : Try σ} (h : t.counts = false) (b : Backend) :
    t.effect net b = b := by
  unfold counts at h
  split at h
  · cases h
  · next e he => exact effect_of_isRefused ⟨e, he, h⟩ b

end Try

namespace Pool

/-- The index that a try of an index is charged to: the home of the URL that it finds there. -/
def chargedTo? (p : Pool) (i : Nat) : Option Nat := (p.backends[i]?).bind fun b => p.home? b.url

/-- The pool after a try. -/
def charge (net : Network σ) (p : Pool) (t : Try σ) : Pool :=
  match p.backends[t.index]? with
  | none => p
  | some b => { p.past t.index with backends := updateFirst b.url (t.effect net) p.backends }

/-- The pool after the tries of a log. -/
def replay (net : Network σ) (p : Pool) (log : List (Try σ)) : Pool := log.foldl (charge net) p

theorem charge_eq {p : Pool} {t : Try σ} {b : Backend} (hb : p.backends[t.index]? = some b) :
    p.charge net t
      = { p.past t.index with backends := updateFirst b.url (t.effect net) p.backends } := by
  rw [charge, hb]

theorem updateFirst_eq_self {url : Text} {f : Backend → Backend} (hf : ∀ b, f b = b)
    (bs : List Backend) : updateFirst url f bs = bs := by
  induction bs with
  | nil => rfl
  | cons b bs ih => simp [updateFirst, hf, ih]

theorem map_url_charge (net : Network σ) (p : Pool) (t : Try σ) :
    (p.charge net t).backends.map Backend.url = p.backends.map Backend.url := by
  cases hb : p.backends[t.index]? with
  | none => simp [charge, hb]
  | some b =>
    rw [charge_eq hb]
    exact map_updateFirst t.effect_url p.backends

theorem map_url_replay (net : Network σ) (p : Pool) (log : List (Try σ)) :
    (p.replay net log).backends.map Backend.url = p.backends.map Backend.url := by
  induction log generalizing p with
  | nil => rfl
  | cons t log ih => exact (ih (p.charge net t)).trans (p.map_url_charge net t)

/-- What an index is charged to depends on the URLs alone. -/
theorem chargedTo?_congr {p q : Pool}
    (h : p.backends.map Backend.url = q.backends.map Backend.url) (i : Nat) :
    p.chargedTo? i = q.chargedTo? i := by
  have hurls : ∀ r : Pool, r.chargedTo? i = ((r.backends.map Backend.url)[i]?).bind r.home? := by
    intro r
    rw [chargedTo?, List.getElem?_map, Option.bind_map]
    rfl
  rw [hurls p, hurls q, h, funext (home?_congr h)]

/-- A try has its effect on the index that it is charged to. -/
theorem getElem?_charge (p : Pool) (t : Try σ) (i : Nat) :
    (p.charge net t).backends[i]? =
      if p.chargedTo? t.index = some i then p.backends[i]?.map (t.effect net)
      else p.backends[i]? := by
  cases hb : p.backends[t.index]? with
  | none => simp [charge, chargedTo?, hb]
  | some b =>
    rw [charge_eq hb, chargedTo?, hb, Option.bind_some]
    exact getElem?_updateFirst b.url (t.effect net) p i

/-- A backend is what the tries make of it that are charged to its index, in their order. -/
theorem getElem?_replay (p : Pool) (log : List (Try σ)) (i : Nat) :
    (p.replay net log).backends[i]? = (p.backends[i]?).map fun b =>
      (log.filter fun t => p.chargedTo? t.index = some i).foldl (fun b t => t.effect net b) b := by
  induction log generalizing p with
  | nil => simp [replay]
  | cons t log ih =>
    have hsame := chargedTo?_congr (p.map_url_charge net t)
    rw [replay, List.foldl_cons]
    refine (ih (p.charge net t)).trans ?_
    rw [getElem?_charge]
    simp only [hsame, List.filter_cons]
    by_cases h : p.chargedTo? t.index = some i
    · simp only [h, decide_true, if_true, Option.map_map, List.foldl_cons]
      rfl
    · simp only [h, decide_false, if_false, Bool.false_eq_true]

end Pool

/-! ## The trail of a run -/

/-- Whether tries lead from one pool to another.  Each is an exchange for one of the requests with
the backend that the rotation picks, and is charged. -/
inductive Trail (s : Settings) (net : Network σ) (requests : List Request) :
    Pool → List (Try σ) → Pool → Prop where
  | nil (p : Pool) : Trail s net requests p [] p
  | cons {p p' : Pool} {t : Try σ} {log : List (Try σ)} {b : Backend} {r : Request} :
    p.pick? (net.clock t.before) = some t.index → p.backends[t.index]? = some b →
    r ∈ requests → exchange s net b.url r t.before = (t.outcome, t.after) →
    Trail s net requests (p.charge net t) log p' → Trail s net requests p (t :: log) p'

/-- The tries of one request lead to the pool after it. -/
theorem trail_logged {r : Request} (hr : r ∈ requests) (left : Nat) (last : ProxyError) (p : Pool)
    (world : σ) : Trail s net requests p (logged s net r left last p world).1
      (logged s net r left last p world).2.2.1 := by
  induction left generalizing last p world with
  | zero => exact .nil p
  | succ left ih =>
    rw [logged]
    cases hpick : p.pick? (net.clock world) with
    | none => exact .nil p
    | some i =>
      dsimp only
      cases hb : p.backends[i]? with
      | none => exact .nil p
      | some b =>
        dsimp only
        cases hx : exchange s net b.url r world with
        | mk outcome after =>
          have hcharge : p.charge net ⟨i, world, outcome, after⟩ = _ := Pool.charge_eq hb
          cases outcome with
          | ok response =>
            refine .cons hpick hb hr hx ?_
            rw [hcharge]
            exact .nil _
          | error e =>
            dsimp only
            split
            · next hfault =>
              have heffect : Try.effect net ⟨i, world, .error e, after⟩
                  = Backend.recordFailure (net.clock after) :=
                funext (Try.effect_of_isFault ⟨e, rfl, hfault⟩)
              refine .cons hpick hb hr hx ?_
              rw [hcharge, heffect]
              exact ih e _ after
            · next hfault =>
              have heffect : ∀ c, Try.effect net ⟨i, world, .error e, after⟩ c = c :=
                Try.effect_of_isRefused ⟨e, rfl, Bool.eq_false_iff.mpr hfault⟩
              refine .cons hpick hb hr hx ?_
              rw [hcharge, Pool.updateFirst_eq_self heffect]
              exact .nil _

namespace Trail

variable {p p' p'' : Pool} {log more older : List (Try σ)} {t : Try σ}

theorem append (h : Trail s net requests p log p') (h' : Trail s net requests p' more p'') :
    Trail s net requests p (log ++ more) p'' := by
  induction h with
  | nil p => exact h'
  | cons hpick hb hr hx _ ih => exact .cons hpick hb hr hx (ih h')

theorem replay_eq (h : Trail s net requests p log p') : p.replay net log = p' := by
  induction h with
  | nil p => rfl
  | cons _ _ _ _ _ ih => exact ih

/-- What follows some tries starts from the pool after them. -/
theorem rest (h : Trail s net requests p (older ++ more) p') :
    Trail s net requests (p.replay net older) more p' := by
  induction older generalizing p with
  | nil => exact h
  | cons t older ih =>
    cases h with
    | cons _ _ _ _ h => exact ih h

end Trail

/-! ## Requests one after the other -/

/-- Forward requests one after the other, each in the network as it is when it comes, and log the
tries. -/
def loggedRun (s : Settings) (net : Network σ) : List (Request × σ) → Pool → List (Try σ) × Pool
  | [], p => ([], p)
  | (r, world) :: calls, p =>
    let (log, _, next, _) := logged s net r (p.candidateCount (net.clock world)) .noBackend p world
    let (more, after) := loggedRun s net calls next
    (log ++ more, after)

/-- The pool after requests are forwarded one after the other. -/
def forwardRun (s : Settings) (net : Network σ) (calls : List (Request × σ)) (p : Pool) : Pool :=
  calls.foldl (fun p call => (forward s net call.1 p call.2).2.1) p

theorem loggedRun_snd (calls : List (Request × σ)) (p : Pool) :
    (loggedRun s net calls p).2 = forwardRun s net calls p := by
  induction calls generalizing p with
  | nil => rfl
  | cons call calls ih =>
    rw [forwardRun, List.foldl_cons, forward, ← logged_snd]
    exact ih _

/-- The tries of the requests lead to the pool after them. -/
theorem trail_loggedRun {calls : List (Request × σ)} (h : ∀ call ∈ calls, call.1 ∈ requests)
    (p : Pool) : Trail s net requests p (loggedRun s net calls p).1 (forwardRun s net calls p) := by
  rw [← loggedRun_snd]
  induction calls generalizing p with
  | nil => exact .nil p
  | cons call calls ih =>
    refine .append (trail_logged (h call List.mem_cons_self) _ _ p call.2) ?_
    exact ih (fun c hc => h c (List.mem_cons_of_mem call hc)) _

/-! ## Backends that no other is taken for -/

/-- The tries of an index that count. -/
def exchangesOf (i : Nat) (log : List (Try σ)) : List (Try σ) :=
  log.filter fun t => t.index = i && t.counts

namespace Pool

/-- Whether no other backend has the URL of the one at an index. -/
def Sole (p : Pool) (i : Nat) : Prop :=
  ∀ b, p.backends[i]? = some b → ∀ (j : Nat) c, p.backends[j]? = some c → c.url = b.url → j = i

theorem DistinctUrls.sole {p : Pool} (h : p.DistinctUrls) (i : Nat) : p.Sole i := by
  intro b hb j c hc hurl
  obtain ⟨hj, -⟩ := List.getElem?_eq_some_iff.mp hc
  refine (List.getElem?_inj (by rwa [List.length_map]) h).mp ?_
  rw [List.getElem?_map, List.getElem?_map, hb, hc, Option.map_some, Option.map_some, hurl]

/-- A URL that a backend has is at home. -/
theorem exists_home? {p : Pool} {i : Nat} {b : Backend} (hb : p.backends[i]? = some b) :
    ∃ k, p.home? b.url = some k := by
  cases hk : p.home? b.url with
  | some k => exact ⟨k, rfl⟩
  | none =>
    have hnone := List.findIdx?_eq_none_iff.mp hk b (List.mem_of_getElem? hb)
    simp at hnone

/-- Its own tries are charged to such a backend, and no others. -/
theorem Sole.chargedTo?_iff {p : Pool} {i : Nat} (h : p.Sole i) {b : Backend}
    (hb : p.backends[i]? = some b) (j : Nat) : p.chargedTo? j = some i ↔ j = i := by
  constructor
  · intro hj
    obtain ⟨c, hc, hhome⟩ := Option.bind_eq_some_iff.mp hj
    obtain ⟨b', hb', hurl⟩ := exists_of_home? hhome
    exact h b' hb' j c hc hurl.symm
  · rintro rfl
    obtain ⟨k, hk⟩ := exists_home? hb
    obtain ⟨c, hc, hurl⟩ := exists_of_home? hk
    rw [chargedTo?, hb, Option.bind_some, hk, h b hb k c hc hurl]

/-- A try is charged to its own index exactly if no backend before has the URL. -/
theorem chargedTo?_self_iff {p : Pool} {i : Nat} {b : Backend} (hb : p.backends[i]? = some b) :
    p.chargedTo? i = some i ↔ ∀ j < i, ∀ c, p.backends[j]? = some c → c.url ≠ b.url := by
  rw [chargedTo?, hb, Option.bind_some, home?, List.findIdx?_eq_some_iff_getElem]
  obtain ⟨hi, rfl⟩ := List.getElem?_eq_some_iff.mp hb
  constructor
  · rintro ⟨_, _, hfirst⟩ j hj c hc
    obtain ⟨hlt, rfl⟩ := List.getElem?_eq_some_iff.mp hc
    simpa using hfirst j hj
  · intro hfirst
    refine ⟨hi, by simp, fun j hj => ?_⟩
    simpa using hfirst j hj _ (List.getElem?_eq_getElem (Nat.lt_trans hj hi))

/-- A backend that is down is not counted among those that are up. -/
theorem availableCount_of_down {p : Pool} {i : Nat} {b : Backend} (hb : p.backends[i]? = some b)
    (hdown : b.health = .down) :
    p.availableCount = (p.backends.eraseIdx i).countP Backend.isUp := by
  obtain ⟨hi, rfl⟩ := List.getElem?_eq_some_iff.mp hb
  have hnot : ¬ (p.backends[i]).isUp = true := by simp [Backend.isUp, hdown]
  rw [availableCount, ← (List.getElem_cons_eraseIdx_perm hi).countP_eq,
    List.countP_cons_of_neg hnot]

/-- A backend that is down is not picked before its time, as long as another is up. -/
theorem pick?_ne_of_down {p : Pool} {i : Nat} {b : Backend} {seen now : Instant}
    (hb : p.backends[i]? = some b) (hdown : b.health = .down) (hseen : b.lastSeen = some seen)
    (hnow : now < seen + Backend.retryAfter) (hup : ∃ c ∈ p.backends, c.health = .up) :
    p.pick? now ≠ some i := by
  have hnot : p.eligibleAt now i = false := by
    have hdue : ¬ Backend.retryAfter ≤ now - seen := by
      have hsub : ∀ a b c : Nat, 0 < c → a < b + c → ¬ c ≤ a - b := by omega
      exact hsub now seen _ (by decide) hnow
    simp [eligibleAt, hb, Backend.isEligible, Backend.isUp, Backend.isDue, hdown, hseen, hdue]
  obtain ⟨c, hc, hcup⟩ := hup
  have hany : p.order.any (p.eligibleAt now) = true :=
    any_order_iff.mpr ⟨c, hc, by simp [Backend.isEligible, Backend.isUp, hcup]⟩
  intro hpick
  rcases Option.or_eq_some_iff.mp hpick with hfind | ⟨hnone, -⟩
  · rw [List.find?_some hfind] at hnot
    cases hnot
  · obtain ⟨j, hj, helig⟩ := List.any_eq_true.mp hany
    exact List.find?_eq_none.mp hnone j hj helig

end Pool

theorem Backend.Sound.effect {b : Backend} (h : b.Sound) (net : Network σ) (t : Try σ) :
    (t.effect net b).Sound := by
  unfold Try.effect
  split
  · exact .recordSuccess b _
  · split
    · exact h.recordFailure _
    · exact h

theorem Backend.Sound.foldl_effect {b : Backend} (h : b.Sound) (log : List (Try σ)) :
    (log.foldl (fun b t => t.effect net b) b).Sound := by
  induction log generalizing b with
  | nil => exact h
  | cons t log ih => exact ih (h.effect net t)

/-- Tries that do not count can be left out. -/
theorem foldl_effect_filter (P : Try σ → Bool) (log : List (Try σ)) (b : Backend) :
    (log.filter P).foldl (fun b t => t.effect net b) b
      = (log.filter fun t => P t && t.counts).foldl (fun b t => t.effect net b) b := by
  induction log generalizing b with
  | nil => rfl
  | cons t log ih =>
    cases hP : P t with
    | false => simp [hP, ih]
    | true =>
      cases hcounts : t.counts with
      | false => simp [hP, hcounts, ih, Try.effect_of_not_counts hcounts]
      | true => simp [hP, hcounts, ih]

/-- Three failures in a row take a backend down. -/
theorem down_of_struck {b : Backend} (hb : b.Sound) {x y z : Try σ} (hx : x.IsFault)
    (hy : y.IsFault) (hz : z.IsFault) :
    (z.effect net (y.effect net (x.effect net b))).health = .down := by
  have hsound := ((hb.effect net x).effect net y).effect net z
  rw [hsound.down_iff, Try.effect_of_isFault hx, Try.effect_of_isFault hy,
    Try.effect_of_isFault hz]
  simp only [Backend.recordFailure, Backend.failureThreshold, Backend.maxFailures]
  omega

/-- Whether the backend at an index sits out since a try. -/
structure SitsOut (net : Network σ) (p : Pool) (i : Nat) (t : Try σ) : Prop where
  down : ∃ b, p.backends[i]? = some b ∧ b.health = .down ∧ b.lastSeen = some (net.clock t.after)
  /-- Only the others are counted. -/
  uncounted : p.availableCount = (p.backends.eraseIdx i).countP Backend.isUp
  /-- Before its time it is not picked, as long as another is up. -/
  unpicked : ∀ now, now < net.clock t.after + Backend.retryAfter →
    (∃ c ∈ p.backends, c.health = .up) → p.pick? now ≠ some i

/-- A backend whose URL no other has sits out after three failures in a row. -/
theorem sitsOut_of_struck {start : Pool} {i : Nat} {b : Backend}
    (hb : start.backends[i]? = some b) (hsound : b.Sound) (hsole : start.Sole i)
    {log before : List (Try σ)} {x y z : Try σ} (hlast : exchangesOf i log = before ++ [x, y, z])
    (hx : x.IsFault) (hy : y.IsFault) (hz : z.IsFault) :
    SitsOut net (start.replay net log) i z := by
  have hcharged : ∀ t : Try σ, decide (start.chargedTo? t.index = some i) = (t.index == i) := by
    intro t
    rw [Bool.eq_iff_iff, decide_eq_true_iff, beq_iff_eq]
    exact hsole.chargedTo?_iff hb t.index
  obtain ⟨b', hb', hdown, hseen⟩ : ∃ b', (start.replay net log).backends[i]? = some b' ∧
      b'.health = .down ∧ b'.lastSeen = some (net.clock z.after) := by
    refine ⟨_, by rw [Pool.getElem?_replay, hb]; rfl, ?_⟩
    simp only [hcharged]
    rw [foldl_effect_filter, show (log.filter fun t => (t.index == i) && t.counts) = _ from hlast,
      List.foldl_append]
    refine ⟨down_of_struck (hsound.foldl_effect before) hx hy hz, ?_⟩
    exact congrArg Backend.lastSeen (Try.effect_of_isFault hz _)
  exact ⟨⟨b', hb', hdown, hseen⟩, Pool.availableCount_of_down hb' hdown,
    fun now hnow hup => Pool.pick?_ne_of_down hb' hdown hseen hnow hup⟩

/-! ## How a run is charged -/

/-- How the exchanges of a run are charged, by its log and the pools before and after it. -/
structure Charges (s : Settings) (net : Network σ) (requests : List Request) (start : Pool)
    (log : List (Try σ)) (after : Pool) : Prop where
  /-- The tries lead to the pool after the run. -/
  leads : start.replay net log = after
  /-- Each is an exchange, for one of the requests, with the backend that the rotation picks. -/
  tried : ∀ older t later, log = older ++ t :: later →
    (start.replay net older).pick? (net.clock t.before) = some t.index ∧
      ∃ b r, start.backends[t.index]? = some b ∧ r ∈ requests ∧
        exchange s net b.url r t.before = (t.outcome, t.after)
  /-- At any time, a backend is what the tries made of it that are charged to its index. -/
  charged : ∀ older, older <+: log → ∀ i b, start.backends[i]? = some b →
    (start.replay net older).backends[i]? =
      some ((older.filter fun t => start.chargedTo? t.index = some i).foldl
        (fun b t => t.effect net b) b)
  /-- A try is charged to its own index exactly if no backend before has the URL. -/
  own_iff : ∀ t ∈ log, ∀ b, start.backends[t.index]? = some b →
    (start.chargedTo? t.index = some t.index ↔
      ∀ j < t.index, ∀ c, start.backends[j]? = some c → c.url ≠ b.url)
  /-- A backend that is not the first with its URL stays up, whatever becomes of its exchanges. -/
  spared : ∀ older, older <+: log → ∀ i b, start.backends[i]? = some b →
    start.home? b.url ≠ some i →
    ∃ b', (start.replay net older).backends[i]? = some b' ∧ b'.health = .up ∧ b'.failures = 0
  /-- One whose URL no other has sits out after three failures in a row. -/
  struck : ∀ older, older <+: log → ∀ i b, start.backends[i]? = some b → start.Sole i →
    ∀ before x y z, exchangesOf i older = before ++ [x, y, z] →
      x.IsFault → y.IsFault → z.IsFault → SitsOut net (start.replay net older) i z

/-- A pool as it is configured has seen nothing. -/
theorem poolOf_eq_ofSites (c : Config) :
    Handler.poolOf c = .ofSites (c.proxy.backends.map fun b => (b.url, b.name)) := by
  rw [Pool.ofSites, List.map_map]
  rfl

/-- In a run of requests from a configured pool, each exchange is charged to the first backend that
has the URL of the one that was picked. -/
theorem charges_run (s : Settings) (net : Network σ) (c : Config) (calls : List (Request × σ)) :
    Charges s net (calls.map Prod.fst) (Handler.poolOf c)
      (loggedRun s net calls (Handler.poolOf c)).1 (forwardRun s net calls (Handler.poolOf c)) := by
  have htrail : Trail s net (calls.map Prod.fst) _ _ _ :=
    trail_loggedRun (fun call hcall => List.mem_map_of_mem hcall) (Handler.poolOf c)
  have hup : ∀ b ∈ (Handler.poolOf c).backends, b.health = .up ∧ b.failures = 0 := by
    intro b hb
    obtain ⟨site, -, rfl⟩ := List.mem_map.mp hb
    exact ⟨rfl, rfl⟩
  have hsound : ∀ b ∈ (Handler.poolOf c).backends, b.Sound := by
    rw [poolOf_eq_ofSites]
    exact Pool.sound_of_reachable (.start _)
  generalize (loggedRun s net calls (Handler.poolOf c)).1 = log at htrail ⊢
  generalize forwardRun s net calls (Handler.poolOf c) = after at htrail ⊢
  generalize Handler.poolOf c = start at htrail hup hsound ⊢
  exact {
    leads := htrail.replay_eq
    tried := by
      rintro older t later rfl
      cases htrail.rest with
      | cons hpick hb hr hx _ =>
        have hurl := congrArg (·[t.index]?) (start.map_url_replay net older)
        simp only [List.getElem?_map, hb, Option.map_some] at hurl
        obtain ⟨b, hb', hurl⟩ := Option.map_eq_some_iff.mp hurl.symm
        exact ⟨hpick, b, _, hb', hr, hurl ▸ hx⟩
    charged := by
      intro older _ i b hb
      rw [Pool.getElem?_replay, hb, Option.map_some]
    own_iff := fun t _ b hb => Pool.chargedTo?_self_iff hb
    spared := by
      intro older _ i b hb hhome
      have hnone : ∀ t : Try σ, start.chargedTo? t.index ≠ some i := by
        intro t ht
        obtain ⟨c, -, hc⟩ := Option.bind_eq_some_iff.mp ht
        obtain ⟨b', hb', hurl⟩ := Pool.exists_of_home? hc
        rw [hb] at hb'
        cases hb'
        rw [hurl] at hhome
        exact hhome hc
      refine ⟨b, ?_, hup b (List.mem_of_getElem? hb)⟩
      simp [Pool.getElem?_replay, hb, hnone]
    struck := fun older _ i b hb hsole before x y z hlast hx hy hz =>
      sitsOut_of_struck hb (hsound b (List.mem_of_getElem? hb)) hsole hlast hx hy hz }

/-- Three requests, one after the other. -/
def threeCalls : List (Request × Instant) :=
  [(plainRequest, 0), (plainRequest, 2), (plainRequest, 4)]

/-- A configuration of two backends. -/
def pair : Config where
  proxy := {
    backends := [{ url := "http://[::1]:40000".toList }, { url := "http://[::1]:40001".toList }] }

/-- A network on which one port accepts no connection, and every other answers. -/
def Network.halfDown : Network Instant where
  readUrl := Url.parse
  lookup endpoint now := (some [.v4 ⟨127, 0, 0, 1⟩ (UInt16.ofNat endpoint.port)], now)
  connect address now :=
    if address = .v4 ⟨127, 0, 0, 1⟩ 40000 then (.failed unreachable, now + 1) else (.accepted, now)
  converse _ _ now := ((.sent, [.data (Utf8.encode "pong".toList)]), now + 1)
  growth := .doubling
  clock := id

/-- The first backend fails once for each request, and sits out after the third.  The other is up,
so it is the one that is counted and picked. -/
theorem charges_run_struck :
    let log := (loggedRun {} .halfDown threeCalls (Handler.poolOf pair)).1
    let after := forwardRun {} .halfDown threeCalls (Handler.poolOf pair)
    pair.validate = .ok () ∧ (Handler.poolOf pair).Sole 0 ∧
      ∃ x y z, exchangesOf 0 log = [x, y, z] ∧
        x.IsFault ∧ y.IsFault ∧ z.IsFault ∧ SitsOut .halfDown after 0 z ∧
        (∃ c ∈ after.backends, c.health = .up) ∧ after.availableCount = 1 := by
  intro log after
  have hsole : (Handler.poolOf pair).Sole 0 := by
    refine Pool.DistinctUrls.sole ?_ 0
    unfold Pool.DistinctUrls
    decide
  have hfailed : (exchangesOf 0 log).map Try.outcome
      = List.replicate 3 (.error (.connect "[::1]:40000".toList unreachable)) := by
    decide +kernel
  obtain ⟨x, ts, hxs, hx, hfailed⟩ := List.map_eq_cons_iff.mp hfailed
  obtain ⟨y, ts, rfl, hy, hfailed⟩ := List.map_eq_cons_iff.mp hfailed
  obtain ⟨z, ts, rfl, hz, hfailed⟩ := List.map_eq_cons_iff.mp hfailed
  rw [List.map_eq_nil_iff.mp hfailed] at hxs
  have hcharges := charges_run {} .halfDown pair threeCalls
  have hout := hcharges.struck _ List.prefix_rfl 0 _ rfl hsole [] x y z hxs ⟨_, hx, rfl⟩
    ⟨_, hy, rfl⟩ ⟨_, hz, rfl⟩
  rw [hcharges.leads] at hout
  exact ⟨rfl, hsole, x, y, z, hxs, ⟨_, hx, rfl⟩, ⟨_, hy, rfl⟩, ⟨_, hz, rfl⟩, hout,
    by decide +kernel, by decide +kernel⟩

/-! ## Two backends with one URL -/

/-- A configuration that has the same backend twice. -/
def twins : Config where
  proxy := {
    backends := [{ url := "http://[::1]:40000".toList }, { url := "http://[::1]:40000".toList }] }

/-- The second of two backends with one URL fails three times in a row, and it is up, is counted and
is picked again.  All failures are charged to the first. -/
theorem not_charged_to_picked :
    twins.validate = .ok () ∧
      (∃ x y z, exchangesOf 1 (loggedRun {} .isolated threeCalls (Handler.poolOf twins)).1
          = [x, y, z] ∧ x.IsFault ∧ y.IsFault ∧ z.IsFault) ∧
      ((forwardRun {} .isolated threeCalls (Handler.poolOf twins)).backends.map
          fun b => (b.health, b.failures)) = [(.down, 5), (.up, 0)] ∧
      (forwardRun {} .isolated threeCalls (Handler.poolOf twins)).availableCount = 1 ∧
      (forwardRun {} .isolated threeCalls (Handler.poolOf twins)).pick? 5 = some 1 := by
  exact ⟨rfl, ⟨_, _, _, rfl, ⟨_, rfl, rfl⟩, ⟨_, rfl, rfl⟩, ⟨_, rfl, rfl⟩⟩, rfl, rfl, rfl⟩

end Gateway.Proxy
