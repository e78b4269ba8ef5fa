import Mathlib.Data.List.Perm.Subperm
import Mathlib.Data.List.TakeWhile
import Gateway.Proxy.Call
import Gateway.Proofs.Failover

/-!
# Overtaking

Calls that share a pool share its cursor, and each counts its tries for itself.  So a call may use
them up on backends that it has tried before, because another call has moved the cursor past the
ones that it has not.  `not_tries_every_candidate` shows a call that tries one of two backends twice
and the other never.

What a call is still sure of follows from one fact: as long as a backend is up, the cursor does not
pass it unless it is picked.  The indices that come before it in the rotation are used up one after
the other, by whatever call (`picks_append_before_sublist`, by induction on the run).  A call that
gives up has failed as often as there were candidates when it started.  So a backend that was up all
the time was among those that it tried, or another call picked it meanwhile, or the call spent a try
on a backend that was no candidate at its start (`failed_or_overtaken`).
-/

namespace Gateway.Proxy

open Gateway.Http

/-! ## Steps and what they show -/

/-- What a step of a call does that matters to other calls. -/
inductive Deed where
  /-- It picks the backend at an index. -/
  | picks (index : Nat)
  /-- It sees the exchange with a URL fail. -/
  | fails (url : Text)
deriving DecidableEq, Repr

namespace Deed

/-- The index that is picked. -/
def index? : Deed → Option Nat
  | .picks i => some i
  | .fails _ => none

/-- The URL of the exchange that fails. -/
def failure? : Deed → Option Text
  | .picks _ => none
  | .fails url => some url

@[simp] theorem index?_picks (i : Nat) : (picks i).index? = some i := rfl

@[simp] theorem index?_fails (url : Text) : (fails url).index? = none := rfl

@[simp] theorem failure?_picks (i : Nat) : (picks i).failure? = none := rfl

@[simp] theorem failure?_fails (url : Text) : (fails url).failure? = some url := rfl

end Deed

namespace Call

/-- What the next step of a call does, if it does such a thing. -/
def deed? (now : Instant) (outcome : Except ProxyError Response) (c : Call) (p : Pool) :
    Option Deed :=
  match c with
  | .trying (_ + 1) _ => (p.pick? now).map .picks
  | .exchanging _ url =>
    match outcome with
    | .error e => if e.isBackendFault then some (.fails url) else none
    | .ok _ => none
  | _ => none

/-- The steps of a call on a pool, at a time and with an outcome of its exchange: the call and the
pool before it, what it does, and the call and the pool after it. -/
inductive Step (now : Instant) (outcome : Except ProxyError Response) :
    Call → Pool → Option Deed → Call → Pool → Prop where
  | count (p : Pool) :
    Step now outcome .fresh p none (.trying (p.candidateCount now) .noBackend) p
  | giveUp {left : Nat} {last : ProxyError} {p : Pool} : left = 0 ∨ p.backends = [] →
    Step now outcome (.trying left last) p none (.answered last.response) p
  | pick {left i : Nat} {last : ProxyError} {p : Pool} {b : Backend} :
    p.pick? now = some i → p.backends[i]? = some b →
    Step now outcome (.trying (left + 1) last) p (some (.picks i)) (.exchanging left b.url)
      (p.past i)
  | fail {left : Nat} {url : Text} {e : ProxyError} (p : Pool) :
    outcome = .error e → e.isBackendFault = true →
    Step now outcome (.exchanging left url) p (some (.fails url)) (.trying left e)
      (p.recordFailure now url)
  | refuse {left : Nat} {url : Text} {e : ProxyError} (p : Pool) :
    outcome = .error e → e.isBackendFault = false →
    Step now outcome (.exchanging left url) p none (.answered e.response) p
  | answer {left : Nat} {url : Text} {response : Response} (p : Pool) :
    outcome = .ok response →
    Step now outcome (.exchanging left url) p none (.answered response) (p.recordSuccess now url)
  | rest (response : Response) (p : Pool) :
    Step now outcome (.answered response) p none (.answered response) p

/-- Each step of a call is one of these. -/
theorem step_spec (now : Instant) (outcome : Except ProxyError Response) (c : Call) (p : Pool) :
    Step now outcome c p (c.deed? now outcome p) (c.step now outcome p).1
      (c.step now outcome p).2 := by
  cases c with
  | fresh => exact .count p
  | trying left last =>
    cases left with
    | zero => exact .giveUp (Or.inl rfl)
    | succ left =>
      cases hpick : p.pick? now with
      | none =>
        simp only [deed?, step, Pool.next?_eq, hpick]
        exact .giveUp (Or.inr (Pool.pick?_eq_none_iff.mp hpick))
      | some i =>
        obtain ⟨b, hb⟩ := Pool.exists_of_pick? hpick
        simp only [deed?, step, Pool.next?_eq, hpick, Option.bind_some, hb, Option.map_some]
        exact .pick hpick hb
  | exchanging left url =>
    cases outcome with
    | ok response => exact .answer p rfl
    | error e =>
      cases hfault : e.isBackendFault with
      | true =>
        simp only [deed?, step, hfault, if_true]
        exact .fail p rfl hfault
      | false =>
        simp only [deed?, step, hfault, Bool.false_eq_true, if_false]
        exact .refuse p rfl hfault
  | answered response => exact .rest response p

namespace Step

variable {now : Instant} {outcome : Except ProxyError Response} {c c' : Call} {p p' : Pool}
  {d : Option Deed}

/-- No step changes a URL. -/
theorem map_url (h : Step now outcome c p d c' p') :
    p'.backends.map Backend.url = p.backends.map Backend.url := by
  cases h with
  | fail p _ _ => exact Pool.map_updateFirst (fun b => b.recordFailure_url now) p.backends
  | answer p _ => exact Pool.map_updateFirst (fun b => b.recordSuccess_url now) p.backends
  | _ => rfl

/-- A step that picks no index leaves the order of the next pick as it is. -/
theorem order_eq (h : Step now outcome c p d c' p') (hd : ∀ i, d ≠ some (.picks i)) :
    p'.order = p.order := by
  have hlen := congrArg List.length h.map_url
  simp only [List.length_map] at hlen
  cases h with
  | pick _ _ => exact absurd rfl (hd _)
  | _ => simp only [Pool.order, hlen] <;> rfl

end Step

end Call

/-! ## Runs and what they show -/

namespace Pool

/-- Whether the backend at an index is up. -/
def upAt (k : Nat) (p : Pool) : Bool := (p.backends[k]?).any Backend.isUp

/-- The indices that come before an index in the rotation. -/
def before (k : Nat) (p : Pool) : List Nat := p.order.takeWhile (· != k)

theorem takeWhile_bne_append {k : Nat} {xs ys : List Nat} (h : k ∉ xs) :
    (xs ++ k :: ys).takeWhile (· != k) = xs := by
  rw [List.takeWhile_append_of_pos]
  · simp
  · intro x hx
    simpa using fun he : x = k => h (he ▸ hx)

theorem eligibleAt_of_upAt {k : Nat} {p : Pool} (h : p.upAt k = true) (now : Instant) :
    p.eligibleAt now k = true := by
  obtain ⟨b, hb, hup⟩ := (Option.any_eq_true _ _).mp h
  rw [eligibleAt, hb, Option.any_some, Backend.isEligible, hup, Bool.true_or]

theorem mem_order_of_upAt {k : Nat} {p : Pool} (h : p.upAt k = true) : k ∈ p.order := by
  obtain ⟨b, hb, -⟩ := (Option.any_eq_true _ _).mp h
  exact mem_order.mpr (List.getElem?_eq_some_iff.mp hb).1

/-- A pick takes an index that is up, or one that comes before it. -/
theorem before_past {k i : Nat} {p : Pool} {now : Instant} (hk : p.upAt k = true)
    (hpick : p.pick? now = some i) (hne : i ≠ k) :
    ∃ skip, p.before k = skip ++ i :: (p.past i).before k := by
  have helig := eligibleAt_of_upAt hk now
  have hfind : p.order.find? (p.eligibleAt now) = some i := by
    rcases Option.or_eq_some_iff.mp hpick with h | ⟨h, -⟩
    · exact h
    · exact absurd helig (List.find?_eq_none.mp h k (mem_order_of_upAt hk))
  obtain ⟨-, skip, more, horder, hskip⟩ := List.find?_eq_some_iff_append.mp hfind
  have hmem := mem_order_of_upAt hk
  have hnot : k ∉ skip := by
    intro h
    simpa [helig] using hskip k h
  have hmore : k ∈ more := by
    rw [horder] at hmem
    simpa [hnot, Ne.symm hne] using hmem
  obtain ⟨first, last, rfl, hfirst⟩ := List.eq_append_cons_of_mem hmore
  refine ⟨skip, ?_⟩
  rw [before, before, order_past horder, horder, List.append_assoc, List.cons_append,
    takeWhile_bne_append hfirst, ← List.cons_append, ← List.append_assoc, takeWhile_bne_append]
  simp [hnot, hfirst, Ne.symm hne]

end Pool

/-- As long as a backend is up and not picked, a step takes what is picked from what comes before
it. -/
theorem Call.Step.before_sublist {now : Instant} {outcome : Except ProxyError Response}
    {c c' : Call} {p p' : Pool} {d : Option Deed} {k : Nat}
    (h : Call.Step now outcome c p d c' p') (hk : p.upAt k = true) (hd : d ≠ some (.picks k)) :
    ((d.bind Deed.index?).toList ++ p'.before k).Sublist (p.before k) := by
  have hsame : (∀ i, d ≠ some (.picks i)) → p'.before k = p.before k := by
    intro hnone
    rw [Pool.before, Pool.before, h.order_eq hnone]
  cases d with
  | none => rw [hsame (by simp)]; exact .refl _
  | some deed =>
    cases deed with
    | fails url => rw [hsame (by simp)]; exact .refl _
    | picks i =>
      cases h with
      | pick hpick hb =>
        obtain ⟨skip, hskip⟩ := Pool.before_past hk hpick (by rintro rfl; exact hd rfl)
        rw [hskip]
        exact List.sublist_append_right skip _

/-- The URLs that a call sees fail, by what it and others do. -/
def failuresOf (i : Nat) (log : List (Nat × Deed)) : List Text :=
  log.filterMap fun e => if e.1 = i then e.2.failure? else none

/-- The indices that a call picks. -/
def picksOf (i : Nat) (log : List (Nat × Deed)) : List Nat :=
  log.filterMap fun e => if e.1 = i then e.2.index? else none

/-- The indices that are picked by any call. -/
def picks (log : List (Nat × Deed)) : List Nat := log.filterMap fun e => e.2.index?

theorem failuresOf_append (i : Nat) (xs ys : List (Nat × Deed)) :
    failuresOf i (xs ++ ys) = failuresOf i xs ++ failuresOf i ys := List.filterMap_append

theorem picksOf_append (i : Nat) (xs ys : List (Nat × Deed)) :
    picksOf i (xs ++ ys) = picksOf i xs ++ picksOf i ys := List.filterMap_append

theorem picks_append (xs ys : List (Nat × Deed)) : picks (xs ++ ys) = picks xs ++ picks ys :=
  List.filterMap_append

theorem picksOf_sublist (i : Nat) (log : List (Nat × Deed)) :
    (picksOf i log).Sublist (picks log) := by
  induction log with
  | nil => exact .slnil
  | cons e log ih =>
    simp only [picksOf, picks, List.filterMap_cons] at ih ⊢
    cases e.2.index? with
    | none => simpa using ih
    | some k =>
      split
      · next hnone => exact ih.cons k
      · next hsome =>
        split at hsome
        · cases hsome
          exact ih.cons_cons k
        · cases hsome

theorem exists_picksOf {k : Nat} {log : List (Nat × Deed)} (h : k ∈ picks log) :
    ∃ i, k ∈ picksOf i log := by
  obtain ⟨e, he, hk⟩ := List.mem_filterMap.mp h
  exact ⟨e.1, List.mem_filterMap.mpr ⟨e, he, by rw [if_pos rfl, hk]⟩⟩

namespace Crowd

/-- What a turn shows, with the index of its call. -/
def event? (t : Turn) (w : Crowd) : Option (Nat × Deed) :=
  (w.calls[t.caller]?).bind fun c => (c.deed? t.now t.outcome w.pool).map (t.caller, ·)

/-- What the calls do in a run, in order. -/
def log : List Turn → Crowd → List (Nat × Deed)
  | [], _ => []
  | t :: ts, w => (w.event? t).toList ++ log ts (w.step t)

/-- Whether the pool has a property before and after each turn of a run. -/
def Throughout (P : Pool → Prop) : List Turn → Crowd → Prop
  | [], w => P w.pool
  | t :: ts, w => P w.pool ∧ Throughout P ts (w.step t)

/-- A turn is a step of its call, if there is one. -/
theorem step_cases (t : Turn) (w : Crowd) :
    (w.event? t = none ∧ w.step t = w) ∨
    ∃ c d c', w.calls[t.caller]? = some c ∧ w.event? t = d.map (t.caller, ·) ∧
      Call.Step t.now t.outcome c w.pool d c' (w.step t).pool ∧
      (w.step t).calls[t.caller]? = some c' ∧
      ∀ i, t.caller ≠ i → (w.step t).calls[i]? = w.calls[i]? := by
  unfold event? step
  cases hc : w.calls[t.caller]? with
  | none => exact Or.inl ⟨rfl, rfl⟩
  | some c =>
    have hlt := (List.getElem?_eq_some_iff.mp hc).1
    exact Or.inr ⟨c, _, _, rfl, rfl, c.step_spec t.now t.outcome w.pool,
      List.getElem?_set_self hlt, fun i hi => List.getElem?_set_ne hi⟩

/-- As long as a backend is up and not picked, what is picked comes before it in the rotation, one
index after the other. -/
theorem picks_append_before_sublist {k : Nat} {ts : List Turn} {w : Crowd}
    (hup : Throughout (Pool.upAt k · = true) ts w) (hk : k ∉ picks (log ts w)) :
    (picks (log ts w) ++ (run ts w).pool.before k).Sublist (w.pool.before k) := by
  induction ts generalizing w with
  | nil => exact .refl _
  | cons t ts ih =>
    obtain ⟨hup, hrest⟩ := hup
    rw [log, picks_append, List.mem_append, not_or] at hk
    rw [run_cons, log, picks_append, List.append_assoc]
    have hlater := ih hrest hk.2
    rcases step_cases t w with ⟨hnone, hsame⟩ | ⟨c, d, c', -, hevent, hstep, -⟩
    · rw [hnone]
      rw [hsame] at hlater ⊢
      exact hlater
    · rw [hevent] at hk ⊢
      have hbefore := hstep.before_sublist hup (by rintro rfl; simp [picks] at hk)
      refine (List.Sublist.append ?_ hlater).trans hbefore
      cases d <;> exact .refl _

/-! ## One call -/

theorem answered_run {i : Nat} {r : Response} {ts : List Turn} {w : Crowd}
    (h : w.calls[i]? = some (.answered r)) : (run ts w).calls[i]? = some (.answered r) := by
  induction ts generalizing w with
  | nil => exact h
  | cons t ts ih =>
    rw [run_cons]
    refine ih ?_
    rcases step_cases t w with ⟨-, hsame⟩ | ⟨c, d, c', hc, -, hstep, hafter, hothers⟩
    · rw [hsame, h]
    · by_cases hi : t.caller = i
      · subst hi
        rw [h] at hc
        cases hc
        generalize (w.step t).pool = p' at hstep
        cases hstep
        exact hafter
      · rw [hothers i hi, h]

/-- The tries that a call has left, and the URL of the exchange that it waits for, if it does. -/
def owed? : Call → Option (Nat × Option Text)
  | .trying left _ => some (left, none)
  | .exchanging left url => some (left, some url)
  | _ => none

/-- Unless it ends the call, a step picks a backend for one try, or sees the exchange fail with the
backend that was picked before. -/
theorem owed_of_step {now : Instant} {outcome : Except ProxyError Response} {c c' : Call}
    {p p' : Pool} {d : Option Deed} {left : Nat} {waits : Option Text}
    (h : Call.Step now outcome c p d c' p') (howed : owed? c = some (left, waits))
    (hopen : ∀ r, c' ≠ .answered r) :
    ∃ left' waits', owed? c' = some (left', waits') ∧
      (d.bind Deed.index?).toList.length + left' = left ∧
      (d.bind Deed.failure?).toList.map some ++ waits'.toList.map some =
        waits.toList.map some ++
          (d.bind Deed.index?).toList.map ((p.backends.map Backend.url)[·]?) := by
  cases h with
  | count => cases howed
  | pick hpick hb =>
    cases howed
    exact ⟨_, _, rfl, Nat.add_comm _ _, by simp [hb]⟩
  | fail =>
    cases howed
    exact ⟨_, _, rfl, Nat.zero_add _, by simp⟩
  | giveUp | refuse | answer | rest => exact absurd rfl (hopen _)

theorem picksOf_event (i : Nat) (d : Option Deed) :
    picksOf i (d.map (i, ·)).toList = (d.bind Deed.index?).toList := by
  cases d with
  | none => rfl
  | some d => cases d <;> simp [picksOf]

theorem failuresOf_event (i : Nat) (d : Option Deed) :
    failuresOf i (d.map (i, ·)).toList = (d.bind Deed.failure?).toList := by
  cases d with
  | none => rfl
  | some d => cases d <;> simp [failuresOf]

/-- A call that has tries left has used one for each of its picks, and has seen the exchange fail
with each backend that it picked. -/
theorem failuresOf_eq {i left left' : Nat} {waits : Option Text} {last : ProxyError}
    {ts : List Turn} {w : Crowd} {c : Call} (hc : w.calls[i]? = some c)
    (howed : owed? c = some (left, waits))
    (hend : (run ts w).calls[i]? = some (.trying left' last)) :
    (picksOf i (log ts w)).length + left' = left ∧
      (failuresOf i (log ts w)).map some = waits.toList.map some ++
        (picksOf i (log ts w)).map ((w.pool.backends.map Backend.url)[·]?) := by
  induction ts generalizing w c left waits with
  | nil =>
    rw [show run [] w = w from rfl, hc] at hend
    cases hend
    cases howed
    exact ⟨Nat.zero_add _, rfl⟩
  | cons t ts ih =>
    rw [run_cons] at hend
    rw [log, picksOf_append, failuresOf_append, List.length_append, List.map_append,
      List.map_append]
    rcases step_cases t w with ⟨hnone, hsame⟩ | ⟨c₁, d, c₂, hc₁, hevent, hstep, hafter, hothers⟩
    · rw [hsame] at hend ⊢
      rw [hnone]
      simpa [picksOf, failuresOf] using ih hc howed hend
    · have hurls := hstep.map_url
      rw [hevent]
      by_cases hi : t.caller = i
      · subst hi
        cases hc.symm.trans hc₁
        have hopen : ∀ r, c₂ ≠ .answered r := by
          rintro r rfl
          rw [answered_run hafter] at hend
          cases hend
        obtain ⟨left₂, waits₂, howed₂, hused, hseen⟩ := owed_of_step hstep howed hopen
        obtain ⟨hcount, hfailed⟩ := ih hafter howed₂ hend
        rw [picksOf_event, failuresOf_event, hfailed, hurls, ← List.append_assoc, hseen,
          List.append_assoc]
        exact ⟨by omega, rfl⟩
      · obtain ⟨hcount, hfailed⟩ := ih ((hothers i hi).trans hc) howed hend
        rw [hfailed, hurls]
        cases d <;> simpa [picksOf, failuresOf, hi] using hcount

theorem map_url_run (ts : List Turn) (w : Crowd) :
    (run ts w).pool.backends.map Backend.url = w.pool.backends.map Backend.url := by
  induction ts generalizing w with
  | nil => rfl
  | cons t ts ih =>
    rw [run_cons, ih]
    rcases step_cases t w with ⟨-, hsame⟩ | ⟨c, d, c', -, -, hstep, -⟩
    · rw [hsame]
    · exact hstep.map_url

/-- Whether a call goes from one turn to another, with turns of any calls in between, and ends there
with a page of the gateway for status 502. -/
structure FailedCall (i : Nat) (w : Crowd) (start : Turn) (during : List Turn) (last : Turn) :
    Prop where
  /-- Its first turn counts the candidates. -/
  fresh : w.calls[i]? = some .fresh
  caller : start.caller = i
  /-- It has no answer before the last turn. -/
  pending : ∀ r, (run (start :: during) w).calls[i]? ≠ some (.answered r)
  /-- It has one after it. -/
  ends : ∃ r, ((run (start :: during) w).step last).calls[i]? = some (.answered r) ∧
    r.status = .badGateway
  /-- That is not relayed from a backend. -/
  own : ∀ r, last.outcome = .ok r → r.status ≠ .badGateway

/-- Such a call ends because it has no try left, or there is no backend. -/
theorem FailedCall.exists_trying {i : Nat} {w : Crowd} {start last : Turn} {during : List Turn}
    (h : FailedCall i w start during last) : ∃ left e,
      (run (start :: during) w).calls[i]? = some (.trying left e) ∧
        (left = 0 ∨ (run (start :: during) w).pool.backends = []) := by
  obtain ⟨r, hend, hstatus⟩ := h.ends
  have hpending := h.pending
  generalize run (start :: during) w = before at hend hpending ⊢
  rcases step_cases last before with ⟨-, hsame⟩ | ⟨c, d, c', hc, -, hstep, hafter, hothers⟩
  · rw [hsame] at hend
    exact absurd hend (hpending r)
  · by_cases hi : last.caller = i
    · subst hi
      rw [hafter] at hend
      cases hend
      generalize (before.step last).pool = p' at hstep
      cases hstep with
      | giveUp hnone => exact ⟨_, _, hc, hnone⟩
      | refuse _ _ he =>
        rw [ProxyError.status_of_not_isBackendFault he] at hstatus
        cases hstatus
      | answer _ hok => exact absurd hstatus (h.own r hok)
      | rest => exact absurd hc (hpending r)
    · rw [hothers i hi] at hend
      exact absurd hend (hpending r)

/-- A call that fails has picked as many backends as were candidates when it started, and has seen
the exchange with each of them fail. -/
theorem FailedCall.failuresOf_eq {i : Nat} {w : Crowd} {start last : Turn} {during : List Turn}
    (h : FailedCall i w start during last) :
    (picksOf i (log (start :: during) w)).length = w.pool.candidateCount start.now ∧
      (failuresOf i (log (start :: during) w)).map some =
        (picksOf i (log (start :: during) w)).map ((w.pool.backends.map Backend.url)[·]?) := by
  have hcaller := h.caller
  obtain ⟨left, e, hend, hnone⟩ := h.exists_trying
  subst hcaller
  have hevent : w.event? start = none := by simp [event?, h.fresh, Call.deed?]
  have hpool : (w.step start).pool = w.pool := by simp [step, h.fresh, Call.step]
  have hafter : (w.step start).calls[start.caller]?
      = some (.trying (w.pool.candidateCount start.now) .noBackend) := by
    rw [step, h.fresh]
    exact List.getElem?_set_self (List.getElem?_eq_some_iff.mp h.fresh).1
  have hurls := map_url_run (start :: during) w
  rw [run_cons] at hend hnone hurls
  obtain ⟨hcount, hfailed⟩ := Crowd.failuresOf_eq hafter rfl hend
  rw [log, hevent, Option.toList_none, List.nil_append]
  rw [hpool] at hfailed
  refine ⟨?_, by simpa using hfailed⟩
  rcases hnone with rfl | hempty
  · exact hcount
  · -- without backends there are no candidates, and so no tries
    rw [hempty, List.map_nil] at hurls
    have hzero : w.pool.candidateCount start.now = 0 := by
      rw [Pool.candidateCount, List.map_eq_nil_iff.mp hurls.symm]
      rfl
    omega

end Crowd

namespace Pool

/-- As many different indices as there are candidates, without one that is up, cannot all be
eligible. -/
theorem exists_not_eligibleAt {p : Pool} {now : Instant} {k : Nat} {tried : List Nat}
    (hk : p.upAt k = true) (htried : tried.Sublist (p.before k))
    (hlen : tried.length = p.candidateCount now) : ∃ j ∈ tried, p.eligibleAt now j = false := by
  by_contra hall
  have helig : ∀ j ∈ tried, p.eligibleAt now j = true := by
    intro j hj
    by_contra hnot
    exact hall ⟨j, hj, Bool.eq_false_iff.mpr hnot⟩
  have hbefore : (p.before k).Sublist p.order := List.takeWhile_sublist _
  have hnodup : (k :: tried).Nodup := by
    refine List.nodup_cons.mpr ⟨fun hmem => ?_, p.nodup_order.sublist (htried.trans hbefore)⟩
    have hne := List.mem_takeWhile_imp (htried.subset hmem)
    simp at hne
  have hsubset : k :: tried ⊆ p.order.filter (p.eligibleAt now) := by
    intro j hj
    rw [List.mem_filter]
    rcases List.mem_cons.mp hj with rfl | hj
    · exact ⟨mem_order_of_upAt hk, eligibleAt_of_upAt hk now⟩
    · exact ⟨(htried.trans hbefore).subset hj, helig j hj⟩
  have hle := (List.subperm_of_subset hnodup hsubset).length_le
  rw [length_filter_order, List.length_cons, hlen, candidateCount] at hle
  omega

end Pool

namespace Crowd

/-- A call that fails has seen as many exchanges fail as there were candidates when it started.  It
has seen each backend fail that was up all the time, unless another call picked that backend
meanwhile, or the call spent a try on a backend that was no candidate when it started. -/
theorem failed_or_overtaken {i : Nat} {w : Crowd} {start last : Turn} {during : List Turn}
    (h : FailedCall i w start during last) :
    (failuresOf i (log (start :: during) w)).length = w.pool.candidateCount start.now ∧
      ∀ (k : Nat) (b : Backend), w.pool.backends[k]? = some b →
        Throughout (Pool.upAt k · = true) (start :: during) w →
        b.url ∈ failuresOf i (log (start :: during) w) ∨
          (∃ j, j ≠ i ∧ k ∈ picksOf j (log (start :: during) w)) ∨
          ∃ c ∈ w.pool.backends, c.isEligible start.now = false ∧
            c.url ∈ failuresOf i (log (start :: during) w) := by
  obtain ⟨hcount, hfailed⟩ := h.failuresOf_eq
  have hlen := congrArg List.length hfailed
  rw [List.length_map, List.length_map] at hlen
  refine ⟨hlen.trans hcount, ?_⟩
  have hseen : ∀ {j : Nat} {c : Backend}, j ∈ picksOf i (log (start :: during) w) →
      w.pool.backends[j]? = some c → c.url ∈ failuresOf i (log (start :: during) w) := by
    intro j c hj hc
    have hmem := List.mem_map_of_mem (f := ((w.pool.backends.map Backend.url)[·]?)) hj
    rw [← hfailed] at hmem
    simpa [hc] using hmem
  intro k b hb hup
  by_cases hk : k ∈ picks (log (start :: during) w)
  · obtain ⟨j, hj⟩ := exists_picksOf hk
    by_cases hji : j = i
    · exact Or.inl (hseen (hji ▸ hj) hb)
    · exact Or.inr (Or.inl ⟨j, hji, hj⟩)
  · have hbefore := (picksOf_sublist i _).trans
      ((List.sublist_append_left _ _).trans (picks_append_before_sublist hup hk))
    obtain ⟨j, hj, hnot⟩ := Pool.exists_not_eligibleAt hup.1 hbefore hcount
    have hlt := Pool.mem_order.mp
      ((List.takeWhile_sublist _).subset (hbefore.subset hj))
    have hc := List.getElem?_eq_getElem hlt
    rw [Pool.eligibleAt, hc] at hnot
    exact Or.inr (Or.inr ⟨_, List.getElem_mem hlt, hnot, hseen hj hc⟩)

/-! ## Two calls -/

/-- Two calls that share two backends. -/
def pair : Crowd := { pool := .ofSites twoSites, calls := [.fresh, .fresh] }

/-- A turn of a call, whose exchange is refused if it waits for one. -/
def refusedTurn (i : Nat) : Turn := ⟨i, 0, .error (.connect "127.0.0.1:40000".toList unreachable)⟩

/-- The turns of both calls while the first is on its way.  The second picks a backend between the
two picks of the first. -/
def crossing : List Turn := [1, 0, 1, 0, 0, 0].map refusedTurn

theorem failedCall_crossing : FailedCall 0 pair (refusedTurn 0) crossing (refusedTurn 0) where
  fresh := rfl
  caller := rfl
  pending _ h := nomatch h
  ends := ⟨_, rfl, rfl⟩
  own _ h := nomatch h

/-- The second backend is up all the time. -/
theorem upAt_crossing : Throughout (Pool.upAt 1 · = true) (refusedTurn 0 :: crossing) pair :=
  ⟨rfl, rfl, rfl, rfl, rfl, rfl, rfl, rfl⟩

/-- The first call fails twice, for two candidates, and the second backend was picked by the other
call. -/
theorem failed_or_overtaken_crossing :
    FailedCall 0 pair (refusedTurn 0) crossing (refusedTurn 0) ∧
      (failuresOf 0 (log (refusedTurn 0 :: crossing) pair)).length = 2 ∧
      ("tcp://127.0.0.1:40001".toList ∈ failuresOf 0 (log (refusedTurn 0 :: crossing) pair) ∨
        (∃ j, j ≠ 0 ∧ 1 ∈ picksOf j (log (refusedTurn 0 :: crossing) pair)) ∨
        ∃ c ∈ pair.pool.backends, c.isEligible 0 = false ∧
          c.url ∈ failuresOf 0 (log (refusedTurn 0 :: crossing) pair)) := by
  obtain ⟨hcount, hall⟩ := failed_or_overtaken failedCall_crossing
  exact ⟨failedCall_crossing, hcount, hall 1 _ rfl upAt_crossing⟩

/-- A call may fail although one of two backends, up all the time, was never tried: it tries the
other one twice. -/
theorem not_tries_every_candidate :
    pair.pool.Reachable ∧ pair.pool.DistinctUrls ∧
      FailedCall 0 pair (refusedTurn 0) crossing (refusedTurn 0) ∧
      picksOf 0 (log (refusedTurn 0 :: crossing) pair) = [0, 0] ∧
      ∃ b, pair.pool.backends[1]? = some b ∧ b.isEligible 0 = true ∧
        Throughout (Pool.upAt 1 · = true) (refusedTurn 0 :: crossing) pair ∧
        b.url ∉ failuresOf 0 (log (refusedTurn 0 :: crossing) pair) := by
  have hurls : pair.pool.DistinctUrls := by
    unfold Pool.DistinctUrls
    decide
  exact ⟨.start twoSites, hurls, failedCall_crossing, rfl, _, rfl, rfl, upAt_crossing, by decide⟩

end Crowd

end Gateway.Proxy
