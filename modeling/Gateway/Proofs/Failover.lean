import Gateway.Proofs.Course
import Gateway.Proofs.Exchange

/-!
# Failover

A request visits the candidates of the pool one after the other until one of them answers, and none
of them twice.  It ends early only where it is itself too large to be sent.  Every backend that was
at fault has failed once more, one that answered is up again, and all others are as before.

`FailedOver` says this of a request by the log of its tries, and `forward_failover` proves it of
every reachable pool in which no two backends have the same URL, as long as no backend becomes due
while the request is on its way.
-/

namespace Gateway.Proxy

open Gateway.Http

variable {σ : Type} {s : Settings} {net : Network σ} {r : Request}

/-! ## Failures -/

theorem ProxyError.status_of_isBackendFault {e : ProxyError} (h : e.isBackendFault = true) :
    e.response.status = .badGateway := by
  cases e with
  | requestTooLarge size limit => cases h
  | _ => rfl

theorem ProxyError.status_of_not_isBackendFault {e : ProxyError} (h : e.isBackendFault = false) :
    e.response.status = .internalServerError := by
  cases e with
  | requestTooLarge size limit => rfl
  | _ => cases h

/-- Whether the request, framed for the backend at a URL, is larger than the limit. -/
def Oversized (s : Settings) (readUrl : Url.Reader) (r : Request) (url : Text) : Prop :=
  ∃ u host, readUrl url = .ok u ∧ hostField? u = some host ∧
    s.maxRequestSize < (Utf8.encode (frameHead r host) ++ r.body).length

/-- A request cannot be framed without a fault of the backend only if it is too large. -/
theorem oversized_of_prepare {readUrl : Url.Reader} {url : Text} {e : ProxyError}
    (h : prepare s readUrl url r = .error e) (he : e.isBackendFault = false) :
    Oversized s readUrl r url ∧ e.response = .internalError "proxy request too large".toList := by
  have hprepares := prepares s readUrl url r
  rw [h] at hprepares
  cases hprepares with
  | unfit => cases he
  | oversized hu hhost hlarge => exact ⟨⟨_, _, hu, hhost, hlarge⟩, rfl⟩

/-- An exchange fails without a fault of the backend only if the request is too large. -/
theorem oversized_of_exchange {url : Text} {e : ProxyError} {world after : σ}
    (h : exchange s net url r world = (.error e, after)) (he : e.isBackendFault = false) :
    Oversized s net.readUrl r url ∧
      e.response = .internalError "proxy request too large".toList := by
  have hexchanges := exchanges s net url r world
  rw [h] at hexchanges
  cases hexchanges with
  | unprepared hprepare => exact oversized_of_prepare hprepare he
  | dialled _ hconcludes =>
    rw [hconcludes.isBackendFault.1] at he
    cases he

theorem prepare_of_oversized {readUrl : Url.Reader} {url : Text} (h : Oversized s readUrl r url) :
    ∃ size, prepare s readUrl url r = .error (.requestTooLarge size s.maxRequestSize) := by
  obtain ⟨u, host, hu, hhost, hlarge⟩ := h
  have hprepares := prepares s readUrl url r
  generalize prepare s readUrl url r = outcome at hprepares ⊢
  cases hprepares with
  | unfit hnone =>
    rw [hostField?, hnone u hu] at hhost
    cases hhost
  | oversized => exact ⟨_, rfl⟩
  | ready hu' _ hhost' hsmall =>
    cases hu.symm.trans hu'
    cases hhost.symm.trans hhost'
    exact absurd hlarge (Nat.not_lt_of_le hsmall)

/-- A try fails without a fault of the backend exactly if the request is too large for it. -/
theorem Try.isRefused_iff {t : Try σ} {url : Text}
    (h : exchange s net url r t.before = (t.outcome, t.after)) :
    t.IsRefused ↔ Oversized s net.readUrl r url := by
  constructor
  · rintro ⟨e, he, hrefused⟩
    rw [he] at h
    exact (oversized_of_exchange h hrefused).1
  · intro hlarge
    obtain ⟨size, hprepare⟩ := prepare_of_oversized hlarge
    rw [exchange, hprepare] at h
    exact ⟨_, (congrArg Prod.fst h).symm, rfl⟩

/-! ## Requests -/

/-- How a request to a pool ends, by its log and its response. -/
inductive Ends (s : Settings) (readUrl : Url.Reader) (r : Request) (p : Pool) (now : Instant) :
    List (Try σ) → Response → Prop where
  /-- There is no backend. -/
  | unserved : p.backends = [] →
    Ends s readUrl r p now [] (.badGateway "Backend Unavailable".toList)
  /-- The last try gets the response. -/
  | answered {log : List (Try σ)} {t : Try σ} {response : Response} :
    log.getLast? = some t → t.outcome = .ok response → Ends s readUrl r p now log response
  /-- The request is too large for the backend of the last try. -/
  | oversized {log : List (Try σ)} {t : Try σ} {b : Backend} :
    log.getLast? = some t → p.backends[t.index]? = some b → Oversized s readUrl r b.url →
    Ends s readUrl r p now log (.internalError "proxy request too large".toList)
  /-- All candidates fail. -/
  | failed {log : List (Try σ)} {t : Try σ} {e : ProxyError} :
    log.map Try.index = p.candidates now → log.getLast? = some t → t.outcome = .error e →
    e.isBackendFault = true → e.response.status = .badGateway →
    Ends s readUrl r p now log e.response

/-- What a request to a pool does, by its log, its response, and the pool and the network after
it. -/
structure FailedOver (s : Settings) (net : Network σ) (r : Request) (p : Pool) (world : σ)
    (log : List (Try σ)) (response : Response) (after : Pool) (world' : σ) : Prop where
  /-- The tries follow each other, and nothing comes between. -/
  linked : Linked world log world'
  /-- Each is an exchange with the backend at its index, and does to it what it shows. -/
  tried : ∀ t ∈ log, ∃ b, p.backends[t.index]? = some b ∧
    exchange s net b.url r t.before = (t.outcome, t.after) ∧
    after.backends[t.index]? = some (t.effect net b)
  /-- They are of the first candidates, in their order. -/
  isPrefix : log.map Try.index <+: p.candidates (net.clock world)
  /-- If backends are eligible, those are the candidates, from the cursor on and going round. -/
  eligible : (∃ b ∈ p.backends, b.isEligible (net.clock world) = true) →
    p.candidates (net.clock world) = ((List.range p.backends.length).rotate p.cursor).filter
      (p.eligibleAt (net.clock world))
  /-- If none is, the longest unseen is the only one. -/
  alone : (∀ b ∈ p.backends, b.isEligible (net.clock world) = false) → p.backends ≠ [] →
    ∃ i, p.LongestUnseen i ∧ p.candidates (net.clock world) = [i]
  /-- None is tried twice. -/
  nodup : (log.map Try.index).Nodup
  /-- Only after a fault of the backend is there another try. -/
  goesOn : ∀ t ∈ log.dropLast, t.IsFault
  /-- One fails without such a fault exactly if the request is too large. -/
  refused : ∀ t ∈ log, ∀ b, p.backends[t.index]? = some b →
    (t.IsRefused ↔ Oversized s net.readUrl r b.url)
  /-- The request ends as it should. -/
  ends : Ends s net.readUrl r p (net.clock world) log response
  /-- A backend at fault has failed once more, and is down if that is too often. -/
  failed : ∀ t ∈ log, t.IsFault → ∃ b b', p.backends[t.index]? = some b ∧
    after.backends[t.index]? = some b' ∧
    b'.failures = min (b.failures + 1) Backend.maxFailures ∧
    (b'.health = .down ↔ Backend.failureThreshold ≤ b'.failures)
  /-- A backend that answers is up. -/
  succeeded : ∀ t ∈ log, t.outcome = .ok response → ∃ b', after.backends[t.index]? = some b' ∧
    b'.health = .up ∧ b'.failures = 0
  /-- The others are as before. -/
  others : ∀ j, (∀ t ∈ log, t.index = j → t.IsRefused) → after.backends[j]? = p.backends[j]?
  /-- The next pick starts behind the last try. -/
  cursor : after.cursor
    = (log.getLast?.map fun t => (t.index + 1) % p.backends.length).getD p.cursor

/-- Along the candidates, a course ends as it should. -/
theorem Course.ends_candidates {p p' : Pool} {world world' : σ} {log : List (Try σ)}
    {response : Response}
    (h : Course s net r (p.candidates (net.clock world)) .noBackend p world log response p' world')
    (hurls : p.DistinctUrls) : Ends s net.readUrl r p (net.clock world) log response := by
  rcases h.ends with ⟨hnone, rfl, rfl⟩ | ⟨t, hlast, hok | ⟨e, he, rfl, hall⟩⟩
  · refine .unserved (List.eq_nil_of_length_eq_zero ?_)
    have hcount := p.length_candidates (net.clock world)
    rw [hnone, List.length_nil, Pool.candidateCount] at hcount
    omega
  · exact .answered hlast hok
  · cases hfault : e.isBackendFault with
    | true =>
      exact .failed (hall hfault) hlast he hfault (ProxyError.status_of_isBackendFault hfault)
    | false =>
      obtain ⟨b, hb, hx, -⟩ :=
        h.tried hurls (p.nodup_candidates _) t (List.mem_of_getLast? hlast)
      rw [he] at hx
      obtain ⟨hlarge, hpage⟩ := oversized_of_exchange hx hfault
      rw [hpage]
      exact .oversized hlast hb hlarge

/-- A request visits every candidate once at most, until one of them answers. -/
theorem forward_failover {p : Pool} {world : σ} (hp : p.Reachable) (hurls : p.DistinctUrls)
    (hmono : net.Monotone)
    (hdue : ∀ b ∈ p.backends, b.isDue (net.clock (forward s net r p world).2.2) = true →
      b.isDue (net.clock world) = true) :
    FailedOver s net r p world
      (logged s net r (p.candidateCount (net.clock world)) .noBackend p world).1
      (forward s net r p world).1 (forward s net r p world).2.1 (forward s net r p world).2.2 := by
  have hcourse : Course s net r (p.candidates (net.clock world)) .noBackend p world
      (logged s net r (p.candidateCount (net.clock world)) .noBackend p world).1
      (forward s net r p world).1 (forward s net r p world).2.1 (forward s net r p world).2.2 := by
    rw [forward, ← logged_snd, ← p.length_candidates] at hdue ⊢
    refine course_of_leads hmono (p.leads_candidates hurls _) fun t ht ht' => ⟨ht, fun b hb h => ?_⟩
    exact hdue b hb (Backend.isDue_mono ht' h)
  generalize (logged s net r (p.candidateCount (net.clock world)) .noBackend p world).1 = log
    at hcourse ⊢
  generalize forward s net r p world = result at hcourse ⊢
  have htried := hcourse.tried hurls (p.nodup_candidates _)
  exact {
    linked := hcourse.linked
    tried := htried
    isPrefix := hcourse.isPrefix
    eligible := Pool.candidates_of_eligible
    alone := Pool.exists_candidates_eq hp
    nodup := (p.nodup_candidates _).sublist hcourse.isPrefix.sublist
    goesOn := hcourse.isFault_of_mem
    refused := by
      intro t ht b hb
      obtain ⟨b', hb', hx, -⟩ := htried t ht
      rw [hb'] at hb
      cases hb
      exact Try.isRefused_iff hx
    ends := hcourse.ends_candidates hurls
    failed := by
      intro t ht hfault
      obtain ⟨b, hb, -, hafter⟩ := htried t ht
      rw [Try.effect_of_isFault hfault] at hafter
      have hsound := Pool.sound_of_reachable hp b (List.mem_of_getElem? hb)
      exact ⟨b, _, hb, hafter, rfl, (hsound.recordFailure _).down_iff⟩
    succeeded := by
      intro t ht hok
      obtain ⟨b, -, -, hafter⟩ := htried t ht
      rw [Try.effect_of_ok hok] at hafter
      exact ⟨_, hafter, rfl, rfl⟩
    others := by
      intro j hj
      by_cases hmem : j ∈ log.map Try.index
      · obtain ⟨t, ht, rfl⟩ := List.mem_map.mp hmem
        obtain ⟨b, hb, -, hafter⟩ := htried t ht
        rw [hafter, hb, Try.effect_of_isRefused (hj t ht rfl)]
      · exact hcourse.getElem?_eq hurls hmem
    cursor := hcourse.cursor_eq }

/-! ## Without a network -/

theorem monotone_isolated : Network.isolated.Monotone := by
  refine .of_steps (fun endpoint now => ?_) (fun _ now => Nat.le_succ now)
    (fun _ _ now => Nat.le_succ now)
  unfold Network.isolated
  dsimp only
  split
  · exact Nat.le_refl now
  · exact Nat.le_succ now

/-- A request without a body. -/
def plainRequest : Request where
  method := .get
  target := "/".toList
  version := "HTTP/1.1".toList
  headers := .empty
  body := []
  truncated := false

/-- Two sites that cannot be reached. -/
def twoSites : List (Text × Option Text) :=
  [("tcp://127.0.0.1:40000".toList, none), ("tcp://127.0.0.1:40001".toList, none)]

/-- Both are visited, in order. -/
theorem forward_failover_isolated :
    FailedOver {} .isolated plainRequest (Pool.ofSites twoSites) 0
      (logged {} .isolated plainRequest 2 .noBackend (Pool.ofSites twoSites) 0).1
      (.badGateway "Backend Unavailable".toList)
      (forward {} .isolated plainRequest (Pool.ofSites twoSites) 0).2.1 2 ∧
    (logged {} .isolated plainRequest 2 .noBackend (Pool.ofSites twoSites) 0).1.map Try.index
      = [0, 1] := by
  have hurls : (Pool.ofSites twoSites).DistinctUrls := by
    unfold Pool.DistinctUrls
    decide
  refine ⟨forward_failover (.start twoSites) hurls monotone_isolated ?_, rfl⟩
  intro b hb hdue
  obtain ⟨site, -, rfl⟩ := List.mem_map.mp hb
  cases hdue

/-- A backend at a URL that has failed a number of times. -/
def worn (url : Text) (n : Nat) : Backend where
  url := url
  health := if Backend.failureThreshold ≤ n then .down else .up
  lastSeen := if n = 0 then none else some 0
  failures := n

theorem recordFailure_worn (url : Text) {n : Nat} (hn : n + 1 ≤ Backend.maxFailures) :
    (worn url n).recordFailure 0 = worn url (n + 1) := by
  have hmin : min (n + 1) Backend.maxFailures = n + 1 := Nat.min_eq_left hn
  unfold Backend.recordFailure Backend.isUp worn
  by_cases h : Backend.failureThreshold ≤ n
  · have hnext : Backend.failureThreshold ≤ n + 1 := Nat.le_succ_of_le h
    simp [hmin, h, hnext]
  · simp [hmin, h]

theorem reachable_worn (url : Text) (n : Nat) (hn : n ≤ Backend.maxFailures) :
    (Pool.mk [worn url n] 0).Reachable := by
  induction n with
  | zero => exact .start [(url, none)]
  | succ n ih =>
    have hstep : (Pool.mk [worn url n] 0).recordFailure 0 url = ⟨[worn url (n + 1)], 0⟩ := by
      rw [← recordFailure_worn url hn, Pool.recordFailure, Pool.updateFirst]
      exact congrArg (Pool.mk · 0) (if_pos rfl)
    rw [← hstep]
    exact .failure 0 url (ih (Nat.le_of_succ_le hn))

/-- A pool of one backend that has failed as often as is counted. -/
def wornPool : Pool := ⟨[worn "tcp://127.0.0.1:40000".toList Backend.maxFailures], 0⟩

/-- The count of failures stops at its largest value: a backend that has it and fails does not have
one failure more. -/
theorem not_failures_succ_wornPool :
    wornPool.Reachable ∧ wornPool.DistinctUrls ∧ Network.isolated.Monotone ∧
    (∀ b ∈ wornPool.backends,
      b.isDue (forward {} .isolated plainRequest wornPool 0).2.2 = true →
      b.isDue 0 = true) ∧
    ∃ t b b', (logged {} .isolated plainRequest 1 .noBackend wornPool 0).1 = [t] ∧
      t.IsFault ∧ wornPool.backends[t.index]? = some b ∧
      (forward {} .isolated plainRequest wornPool 0).2.1.backends[t.index]?
        = some b' ∧
      b'.failures ≠ b.failures + 1 := by
  refine ⟨reachable_worn _ _ (Nat.le_refl _), List.nodup_singleton _, monotone_isolated, ?_,
    ⟨0, 0, .error (.connect "127.0.0.1:40000".toList unreachable), 1⟩, _, _, rfl, ⟨_, rfl, rfl⟩,
    rfl, rfl, by decide⟩
  intro b hb hdue
  cases List.mem_singleton.mp hb
  cases hdue

end Gateway.Proxy
