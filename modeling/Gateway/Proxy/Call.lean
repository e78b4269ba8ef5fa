import Gateway.Proxy.Forward

/-!
# Calls side by side

Several requests may be forwarded at once.  They share a pool, and each use of the pool is one step
that no other comes between: counting the candidates, picking a backend, recording an outcome.
Between its steps a call waits for its backend, and other calls take theirs.

A `Call` is one request on its way, and `step` takes its next step.  The outcome of its exchange
comes from outside.  `Crowd` is a pool with all calls that share it, and a `Turn` says which call
goes next.

`forward` is what a call does that is alone: `Crowd.run_forward` gives the turns.
-/

namespace Gateway.Proxy

open Gateway.Http

/-- One request on its way. -/
inductive Call where
  /-- The candidates have not been counted. -/
  | fresh
  /-- At most `left` more backends are tried, after a last failure. -/
  | trying (left : Nat) (last : ProxyError)
  /-- The exchange with the backend at a URL goes on. -/
  | exchanging (left : Nat) (url : Text)
  /-- The client has its answer. -/
  | answered (response : Response)

namespace Call

/-- Take the next step at a time.  `outcome` is what the exchange comes to, if the call waits for
one. -/
def step (now : Instant) (outcome : Except ProxyError Response) (c : Call) (p : Pool) :
    Call × Pool :=
  match c with
  | .fresh => (.trying (p.candidateCount now) .noBackend, p)
  | .trying 0 last => (.answered last.response, p)
  | .trying (left + 1) last =>
    match p.next? now with
    | none => (.answered last.response, p)
    | some (b, p) => (.exchanging left b.url, p)
  | .exchanging left url =>
    match outcome with
    | .ok response => (.answered response, p.recordSuccess now url)
    | .error e =>
      if e.isBackendFault then (.trying left e, p.recordFailure now url)
      else (.answered e.response, p)
  | .answered response => (.answered response, p)

end Call

/-- A pool and the calls that share it. -/
structure Crowd where
  pool : Pool
  calls : List Call

/-- One step of one call. -/
structure Turn where
  /-- The index of the call. -/
  caller : Nat
  /-- The time. -/
  now : Instant
  /-- What its exchange comes to, if it waits for one. -/
  outcome : Except ProxyError Response

namespace Crowd

/-- Let one call take its step. -/
def step (t : Turn) (w : Crowd) : Crowd :=
  match w.calls[t.caller]? with
  | none => w
  | some c =>
    let (c, pool) := c.step t.now t.outcome w.pool
    { pool, calls := w.calls.set t.caller c }

/-- Let calls take their steps in order. -/
def run (turns : List Turn) (w : Crowd) : Crowd := turns.foldl (fun w t => w.step t) w

theorem run_cons (t : Turn) (ts : List Turn) (w : Crowd) :
    run (t :: ts) w = run ts (w.step t) := rfl

/-- A call that has counted its candidates and is alone does what `attempts` does. -/
theorem run_attempts {σ : Type} (s : Settings) (net : Network σ) (r : Request) :
    ∀ (left : Nat) (last : ProxyError) (pool : Pool) (world : σ), ∃ turns,
      run turns { pool, calls := [.trying left last] } =
        { pool := (attempts s net r left last pool world).2.1
          calls := [.answered (attempts s net r left last pool world).1] }
  | 0, last, pool, world => ⟨[⟨0, net.clock world, .error last⟩], rfl⟩
  | left + 1, last, pool, world => by
    cases hpick : pool.next? (net.clock world) with
    | none =>
      refine ⟨[⟨0, net.clock world, .error last⟩], ?_⟩
      simp [run, step, Call.step, attempts, hpick]
    | some picked =>
      obtain ⟨b, next⟩ := picked
      cases hexchange : exchange s net b.url r world with
      | mk outcome after =>
        cases outcome with
        | ok response =>
          refine ⟨[⟨0, net.clock world, .error last⟩, ⟨0, net.clock after, .ok response⟩], ?_⟩
          simp [run, step, Call.step, attempts, hpick, hexchange]
        | error e =>
          by_cases hfault : e.isBackendFault = true
          · obtain ⟨turns, hturns⟩ := run_attempts s net r left e
              (next.recordFailure (net.clock after) b.url) after
            refine ⟨⟨0, net.clock world, .error last⟩ ::
              ⟨0, net.clock after, .error e⟩ :: turns, ?_⟩
            simp [run_cons, step, Call.step, attempts, hpick, hexchange, hfault, hturns]
          · refine ⟨[⟨0, net.clock world, .error last⟩, ⟨0, net.clock after, .error e⟩], ?_⟩
            simp [run, step, Call.step, attempts, hpick, hexchange, hfault]

/-- A call that is alone does what `forward` does. -/
theorem run_forward {σ : Type} (s : Settings) (net : Network σ) (r : Request) (pool : Pool)
    (world : σ) : ∃ turns,
      run turns { pool, calls := [.fresh] } =
        { pool := (forward s net r pool world).2.1
          calls := [.answered (forward s net r pool world).1] } := by
  obtain ⟨turns, hturns⟩ :=
    run_attempts s net r (pool.candidateCount (net.clock world)) .noBackend pool world
  exact ⟨⟨0, net.clock world, .error .noBackend⟩ :: turns, by
    simpa [run_cons, step, Call.step, forward] using hturns⟩

end Crowd

end Gateway.Proxy
