import Gateway.Proxy.Network
import Gateway.Proxy.Pool

/-!
# Forwarding with failover

An exchange with a backend reads its URL, frames the request, dials the backend and makes a response
of its reply.  Each of these may fail.

`forward` counts the candidates once and then tries that many picks of the rotation.  It stops at
the first exchange that succeeds and at a request that is too large to be sent.  If every try
fails, the client gets the page of the last failure.
-/

namespace Gateway.Proxy

open Gateway.Http

/-- What an exchange comes to, once the backend has been dialled. -/
def conclude (s : Settings) (growth : Growth) (endpoint : Endpoint) :
    Dial → Except ProxyError Response
  | .unresolved => .error (.unresolved endpoint.text)
  | .refused fault => .error (.connect endpoint.text fault)
  | .accepted (.failed fault) _ => .error (.send fault)
  | .accepted .timedOut _ => .error (.send (timedOut "send"))
  | .accepted .sent reply =>
    match receive growth s.maxResponseSize reply with
    | .error fault => .error (.receive fault)
    | .ok bytes => relay s.policy bytes

/-- What is sent to which endpoint for a request to a URL. -/
def prepare (s : Settings) (readUrl : Url.Reader) (url : Text) (r : Request) :
    Except ProxyError (Endpoint × Bytes) :=
  match readUrl url with
  | .error _ => .error (.invalidBackend url)
  | .ok u =>
    match u.hostText? with
    | none => .error (.invalidBackend url)
    | some host =>
      (frame s r u).map fun bytes => (⟨host, (u.effectivePort?.getD 80).toNat⟩, bytes)

/-- One exchange with the backend at a URL. -/
def exchange {σ : Type} (s : Settings) (net : Network σ) (url : Text) (r : Request) (world : σ) :
    Except ProxyError Response × σ :=
  match prepare s net.readUrl url r with
  | .error e => (.error e, world)
  | .ok (endpoint, bytes) =>
    let (dial, world) := net.dial endpoint bytes world
    (conclude s net.growth endpoint dial, world)

/-- Try at most so many picks, after a last failure. -/
def attempts {σ : Type} (s : Settings) (net : Network σ) (r : Request) :
    Nat → ProxyError → Pool → σ → Response × Pool × σ
  | 0, last, pool, world => (last.response, pool, world)
  | left + 1, last, pool, world =>
    match pool.next? (net.clock world) with
    | none => (last.response, pool, world)
    | some (b, pool) =>
      match exchange s net b.url r world with
      | (.ok response, world) =>
        (response, pool.recordSuccess (net.clock world) b.url, world)
      | (.error e, world) =>
        if e.isBackendFault then
          attempts s net r left e (pool.recordFailure (net.clock world) b.url) world
        else (e.response, pool, world)

/-- Answer a request, whose target is the one a backend should see, by an exchange with one of the
backends of a pool. -/
def forward {σ : Type} (s : Settings) (net : Network σ) (r : Request) (pool : Pool) (world : σ) :
    Response × Pool × σ :=
  attempts s net r (pool.candidateCount (net.clock world)) .noBackend pool world

end Gateway.Proxy
