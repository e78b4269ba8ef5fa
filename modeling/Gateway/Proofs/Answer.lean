import Gateway.Http.RequestParser
import Gateway.Proofs.Confinement
import Gateway.Proofs.Failover
import Gateway.Server.Handler

/-!
# Answers

What a client may be answered, and by whom.  `Answers` relates the bytes of a client to the
response and to what answering them changes: either they are a request, which is handled once, or
they get the 404 page.

The law of the status codes is a case analysis on the responders.  The file responder answers with
200, 403 or 404 (`Responder.status_serve`).  Forwarding answers with 200, 500 or 502 as long as the
status of a reply does not matter (`Proxy.status_forward`): a reply is relayed as 200, and each
failed exchange has a page of its own.  So a code tells which responder was asked (`Lawful`).
-/

namespace Gateway

open Gateway.Http

/-! ## Statuses -/

namespace Proxy

theorem ProxyError.status_response (e : ProxyError) :
    e.response.status = .badGateway ∨ e.response.status = .internalServerError := by
  cases h : e.isBackendFault with
  | true => exact .inl (status_of_isBackendFault h)
  | false => exact .inr (status_of_not_isBackendFault h)

variable {σ : Type} {s : Settings} {net : Network σ} {r : Request}

/-- A reply whose status does not matter is relayed as 200. -/
theorem Concludes.status_eq_ok (hpolicy : s.policy = .alwaysOk) {growth : Growth}
    {endpoint : Endpoint} {d : Dial} {response : Response}
    (h : Concludes s growth endpoint d (.ok response)) : response.status = .ok := by
  obtain ⟨reply, bytes, -, -, hrelay⟩ := h.exists_receive
  obtain ⟨status, hstatus, rfl⟩ := relay_eq_ok_iff.mp hrelay
  rw [hpolicy] at hstatus
  cases hstatus
  rfl

theorem status_of_exchange (hpolicy : s.policy = .alwaysOk) {url : Text} {world after : σ}
    {response : Response} (h : exchange s net url r world = (.ok response, after)) :
    response.status = .ok := by
  have hexchanges := exchanges s net url r world
  rw [h] at hexchanges
  cases hexchanges with
  | dialled _ hconcludes => exact hconcludes.status_eq_ok hpolicy

theorem status_attempts (hpolicy : s.policy = .alwaysOk) (left : Nat) (last : ProxyError)
    (pool : Pool) (world : σ) :
    let status := (attempts s net r left last pool world).1.status
    status = .ok ∨ status = .badGateway ∨ status = .internalServerError := by
  induction left generalizing last pool world with
  | zero => exact .inr last.status_response
  | succ left ih =>
      rw [attempts]
      split
      · exact .inr last.status_response
      · split
        · next hexchange => exact .inl (status_of_exchange hpolicy hexchange)
        · next e _ _ =>
          split
          · exact ih ..
          · exact .inr e.status_response

theorem status_forward (hpolicy : s.policy = .alwaysOk) (net : Network σ) (r : Request)
    (pool : Pool) (world : σ) :
    let status := (forward s net r pool world).1.status
    status = .ok ∨ status = .badGateway ∨ status = .internalServerError :=
  status_attempts hpolicy _ _ _ _

end Proxy

theorem Files.Responder.status_serve (r : Files.Responder) (t : Files.Tree) (target : Text) :
    let status := (r.serve t target).status
    status = .ok ∨ status = .forbidden ∨ status = .notFound := by
  rw [serve]
  cases r.find t target with
  | ok found => exact .inl rfl
  | error refusal => exact .inr (status_response refusal)

/-- Whether bytes are a request for a route. -/
def Asks (buffer : Bytes) (route : Route) : Prop :=
  ∃ r, Request.parse buffer = .ok r ∧ Route.ofTarget r.target = route

/-- The codes of the gateway's own answers to the bytes of a client. -/
structure Lawful (buffer : Bytes) (response : Response) : Prop where
  code : response.status.code ∈ [200, 403, 404, 500, 502]
  /-- Only the file responder forbids. -/
  forbidden : response.status.code = 403 → Asks buffer .file
  /-- Only forwarding fails. -/
  failed : response.status.code = 500 ∨ response.status.code = 502 → ∃ p, Asks buffer (.proxy p)

theorem lawful_notFound (buffer : Bytes) : Lawful buffer .notFound := by
  constructor <;> simp [Response.notFound, Response.errorPage, Response.build, Status.code]

namespace Handler

variable {σ : Type} (h : Handler σ)

theorem lawful_handle (hpolicy : h.settings.policy = .alwaysOk) {buffer : Bytes} {r : Request}
    (hr : Request.parse buffer = .ok r) (w : World σ) : Lawful buffer (h.handle r w).1 := by
  cases hroute : Route.ofTarget r.target with
  | notFound => simpa [handle, hroute] using lawful_notFound buffer
  | file =>
      have hasks : Asks buffer .file := ⟨r, hr, hroute⟩
      have hstatus := h.files.status_serve h.tree r.target
      have hhandle : (h.handle r w).1 = h.files.serve h.tree r.target := by simp [handle, hroute]
      rw [← hhandle] at hstatus
      obtain hs | hs | hs := hstatus <;> constructor <;> simp [hs, Status.code, hasks]
  | proxy p =>
      have hasks : ∃ p, Asks buffer (.proxy p) := ⟨p, r, hr, hroute⟩
      have hstatus := Proxy.status_forward hpolicy h.network (r.withTarget p) w.pool w.net
      have hhandle : (h.handle r w).1
          = (Proxy.forward h.settings h.network (r.withTarget p) w.pool w.net).1 := by
        simp [handle, hroute]
      rw [← hhandle] at hstatus
      obtain hs | hs | hs := hstatus <;> constructor <;> simp [hs, Status.code, hasks]

/-- Only a request for a backend touches the world. -/
theorem world_handle {r : Request} (hr : ∀ p, Route.ofTarget r.target ≠ .proxy p) (w : World σ) :
    (h.handle r w).2 = w := by
  unfold handle
  split
  · rfl
  · next p hroute => exact absurd hroute (hr p)
  · rfl

end Handler

/-! ## Answers -/

/-- The response for the bytes of a client, and the world and the handled requests after it. -/
inductive Answers {ω : Type} (handle : Request → ω → Response × ω) (world : ω) (buffer : Bytes) :
    Response → ω × List Request → Prop where
  | handled {r : Request} :
      Request.parse buffer = .ok r →
      Answers handle world buffer (handle r world).1 ((handle r world).2, [r])
  | rejected {e : RequestError} :
      Request.parse buffer = .error e → Answers handle world buffer .notFound (world, [])

variable {σ : Type} {h : Handler σ} {w : World σ} {buffer : Bytes} {response : Response}
  {after : World σ × List Request}

theorem Answers.lawful (hanswers : Answers h.handle w buffer response after)
    (hpolicy : h.settings.policy = .alwaysOk) : Lawful buffer response := by
  cases hanswers with
  | handled hr => exact h.lawful_handle hpolicy hr w
  | rejected => exact lawful_notFound buffer

theorem Answers.world_eq (hanswers : Answers h.handle w buffer response after)
    (hasks : ∀ p, ¬ Asks buffer (.proxy p)) : after.1 = w := by
  cases hanswers with
  | handled hr => exact h.world_handle (fun p hp => hasks p ⟨_, hr, hp⟩) w
  | rejected => rfl

end Gateway
