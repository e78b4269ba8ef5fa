import Gateway.Proofs.Answer
import Gateway.Proofs.Delivery
import Gateway.Server.Phase

/-!
# One connection, one exchange

A connection runs through its phases once.  `Connection.Stage` says what is known of it between two
turns and `Connection.Ended` what is known in the end.  A turn from a stage either ends the
connection or leads to another stage (`Stage.turn`), and turns come to an end, so a run ends the
connection (`Stage.run`).

How often the handler is called is read off a list of requests that `logging` keeps beside the
world.  Keeping it changes nothing else, since a run commutes with every view of the world with
which the handler commutes (`Connection.run_map`).  `serve` is what a run of a fresh connection
comes to (`Connection.serve_eq_closing_run`).
-/

namespace Gateway.Server

open Gateway.Http

variable {ω ω' : Type}

/-! ## Runs -/

/-- A view of the world. -/
def Connection.map (f : ω → ω') (c : Connection ω) : Connection ω' := { c with world := f c.world }

namespace Connection

variable {handle : Request → ω → Response × ω} {limit : Nat}

theorem afterReading_of_ok {buffer : Bytes} {r : Request} (hbuffer : buffer ≠ [])
    (h : Request.parse buffer = .ok r) : afterReading buffer = .processing r := by
  simp [afterReading, hbuffer, h]

theorem afterReading_of_error {buffer : Bytes} {e : RequestError} (hbuffer : buffer ≠ [])
    (h : Request.parse buffer = .error e) :
    afterReading buffer = .writing (.ofResponse .notFound) := by
  simp [afterReading, hbuffer, h]

theorem turn_of_fault {c : Connection ω} (h : c.phase = .reading) {buffer : Bytes} {fault : Fault}
    (hcapture : captureFrom limit c.buffer c.inlet = { buffer, fault := some fault }) :
    c.turn handle limit = (some (.read fault), { c with phase := .closed, buffer }) := by
  simp [turn, h, hcapture]

theorem turn_of_captured {c : Connection ω} (h : c.phase = .reading) {buffer : Bytes}
    (hcapture : captureFrom limit c.buffer c.inlet = { buffer, fault := none }) :
    c.turn handle limit = (none, { c with phase := afterReading buffer, buffer }) := by
  simp [turn, h, hcapture]

theorem turn_of_processing {c : Connection ω} {r : Request} (h : c.phase = .processing r) :
    c.turn handle limit = (none, { c with
      phase := .writing (.ofResponse (handle r c.world).1), world := (handle r c.world).2 }) := by
  simp [turn, h]

/-- The turn that delivers a response is the last one, and fails if the delivery does. -/
theorem turn_of_writing (handle : Request → ω → Response × ω) (limit : Nat) {c : Connection ω}
    {d : Delivery} (h : c.phase = .writing d) :
    c.turn handle limit =
      let (ending, d, sink) := d.run false c.sink
      match ending.message d with
      | some message => (some (.write message), { c with phase := .closed, sink })
      | none => (none, { c with phase := .closed, sink, shutdown := true }) := by
  cases c
  cases h
  rfl

theorem run_of_closed {c : Connection ω} (h : c.phase = .closed) :
    c.run handle limit = (none, c) := by
  rw [run, dif_pos h]

theorem run_of_turn {c c' : Connection ω} (hopen : c.phase ≠ .closed)
    (hturn : c.turn handle limit = (none, c')) : c.run handle limit = c'.run handle limit := by
  rw [run, dif_neg hopen, hturn]

theorem run_of_failed {c c' : Connection ω} {error : ConnectionError} (hopen : c.phase ≠ .closed)
    (hturn : c.turn handle limit = (some error, c')) : c.run handle limit = (some error, c') := by
  rw [run, dif_neg hopen, hturn]

/-- What a connection with a response to write comes to. -/
theorem closing_run_of_writing {c : Connection ω} {d : Delivery} (h : c.phase = .writing d) :
    (c.run handle limit).2.closing (c.run handle limit).1 =
      let (ending, d, sink) := d.run false c.sink
      match ending.message d with
      | some message =>
        { error := some (.write message), consumed := c.buffer, sink, shutdown := c.shutdown,
          world := c.world }
      | none =>
        { error := none, consumed := c.buffer, sink, shutdown := true, world := c.world } := by
  have hopen : c.phase ≠ .closed := by simp [h]
  have hturn := turn_of_writing handle limit h
  rcases hran : d.run false c.sink with ⟨ending, d', sink⟩
  simp only [hran] at hturn ⊢
  cases hmessage : ending.message d' with
  | some message =>
      rw [hmessage] at hturn
      rw [run_of_failed hopen hturn]
      rfl
  | none =>
      rw [hmessage] at hturn
      rw [run_of_turn hopen hturn, run_of_closed rfl]
      rfl

/-- What a run of a fresh connection comes to. -/
theorem serve_eq_closing_run (inlet : Inlet) (sink : Sink) (world : ω) :
    serve handle limit inlet sink world
      = ((fresh inlet sink world).run handle limit).2.closing
          ((fresh inlet sink world).run handle limit).1 := by
  have hopen : (fresh inlet sink world).phase ≠ .closed := by simp [fresh]
  unfold serve
  split
  · next buffer fault hcapture =>
    rw [run_of_failed hopen (turn_of_fault rfl hcapture)]
    rfl
  · next hcapture =>
    rw [run_of_turn hopen (turn_of_captured rfl hcapture), run_of_closed rfl]
    rfl
  · next buffer hbuffer hcapture =>
    rw [run_of_turn hopen (turn_of_captured rfl hcapture)]
    cases hparse : Request.parse buffer with
    | error e =>
        rw [afterReading_of_error hbuffer hparse, closing_run_of_writing rfl, respond, hparse]
        rfl
    | ok r =>
        rw [afterReading_of_ok hbuffer hparse, run_of_turn (by simp) (turn_of_processing rfl),
          closing_run_of_writing rfl, respond, hparse]
        rfl

theorem turn_map {handle' : Request → ω' → Response × ω'} {f : ω → ω'}
    (hf : ∀ r w, handle' r (f w) = ((handle r w).1, f (handle r w).2)) (limit : Nat)
    (c : Connection ω) :
    (c.map f).turn handle' limit = ((c.turn handle limit).1, (c.turn handle limit).2.map f) := by
  unfold turn
  cases hphase : c.phase with
  | reading =>
      simp only [map, hphase]
      split <;> rfl
  | processing r => simp [map, hphase, hf]
  | writing d =>
      simp only [map, hphase]
      split <;> rfl
  | closed => simp [map, hphase]

theorem run_map {handle' : Request → ω' → Response × ω'} {f : ω → ω'}
    (hf : ∀ r w, handle' r (f w) = ((handle r w).1, f (handle r w).2)) (limit : Nat)
    (c : Connection ω) :
    (c.map f).run handle' limit = ((c.run handle limit).1, (c.run handle limit).2.map f) := by
  induction c using run.induct handle limit with
  | case1 c hclosed => simp [run_of_closed, hclosed, map]
  | case2 c hopen error c' hturn =>
      have hturn' := turn_map hf limit c
      rw [hturn] at hturn'
      rw [run_of_failed hopen hturn, run_of_failed (c := c.map f) hopen hturn']
  | case3 c hopen c' hturn ih =>
      have hturn' := turn_map hf limit c
      rw [hturn] at hturn'
      rw [run_of_turn hopen hturn, run_of_turn (c := c.map f) hopen hturn', ih]

end Connection

/-! ## Stages -/

/-- Handle requests and keep a list of them. -/
def logging (handle : Request → ω → Response × ω) (r : Request) (w : ω × List Request) :
    Response × (ω × List Request) :=
  ((handle r w.1).1, (handle r w.1).2, w.2 ++ [r])

namespace Connection

variable {handle : Request → ω → Response × ω} {limit : Nat} {inlet : Inlet} {sink : Sink}
  {world : ω} {c : Connection (ω × List Request)}

/-- What is known of a connection between two turns. -/
inductive Stage (handle : Request → ω → Response × ω) (limit : Nat) (inlet : Inlet) (sink : Sink)
    (world : ω) : Connection (ω × List Request) → Prop where
  | reading : Stage handle limit inlet sink world (fresh inlet sink (world, []))
  | processing {buffer : Bytes} {r : Request} :
      capture limit inlet = { buffer, fault := none } → buffer ≠ [] →
      Request.parse buffer = .ok r →
      Stage handle limit inlet sink world
        { phase := .processing r, inlet, buffer, sink, world := (world, []) }
  | writing {buffer : Bytes} {response : Response} {after : ω × List Request} :
      capture limit inlet = { buffer, fault := none } → buffer ≠ [] →
      Answers handle world buffer response after →
      Stage handle limit inlet sink world
        { phase := .writing (.ofResponse response), inlet, buffer, sink, world := after }

/-- What is known of a connection in the end, and of the error that ended it, if one did. -/
structure Ended (handle : Request → ω → Response × ω) (limit : Nat) (inlet : Inlet) (sink : Sink)
    (world : ω) (error : Option ConnectionError) (c : Connection (ω × List Request)) : Prop where
  closed : c.phase = .closed
  /-- Without anything to answer, nothing happens. -/
  silent : (capture limit inlet).fault ≠ none ∨ (capture limit inlet).buffer = [] →
    c.sink.taken = sink.taken ∧ c.world = (world, []) ∧
      error = (capture limit inlet).fault.map .read
  /-- Otherwise there is one answer, of which a part is delivered. -/
  answered : (capture limit inlet).fault = none → (capture limit inlet).buffer ≠ [] →
    ∃ response written, Answers handle world (capture limit inlet).buffer response c.world ∧
      c.sink.taken = sink.taken ++ written ∧ written <+: response.wire ∧
      (error = none → written = response.wire) ∧ (sink.Willing → error = none)

theorem Stage.ne_closed (h : Stage handle limit inlet sink world c) : c.phase ≠ .closed := by
  cases h <;> simp [fresh]

/-- What was read leads to a stage, unless nothing was. -/
theorem Stage.of_captured {buffer : Bytes}
    (hcapture : capture limit inlet = { buffer, fault := none }) (hbuffer : buffer ≠ []) :
    Stage handle limit inlet sink world
      { fresh inlet sink (world, []) with phase := afterReading buffer, buffer } := by
  cases hparse : Request.parse buffer with
  | ok r =>
      rw [afterReading_of_ok hbuffer hparse]
      exact .processing hcapture hbuffer hparse
  | error e =>
      rw [afterReading_of_error hbuffer hparse]
      exact .writing hcapture hbuffer (.rejected hparse)

theorem Ended.of_silent {buffer : Bytes} {error : Option ConnectionError}
    (h : (capture limit inlet).fault ≠ none ∨ (capture limit inlet).buffer = [])
    (herror : error = (capture limit inlet).fault.map .read) :
    Ended handle limit inlet sink world error
      { fresh inlet sink (world, []) with phase := .closed, buffer } where
  closed := rfl
  silent _ := ⟨rfl, rfl, herror⟩
  answered hfault hbuffer := by simp [hfault, hbuffer] at h

/-- A connection that writes is ended by the next turn, however the delivery goes. -/
theorem Ended.of_writing {buffer : Bytes} {response : Response}
    (hcapture : capture limit inlet = { buffer, fault := none }) (hbuffer : buffer ≠ [])
    (hphase : c.phase = .writing (.ofResponse response)) (hsink : c.sink = sink)
    (hanswers : Answers handle world buffer response c.world) :
    let turned := c.turn (logging handle) limit
    Ended handle limit inlet sink world turned.1 turned.2 := by
  intro turned
  obtain ⟨written, htaken, hprefix, hall⟩ := Delivery.run_ofResponse response sink
  have hturned : turned = _ := turn_of_writing _ _ hphase
  rcases hran : (Delivery.ofResponse response).run false sink with ⟨ending, d, sink'⟩
  simp only [hsink, hran] at hturned htaken hall
  rw [hturned]
  -- Both ends leave the same connection but for `shutdown`, and only one is an error.
  cases hmessage : ending.message d with
  | some message =>
      refine ⟨rfl, fun h => ?_, fun _ _ =>
        ⟨response, written, ?_, htaken, hprefix, by simp, fun hwilling => ?_⟩⟩
      · simp [hcapture, hbuffer] at h
      · rwa [hcapture]
      · have hdone := Delivery.run_of_willing (.ofResponse response) sink hwilling
        simp only [hran] at hdone
        simp [hdone, DeliveryEnd.message] at hmessage
  | none =>
      refine ⟨rfl, fun h => ?_, fun _ _ =>
        ⟨response, written, ?_, htaken, hprefix, fun _ => hall hmessage, fun _ => rfl⟩⟩
      · simp [hcapture, hbuffer] at h
      · rwa [hcapture]

/-- A turn ends the connection or leads to another stage. -/
theorem Stage.turn (h : Stage handle limit inlet sink world c) :
    let turned := c.turn (logging handle) limit
    Ended handle limit inlet sink world turned.1 turned.2 ∨
      (turned.1 = none ∧ Stage handle limit inlet sink world turned.2) := by
  intro turned
  cases h with
  | reading =>
      rcases hcapture : capture limit inlet with ⟨buffer, _ | fault⟩
      · have hturned : turned = _ := turn_of_captured rfl hcapture
        rw [hturned]
        by_cases hbuffer : buffer = []
        · subst hbuffer
          exact .inl (.of_silent (.inr (by rw [hcapture])) (by rw [hcapture]; rfl))
        · exact .inr ⟨rfl, .of_captured hcapture hbuffer⟩
      · have hturned : turned = _ := turn_of_fault rfl hcapture
        rw [hturned]
        exact .inl (.of_silent (.inl (by simp [hcapture])) (by rw [hcapture]; rfl))
  | processing hcapture hbuffer hparse =>
      have hturned : turned = _ := turn_of_processing rfl
      rw [hturned]
      exact .inr ⟨rfl, .writing hcapture hbuffer (.handled hparse)⟩
  | writing hcapture hbuffer hanswers =>
      exact .inl (.of_writing hcapture hbuffer rfl rfl hanswers)

/-- A run ends the connection. -/
theorem Stage.run (h : Stage handle limit inlet sink world c) :
    let ran := c.run (logging handle) limit
    Ended handle limit inlet sink world ran.1 ran.2 := by
  induction c using run.induct (logging handle) limit with
  | case1 c hclosed => exact absurd hclosed h.ne_closed
  | case2 c hopen error c' hturn =>
      have hstep := h.turn
      rw [hturn] at hstep
      rw [run_of_failed hopen hturn]
      obtain hended | ⟨hnone, -⟩ := hstep
      · exact hended
      · cases hnone
  | case3 c hopen c' hturn ih =>
      have hstep := h.turn
      rw [hturn] at hstep
      rw [run_of_turn hopen hturn]
      obtain hended | ⟨-, hstage⟩ := hstep
      · rw [run_of_closed hended.closed]
        exact hended
      · exact ih hstage

/-- Whatever the client does, the files are and the backends reply, a connection is closed in the
end, and `serve` says what it has come to.  If reading failed or nothing was read, nothing was
written and nobody was asked, and only a failure to read is an error.  Otherwise there is one
response, for which the handler was called once if a request was read and not at all if none was.
What was written is a part of it from its start, and all of it unless the connection failed, which
it does not with a client that takes everything.  If the status of replies does not matter, the
code of the response is one of five and tells which responder was asked.  Only a request for a
backend changes the pool or the network. -/
theorem run_exchange {σ : Type} (h : Handler σ) (w : World σ) (limit : Nat) (inlet : Inlet)
    (sink : Sink) :
    let captured := capture limit inlet
    let ran := (fresh inlet sink (w, [])).run (logging h.handle) limit
    let c := ran.2
    serve h.handle limit inlet sink w = (c.map Prod.fst).closing ran.1 ∧
      c.phase = .closed ∧
      (captured.fault ≠ none ∨ captured.buffer = [] →
        c.sink.taken = sink.taken ∧ c.world = (w, []) ∧ ran.1 = captured.fault.map .read) ∧
      (captured.fault = none → captured.buffer ≠ [] → ∃ response written,
        Answers h.handle w captured.buffer response c.world ∧
          c.sink.taken = sink.taken ++ written ∧ written <+: response.wire ∧
          (ran.1 = none → written = response.wire) ∧ (sink.Willing → ran.1 = none) ∧
          (h.settings.policy = .alwaysOk → Lawful captured.buffer response) ∧
          ((∀ p, ¬ Asks captured.buffer (.proxy p)) → c.world.1 = w)) := by
  intro captured ran c
  have hended : Ended h.handle limit inlet sink w ran.1 c := Stage.reading.run
  refine ⟨?serve, hended.closed, hended.silent, fun hfault hbuffer => ?answered⟩
  case serve =>
    have hview : ∀ r v, h.handle r (Prod.fst v)
        = ((logging h.handle r v).1, (logging h.handle r v).2.fst) := fun _ _ => rfl
    have hrun := run_map hview limit (fresh inlet sink (w, []))
    rw [serve_eq_closing_run]
    exact congrArg (fun ran => ran.2.closing ran.1) hrun
  case answered =>
    obtain ⟨response, written, hanswers, htaken, hprefix, hall, hwilling⟩ :=
      hended.answered hfault hbuffer
    exact ⟨response, written, hanswers, htaken, hprefix, hall, hwilling, hanswers.lawful,
      hanswers.world_eq⟩

end Connection

end Gateway.Server
