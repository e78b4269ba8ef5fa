import Gateway.Server.Connection

/-!
# The phases of a connection

A connection goes from phase to phase: it reads a request, processes it, writes the response and is
closed.  It may skip phases but never goes back, so a run takes at most three turns.

A turn first closes the connection and then does the work of the phase it was in, which may open it
again in a later phase.  So a turn that fails leaves the connection closed.
-/

namespace Gateway.Server

open Gateway.Http

/-- What a connection does next. -/
inductive Phase where
  | reading
  | processing (request : Request)
  | writing (delivery : Delivery)
  | closed
deriving DecidableEq, Repr

/-- How many turns may follow. -/
def Phase.turns : Phase → Nat
  | .reading => 3
  | .processing _ => 2
  | .writing _ => 1
  | .closed => 0

/-- A connection to one client, and the world in which requests are handled. -/
structure Connection (ω : Type) where
  phase : Phase := .reading
  /-- What the client sends. -/
  inlet : Inlet
  /-- The bytes that were read. -/
  buffer : Bytes := []
  /-- The client, with what it has taken. -/
  sink : Sink
  /-- Whether the connection was shut down. -/
  shutdown : Bool := false
  world : ω

namespace Connection

variable {ω : Type}

/-- A connection before its first turn. -/
def fresh (inlet : Inlet) (sink : Sink) (world : ω) : Connection ω := { inlet, sink, world }

/-- What a connection has come to, which a failure has ended if there is one. -/
def closing (c : Connection ω) (error : Option ConnectionError) : Closing ω where
  error := error
  consumed := c.buffer
  sink := c.sink
  shutdown := c.shutdown
  world := c.world

/-- The phase after something was read, without a failure. -/
def afterReading (buffer : Bytes) : Phase :=
  if buffer = [] then .closed
  else
    match Request.parse buffer with
    | .ok r => .processing r
    | .error _ => .writing (.ofResponse .notFound)

/-- Do the work of one phase. -/
def turn (handle : Request → ω → Response × ω) (limit : Nat) (c : Connection ω) :
    Option ConnectionError × Connection ω :=
  let closed := { c with phase := .closed }
  match c.phase with
  | .reading =>
    match captureFrom limit c.buffer c.inlet with
    | { buffer, fault := some fault } => (some (.read fault), { closed with buffer })
    | { buffer, fault := none } => (none, { closed with phase := afterReading buffer, buffer })
  | .processing r =>
    let (response, world) := handle r c.world
    (none, { closed with phase := .writing (.ofResponse response), world })
  | .writing delivery =>
    let (ending, delivery, sink) := delivery.run false c.sink
    match ending.message delivery with
    | some message => (some (.write message), { closed with sink })
    | none => (none, { closed with sink, shutdown := true })
  | .closed => (none, closed)

theorem turns_afterReading (buffer : Bytes) : (afterReading buffer).turns ≤ 2 := by
  unfold afterReading
  split
  · simp [Phase.turns]
  · split <;> simp [Phase.turns]

/-- Each turn that does not fail leads to a later phase. -/
theorem turns_turn {handle : Request → ω → Response × ω} {limit : Nat} {c c' : Connection ω}
    (hopen : c.phase ≠ .closed) (h : c.turn handle limit = (none, c')) :
    c'.phase.turns < c.phase.turns := by
  unfold turn at h
  split at h
  · next hphase =>
    split at h
    · cases h
    · next buffer _ =>
      cases h
      exact Nat.lt_of_le_of_lt (turns_afterReading buffer) (by simp [hphase, Phase.turns])
  · next hphase =>
    cases h
    simp [hphase, Phase.turns]
  · next hphase =>
    dsimp only at h
    split at h <;> cases h
    simp [hphase, Phase.turns]
  · next hphase => exact absurd hphase hopen

/-- Take turns until one fails or the connection is closed. -/
def run (handle : Request → ω → Response × ω) (limit : Nat) (c : Connection ω) :
    Option ConnectionError × Connection ω :=
  if _hclosed : c.phase = .closed then (none, c)
  else
    match _hturn : c.turn handle limit with
    | (some error, c) => (some error, c)
    | (none, c) => run handle limit c
termination_by c.phase.turns
decreasing_by exact turns_turn _hclosed _hturn

end Connection

end Gateway.Server
