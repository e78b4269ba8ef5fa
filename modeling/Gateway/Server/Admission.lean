/-!
# Admitting connections

A server serves a limited number of connections at once.  It has that many permits.  Its accept loop
takes one, waits for a client and gives the permit to the new connection, which returns it when it
ends, however it ends.

If accepting fails, the loop returns its permit and starts again.  A fault of the client is
forgotten at once.  After any other fault, as when the host has run out of sockets, the loop first
pauses for a moment, with its permit in hand.

`step?` says what an event does, and refuses one that cannot happen.
-/

namespace Gateway.Server

/-- Why accepting a connection fails. -/
inductive AcceptFault where
  | aborted
  | reset
  | refused
  | interrupted
  /-- The host cannot accept. -/
  | exhausted
deriving DecidableEq, Repr

/-- How many milliseconds the loop pauses after a fault, if it does. -/
def AcceptFault.pause? : AcceptFault → Option Nat
  | .exhausted => some 100
  | .aborted | .reset | .refused | .interrupted => none

/-- What the accept loop does. -/
inductive Stage where
  | waiting
  /-- It holds a permit and waits for a client. -/
  | accepting
  /-- It holds a permit and pauses. -/
  | pausing
deriving DecidableEq, Repr

def Stage.holdsPermit (s : Stage) : Bool := s != .waiting

/-- The permits of a server. -/
structure Admission where
  /-- The permits that nobody holds. -/
  free : Nat
  /-- What the accept loop does. -/
  stage : Stage := .waiting
  serving : Nat := 0
deriving DecidableEq, Repr

/-- What may happen to a server. -/
inductive ServerEvent where
  | permitted
  | accepted
  | acceptFailed (fault : AcceptFault)
  /-- The pause is over. -/
  | resumed
  /-- A connection ends, with or without a failure. -/
  | ended (failed : Bool)
deriving DecidableEq, Repr

namespace Admission

/-- A server that has just been started, for a limit of connections. -/
def start (limit : Nat) : Admission := { free := limit }

/-- The permits that there are, wherever they are. -/
def permits (a : Admission) : Nat := a.free + a.stage.holdsPermit.toNat + a.serving

/-- The permits after an event, if it can happen. -/
def step? (a : Admission) : ServerEvent → Option Admission
  | .permitted =>
    if a.stage = .waiting ∧ 0 < a.free then
      some { a with free := a.free - 1, stage := .accepting }
    else none
  | .accepted =>
    if a.stage = .accepting then some { a with stage := .waiting, serving := a.serving + 1 }
    else none
  | .acceptFailed fault =>
    if a.stage = .accepting then
      if fault.pause?.isSome then some { a with stage := .pausing }
      else some { a with free := a.free + 1, stage := .waiting }
    else none
  | .resumed =>
    if a.stage = .pausing then some { a with free := a.free + 1, stage := .waiting } else none
  | .ended _ =>
    if 0 < a.serving then some { a with free := a.free + 1, serving := a.serving - 1 } else none

/-- The permits after events in order, if they can happen. -/
def run? (a : Admission) (events : List ServerEvent) : Option Admission := events.foldlM step? a

end Admission

end Gateway.Server
