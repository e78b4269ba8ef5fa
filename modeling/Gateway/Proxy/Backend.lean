import Gateway.Text.Basic

/-!
# Backends

A backend is a URL that requests are forwarded to, with the record of its health.  Three failed
exchanges in a row take it down, and one good exchange brings it back up.  A backend that is down is
due for a retry once thirty seconds have passed since its last exchange.

Time is counted in nanoseconds from an arbitrary start.  The record of a backend may lie in the
future of the clock that asks, and then no time has passed.
-/

namespace Gateway.Proxy

/-- A point in time, in nanoseconds. -/
abbrev Instant := Nat

/-- The nanoseconds of a number of milliseconds. -/
def milliseconds (n : Nat) : Nat := n * 1000000

/-- Whether a backend takes part in the rotation. -/
inductive Health where
  /-- It does. -/
  | up
  /-- It failed too often and sits out. -/
  | down
deriving DecidableEq, Repr

/-- A backend and what is known about its health. -/
structure Backend where
  /-- Where requests are forwarded to. -/
  url : Text
  /-- The configured name. -/
  name : Option Text := none
  /-- Whether it takes part in the rotation. -/
  health : Health := .up
  /-- When the last exchange with it ended, good or bad. -/
  lastSeen : Option Instant := none
  /-- How many exchanges have failed since the last good one. -/
  failures : Nat := 0
deriving DecidableEq, Repr

namespace Backend

/-- Failures in a row that take a backend down. -/
def failureThreshold : Nat := 3

/-- How long a backend that is down sits out while others are up. -/
def retryAfter : Nat := milliseconds 30000

/-- The largest count of failures that is kept. -/
def maxFailures : Nat := 4294967295

/-- The name that the backend is called by: the configured one, or its URL. -/
def displayName (b : Backend) : Text := b.name.getD b.url

def isUp (b : Backend) : Bool := b.health = .up

/-- Whether the backend is down and its last exchange lies far enough back. -/
def isDue (now : Instant) (b : Backend) : Bool :=
  b.health = .down
    && match b.lastSeen with
      | none => true
      | some seen => decide (retryAfter ≤ now - seen)

/-- Whether the rotation may pick the backend. -/
def isEligible (now : Instant) (b : Backend) : Bool := b.isUp || b.isDue now

/-- The backend after an exchange that failed. -/
def recordFailure (now : Instant) (b : Backend) : Backend :=
  let failures := min (b.failures + 1) maxFailures
  { b with
    lastSeen := some now
    failures
    health := if b.isUp && failureThreshold ≤ failures then .down else b.health }

/-- The backend after a good exchange. -/
def recordSuccess (now : Instant) (b : Backend) : Backend :=
  { b with lastSeen := some now, failures := 0, health := .up }

end Backend

end Gateway.Proxy
