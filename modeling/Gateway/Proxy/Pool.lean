import Gateway.Proxy.Backend

/-!
# The rotation of backends

A pool holds the backends in their configured order and a cursor.  `next` picks the first eligible
backend from the cursor on, going round, and moves the cursor past it.  With no eligible backend it
picks the one whose last exchange lies furthest back, so that a recovered backend is noticed.

The outcome of an exchange is recorded by URL, at the first backend that has it.
-/

namespace Gateway.Proxy

/-- The backends and where the rotation stands. -/
structure Pool where
  backends : List Backend
  /-- The index at which the next pick starts. -/
  cursor : Nat := 0
deriving DecidableEq, Repr

namespace Pool

/-- The indices of the pool in the order in which a pick tries them. -/
def order (p : Pool) : List Nat :=
  (List.range p.backends.length).map fun step => (p.cursor + step) % p.backends.length

/-- Whether the backend at an index may be picked. -/
def eligibleAt (now : Instant) (p : Pool) (i : Nat) : Bool :=
  (p.backends[i]?).any (Backend.isEligible now)

/-- Whether an exchange lies further back than another.  One that never took place does. -/
def earlier : Option Instant → Option Instant → Bool
  | none, some _ => true
  | some a, some b => decide (a < b)
  | _, none => false

/-- The index of the backend whose last exchange lies furthest back, the first of equals.  `best` is
the index and the time of the best backend before index `i`. -/
def longestUnseenFrom (i : Nat) (best : Nat × Option Instant) : List Backend → Nat
  | [] => best.1
  | b :: rest =>
    longestUnseenFrom (i + 1) (if earlier b.lastSeen best.2 then (i, b.lastSeen) else best) rest

/-- The index of the backend whose last exchange lies furthest back, the first of equals. -/
def longestUnseen? (p : Pool) : Option Nat :=
  match p.backends with
  | [] => none
  | b :: rest => some (longestUnseenFrom 1 (0, b.lastSeen) rest)

/-- The index that the next pick takes. -/
def pick? (now : Instant) (p : Pool) : Option Nat :=
  (p.order.find? (p.eligibleAt now)).or p.longestUnseen?

/-- Pick a backend and move the cursor past it. -/
def next? (now : Instant) (p : Pool) : Option (Backend × Pool) := do
  let i ← p.pick? now
  let b ← p.backends[i]?
  return (b, { p with cursor := (i + 1) % p.backends.length })

/-- Apply a function to the first backend that has a URL. -/
def updateFirst (url : Text) (f : Backend → Backend) : List Backend → List Backend
  | [] => []
  | b :: rest => if b.url = url then f b :: rest else b :: updateFirst url f rest

/-- Record a failed exchange with a URL. -/
def recordFailure (now : Instant) (url : Text) (p : Pool) : Pool :=
  { p with backends := updateFirst url (Backend.recordFailure now) p.backends }

/-- Record a good exchange with a URL. -/
def recordSuccess (now : Instant) (url : Text) (p : Pool) : Pool :=
  { p with backends := updateFirst url (Backend.recordSuccess now) p.backends }

/-- How many backends are eligible, and at least one unless the pool is empty. -/
def candidateCount (now : Instant) (p : Pool) : Nat :=
  max (p.backends.countP (Backend.isEligible now)) (min p.backends.length 1)

/-- How many backends are up. -/
def availableCount (p : Pool) : Nat := p.backends.countP Backend.isUp

end Pool

end Gateway.Proxy
