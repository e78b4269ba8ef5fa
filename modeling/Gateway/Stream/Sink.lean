import Gateway.Stream.Inlet

/-!
# Writing to a peer

A sink is the receiving side of a peer.  It holds what the peer will do at each write and at each
flush, and everything the peer has taken so far.  After the last entry of its list a peer takes all
that it is offered.

A deadline works as for reading: a peer that is silent past it gets one more look.  One deadline may
span several writes, so each operation says whether it has passed.
-/

namespace Gateway

/-- What a peer does at a write. -/
inductive Uptake where
  /-- It takes at most `count` bytes of what is offered. -/
  | takes (count : Nat)
  | failed (fault : Fault)
  /-- It is not ready for a moment. -/
  | later
  /-- It is not ready until the deadline has passed. -/
  | silence
deriving DecidableEq, Repr

/-- What a peer does at a flush. -/
inductive Flush where
  | failed (fault : Fault)
  /-- It is not ready until the deadline has passed. -/
  | silence
deriving DecidableEq, Repr

/-- The receiving side of a peer. -/
structure Sink where
  writes : List Uptake := []
  flushes : List Flush := []
  /-- The bytes it has taken. -/
  taken : Bytes := []
  flushed : Nat := 0
deriving DecidableEq, Repr

/-- How a write or a flush ends. -/
inductive Writing where
  /-- It is done, and `count` bytes were taken. -/
  | took (count : Nat)
  | failed (fault : Fault)
  | timedOut
deriving DecidableEq, Repr

namespace Sink

/-- How a write of `offered` bytes ends, whether the deadline has passed by then, and what the peer
does at the writes after it. -/
def uptake (offered : Nat) : Bool → List Uptake → Writing × Bool × List Uptake
  | late, [] => (.took offered, late, [])
  | late, .takes count :: rest => (.took (min count offered), late, rest)
  | late, .failed fault :: rest => (.failed fault, late, rest)
  | late, .later :: rest => if late then (.timedOut, late, rest) else uptake offered late rest
  | late, .silence :: rest => if late then (.timedOut, late, rest) else uptake offered true rest

/-- Offer bytes to the peer once. -/
def write (late : Bool) (bytes : Bytes) (s : Sink) : Writing × Bool × Sink :=
  match uptake bytes.length late s.writes with
  | (.took count, late, writes) =>
    (.took count, late, { s with writes, taken := s.taken ++ bytes.take count })
  | (ending, late, writes) => (ending, late, { s with writes })

/-- How a flush ends, and what the peer does at the flushes after it. -/
def flushing : Bool → List Flush → Writing × List Flush
  | _, [] => (.took 0, [])
  | _, .failed fault :: rest => (.failed fault, rest)
  | late, .silence :: rest => if late then (.timedOut, rest) else flushing true rest

/-- Flush what the peer has taken. -/
def flush (late : Bool) (s : Sink) : Writing × Sink :=
  match flushing late s.flushes with
  | (.took count, flushes) => (.took count, { s with flushes, flushed := s.flushed + 1 })
  | (ending, flushes) => (ending, { s with flushes })

end Sink

end Gateway
