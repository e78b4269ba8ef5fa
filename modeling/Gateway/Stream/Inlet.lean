import Gateway.Text.Basic

/-!
# Reading from a peer

What a peer sends is a list of arrivals, and a read takes what it asked for off its front.  The list
says how the bytes are cut into pieces, when the peer makes the reader wait and how it ends.  After
its last arrival a peer has closed.

A read waits at most until its deadline.  `later` keeps the reader waiting for a moment and
`silence` keeps it waiting until the deadline has passed.  The reader looks once more then, and what
it finds counts.  If the peer is still not ready, the read has timed out.
-/

namespace Gateway

/-- A failure of the system below the gateway, by its text. -/
structure Fault where
  message : Text
deriving DecidableEq, Repr

/-- What a peer does next. -/
inductive Arrival where
  /-- It sends bytes.  No bytes mean that it has closed. -/
  | data (bytes : Bytes)
  | closed
  | failed (fault : Fault)
  /-- It is not ready for a moment. -/
  | later
  /-- It is not ready until the deadline has passed. -/
  | silence
deriving DecidableEq, Repr

/-- What a peer does, in order. -/
abbrev Inlet := List Arrival

/-- How a read ends. -/
inductive Reading where
  | bytes (got : Bytes)
  | ended
  | failed (fault : Fault)
  | timedOut
deriving DecidableEq, Repr

namespace Inlet

/-- Read at most `want` bytes.  `late` says whether the deadline has passed. -/
def readFrom (want : Nat) : Bool → Inlet → Reading × Inlet
  | _, [] => (.ended, [])
  | _, .data [] :: rest => (.ended, rest)
  | _, .data (b :: bs) :: rest =>
    (.bytes ((b :: bs).take want),
      if (b :: bs).length ≤ want then rest else .data ((b :: bs).drop want) :: rest)
  | _, .closed :: rest => (.ended, rest)
  | _, .failed fault :: rest => (.failed fault, rest)
  | late, .later :: rest => if late then (.timedOut, rest) else readFrom want late rest
  | late, .silence :: rest => if late then (.timedOut, rest) else readFrom want true rest

/-- Read at most `want` bytes before a new deadline. -/
def read (want : Nat) (inlet : Inlet) : Reading × Inlet := readFrom want false inlet

/-- A read that asks for something and brings bytes brings at least one, and no more than it asked
for. -/
theorem readFrom_bytes {want : Nat} (hw : 0 < want) {got : Bytes} {rest : Inlet} :
    ∀ {late : Bool} {inlet : Inlet}, readFrom want late inlet = (.bytes got, rest) →
      0 < got.length ∧ got.length ≤ want
  | _, [], h => by simp [readFrom] at h
  | _, .data [] :: _, h => by simp [readFrom] at h
  | _, .data (b :: bs) :: _, h => by
    simp only [readFrom, Prod.mk.injEq, Reading.bytes.injEq] at h
    rw [← h.1, List.length_take, List.length_cons]
    omega
  | _, .closed :: _, h => by simp [readFrom] at h
  | _, .failed _ :: _, h => by simp [readFrom] at h
  | late, .later :: rest, h => by
    cases late
    · exact readFrom_bytes hw (by simpa [readFrom] using h)
    · simp [readFrom] at h
  | late, .silence :: rest, h => by
    cases late
    · exact readFrom_bytes hw (by simpa [readFrom] using h)
    · simp [readFrom] at h

/-- The same for a read with a new deadline. -/
theorem read_bytes {want : Nat} (hw : 0 < want) {inlet rest : Inlet} {got : Bytes}
    (h : read want inlet = (.bytes got, rest)) : 0 < got.length ∧ got.length ≤ want :=
  readFrom_bytes hw h

end Inlet

end Gateway
