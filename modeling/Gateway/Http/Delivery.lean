import Gateway.Http.Response
import Gateway.Stream.Sink

/-!
# Delivering a response

A delivery is the wire form of a response together with how much of it the peer has taken.  `run`
offers what remains until nothing does, then flushes.  A peer that takes nothing of an offer has
stopped, and the delivery with it.  A delivery that was interrupted can be run again and goes on
where it stood.
-/

namespace Gateway.Http

/-- A response on its way to a peer. -/
structure Delivery where
  /-- The bytes to deliver. -/
  wire : Bytes
  /-- How many of them the peer has taken. -/
  written : Nat := 0
deriving DecidableEq, Repr

/-- How a delivery ends. -/
inductive DeliveryEnd where
  /-- Everything was taken and flushed. -/
  | done
  /-- The peer took nothing of what was left. -/
  | stopped
  | failed (fault : Fault)
  | timedOut
deriving DecidableEq, Repr

namespace Delivery

/-- The delivery of a response, before any of it was taken. -/
def ofResponse (r : Response) : Delivery := { wire := r.wire }

/-- What the peer has not taken yet. -/
def remaining (d : Delivery) : Bytes := d.wire.drop d.written

/-- Offer what remains to the sink until nothing does, then flush.  `late` says whether the deadline
has passed. -/
def run (late : Bool) (d : Delivery) (sink : Sink) : DeliveryEnd × Delivery × Sink :=
  if _h : d.written < d.wire.length then
    match sink.write late d.remaining with
    | (.took 0, _, sink) => (.stopped, d, sink)
    | (.took (count + 1), late, sink) =>
      run late { d with written := d.written + (count + 1) } sink
    | (.failed fault, _, sink) => (.failed fault, d, sink)
    | (.timedOut, _, sink) => (.timedOut, d, sink)
  else
    match sink.flush late with
    | (.took _, sink) => (.done, d, sink)
    | (.failed fault, sink) => (.failed fault, d, sink)
    | (.timedOut, sink) => (.timedOut, d, sink)
termination_by d.wire.length - d.written

end Delivery

/-- The text of an end that is not the good one, for the delivery as it then stands. -/
def DeliveryEnd.message (d : Delivery) : DeliveryEnd → Option Text
  | .done => none
  | .stopped => some ("peer stopped accepting bytes after ".toList ++ Numeral.decimal d.written)
  | .failed fault => some fault.message
  | .timedOut =>
    some ("write timed out after ".toList ++ Numeral.decimal d.written ++ " of ".toList
      ++ Numeral.decimal d.wire.length ++ " bytes".toList)

end Gateway.Http
