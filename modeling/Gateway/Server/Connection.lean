import Gateway.Http.Delivery
import Gateway.Http.RequestParser

/-!
# One connection

A connection serves one request and is then closed.  Bytes are read until they hold a whole message,
until the client closes or falls silent, or until the limit is reached.  What was read by then is
served.

* Nothing read: the connection is closed without a word.
* No request in what was read: the client gets the 404 page.
* Otherwise the handler answers.

A failed read ends the connection at once.  A response that cannot be delivered in time, or at all,
ends it as well.  After a delivery the connection is shut down.
-/

namespace Gateway.Server

open Gateway.Http

/-- How many bytes are asked for at once. -/
def chunkSize : Nat := 1024

/-! ## Reading -/

/-- How many bytes to ask for next, 0 if enough was read. -/
def wanted (limit : Nat) (buffer : Bytes) : Nat :=
  if Framing.isComplete buffer then 0 else min (limit - buffer.length) chunkSize

/-- What was read from a client. -/
structure Capture where
  buffer : Bytes
  /-- The failure that ended the reading, if one did. -/
  fault : Option Fault
deriving DecidableEq, Repr

/-- Go on reading from a client that has sent some bytes. -/
def captureFrom (limit : Nat) (buffer : Bytes) (inlet : Inlet) : Capture :=
  if _hwant : 0 < wanted limit buffer then
    match _hread : inlet.read (wanted limit buffer) with
    | (.bytes got, rest) => captureFrom limit (buffer ++ got) rest
    | (.failed fault, _) => { buffer, fault := some fault }
    | (.ended, _) | (.timedOut, _) => { buffer, fault := none }
  else { buffer, fault := none }
termination_by limit - buffer.length
decreasing_by
  have hgot := Inlet.read_bytes _hwant _hread
  have hroom : wanted limit buffer ≤ limit - buffer.length := by
    unfold wanted
    split <;> omega
  simp only [List.length_append]
  omega

/-- Read a request from a client. -/
def capture (limit : Nat) (inlet : Inlet) : Capture := captureFrom limit [] inlet

/-! ## The whole connection -/

/-- Why a connection failed. -/
inductive ConnectionError where
  | read (fault : Fault)
  /-- The response was not delivered. -/
  | write (message : Text)
deriving DecidableEq, Repr

def ConnectionError.message : ConnectionError → Text
  | .read fault => fault.message
  | .write message => message

/-- How a connection ends. -/
structure Closing (ω : Type) where
  /-- What failed, if anything did. -/
  error : Option ConnectionError
  /-- The bytes that were read from the client. -/
  consumed : Bytes
  /-- The client, with what it has taken. -/
  sink : Sink
  /-- Whether the connection was shut down. -/
  shutdown : Bool
  world : ω

/-- The response for the bytes of a client, and the world after it. -/
def respond {ω : Type} (handle : Request → ω → Response × ω) (buffer : Bytes) (world : ω) :
    Response × ω :=
  match Request.parse buffer with
  | .ok r => handle r world
  | .error _ => (.notFound, world)

/-- Serve one connection: a client that sends `inlet` and takes what it is sent as `sink` says. -/
def serve {ω : Type} (handle : Request → ω → Response × ω) (limit : Nat) (inlet : Inlet)
    (sink : Sink) (world : ω) : Closing ω :=
  match capture limit inlet with
  | { buffer, fault := some fault } =>
    { error := some (.read fault), consumed := buffer, sink, shutdown := false, world }
  | { buffer := [], fault := none } =>
    { error := none, consumed := [], sink, shutdown := false, world }
  | { buffer, fault := none } =>
    let (response, world) := respond handle buffer world
    let (ending, delivery, sink) := (Delivery.ofResponse response).run false sink
    match ending.message delivery with
    | some message =>
      { error := some (.write message), consumed := buffer, sink, shutdown := false, world }
    | none => { error := none, consumed := buffer, sink, shutdown := true, world }

end Gateway.Server
