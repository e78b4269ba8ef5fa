import Gateway.Config.Basic
import Gateway.Http.Request
import Gateway.Http.StatusLine
import Gateway.Proxy.Error

/-!
# One exchange with a backend

An exchange sends one request and reads one reply.  The request is framed anew: its line, a `Host`
header for the backend, the length of the body and `Connection: close`.  No header of the client is
forwarded.

The reply is read until the backend closes, until as many bytes have come as its head declares, or
until the limit is reached.  A backend that falls silent after a whole head keeps what it sent,
and one that falls silent before that has failed.  A reply that declares no length runs until the
backend closes or falls silent.

It is read into a buffer, and one read brings at most what the buffer has room for.  How a buffer
grows is not up to the gateway: a `Growth` is any rule that makes room before each read.

A reply becomes a response without headers of its own.  Its body is everything after the blank line,
and its status is 200 or that of the reply, by the policy.
-/

namespace Gateway.Proxy

open Gateway.Http

/-- The limits of an exchange. -/
structure Settings where
  /-- The largest request that is forwarded, head and body together. -/
  maxRequestSize : Nat := 8192
  /-- How many bytes of a reply are kept at most. -/
  maxResponseSize : Nat := 65536
  /-- Which status is reported. -/
  policy : StatusPolicy := .alwaysOk
deriving DecidableEq, Repr

/-! ## Framing the request -/

/-- The value of the `Host` header for a backend: its host, and its port unless that is the default
one of the scheme. -/
def hostField? (url : Url) : Option Text :=
  url.hostText?.map fun host =>
    host ++ (url.port.map fun p => ':' :: Numeral.decimal p.toNat).getD []

def frameHead (r : Request) (host : Text) : Text :=
  r.method.token ++ [' '] ++ (if r.target = [] then ['/'] else r.target)
    ++ " HTTP/1.1\r\nHost: ".toList ++ host
    ++ "\r\nContent-Length: ".toList ++ Numeral.decimal r.body.length
    ++ "\r\nConnection: close\r\n\r\n".toList

/-- The bytes that are sent to a backend for a request. -/
def frame (s : Settings) (r : Request) (url : Url) : Except ProxyError Bytes :=
  match hostField? url with
  | none => .error (.invalidBackend url.text)
  | some host =>
    let bytes := Utf8.encode (frameHead r host) ++ r.body
    if s.maxRequestSize < bytes.length then
      .error (.requestTooLarge bytes.length s.maxRequestSize)
    else .ok bytes

/-! ## Reading the reply -/

/-- How buffers grow. -/
structure Growth where
  /-- The size of a buffer for the next read, after it was `size` bytes large and held `held`
  bytes. -/
  next : (size held : Nat) → Nat
  /-- There is room for the next read. -/
  lt_next : ∀ size held, held < next size held

/-- A full buffer doubles, and grows by 64 bytes at least. -/
def Growth.doubling : Growth where
  next size held := if held < size then size else held + max held 64
  lt_next := by
    intro size held
    split <;> omega

/-- The room for a reply before its first byte. -/
def firstRoom : Nat := 8192

/-- The failure of a phase that took too long. -/
def timedOut (phase : String) : Fault :=
  ⟨"backend ".toList ++ phase.toList ++ " timed out".toList⟩

/-- Whether a reply holds all that its head declares, if that declares a length. -/
def isSatisfied (buffer : Bytes) : Bool :=
  (Framing.declaredLength? buffer).isSome && Framing.isComplete buffer

/-- Read a reply into a buffer of a size that already holds some of it. -/
def receiveInto (growth : Growth) (limit size : Nat) (buffer : Bytes) (inlet : Inlet) :
    Except Fault Bytes :=
  match _hread : inlet.read (growth.next size buffer.length - buffer.length) with
  | (.bytes got, rest) =>
    if _hlimit : limit ≤ (buffer ++ got).length then .ok ((buffer ++ got).take limit)
    else if isSatisfied (buffer ++ got) then .ok (buffer ++ got)
    else receiveInto growth limit (growth.next size buffer.length) (buffer ++ got) rest
  | (.ended, _) => .ok buffer
  | (.failed fault, _) => .error fault
  | (.timedOut, _) =>
    if (Framing.headEnd? buffer).isSome then .ok buffer else .error (timedOut "receive")
termination_by limit - buffer.length
decreasing_by
  have hgot := Inlet.read_bytes (Nat.sub_pos_of_lt (growth.lt_next size buffer.length)) _hread
  simp only [List.length_append] at _hlimit ⊢
  omega

/-- Read a reply of which at most `limit` bytes are kept. -/
def receive (growth : Growth) (limit : Nat) (inlet : Inlet) : Except Fault Bytes :=
  receiveInto growth limit (min firstRoom limit) [] inlet

/-- The response for the bytes of a reply. -/
def relay (policy : StatusPolicy) (reply : Bytes) : Except ProxyError Response :=
  let body := match Framing.headEnd? reply with
    | some n => reply.drop (n + 4)
    | none => reply
  match policy with
  | .alwaysOk => .ok (Response.build .ok .empty body)
  | .propagate =>
    match StatusLine.parse? reply with
    | some line => .ok (Response.build (.ofCode line.code) .empty body)
    | none => .error .invalidReply

end Gateway.Proxy
