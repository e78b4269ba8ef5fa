import Gateway.Net.Address
import Gateway.Proxy.Backend
import Gateway.Proxy.Exchange
import Gateway.Url.Parser

/-!
# Reaching a backend

To dial a backend is to look up the addresses of its host, to connect to one of them and to send the
request there.  Only addresses of version 4 are used.  They are tried in the order in which they
were found, until one accepts.  If none does, the last failure counts.  A host without such an
address is as good as one that is not found.

All of this is done by a network.  It has a state of its own, which each step may change, and a
clock.  A network also reads the URLs of backends and gives the buffers for their replies.
-/

namespace Gateway.Proxy

open Gateway.Http

/-- A host and a port to dial. -/
structure Endpoint where
  host : Text
  port : Nat
deriving DecidableEq, Repr

/-- The host and the port with a colon between them. -/
def Endpoint.text (e : Endpoint) : Text := e.host ++ ':' :: Numeral.decimal e.port

/-- What happens when an address is connected to. -/
inductive Connecting where
  | accepted
  | failed (fault : Fault)
  | timedOut
deriving DecidableEq, Repr

/-- What happens to the request after a backend has accepted the connection. -/
inductive Sending where
  | sent
  | failed (fault : Fault)
  | timedOut
deriving DecidableEq, Repr

/-- What happens when a backend is dialled. -/
inductive Dial where
  | unresolved
  | refused (fault : Fault)
  /-- The backend accepts, and this is what it does then. -/
  | accepted (sending : Sending) (reply : Inlet)
deriving DecidableEq, Repr

/-- A network with a state. -/
structure Network (σ : Type) where
  readUrl : Url.Reader
  /-- Look up the addresses of an endpoint, which may fail or take too long. -/
  lookup : Endpoint → σ → Option (List Net.SocketAddress) × σ
  connect : Net.SocketAddress → σ → Connecting × σ
  /-- Send a request to an address that has accepted, and take its reply. -/
  converse : Net.SocketAddress → Bytes → σ → (Sending × Inlet) × σ
  growth : Growth
  clock : σ → Instant

namespace Network

variable {σ : Type}

/-- Connect to the first of some addresses that accepts, after a last failure. -/
def reach (net : Network σ) :
    List Net.SocketAddress → Fault → σ → Except Fault Net.SocketAddress × σ
  | [], last, world => (.error last, world)
  | address :: rest, _, world =>
    match net.connect address world with
    | (.accepted, world) => (.ok address, world)
    | (.failed fault, world) => net.reach rest fault world
    | (.timedOut, world) => net.reach rest (timedOut "connect") world

/-- Dial an endpoint to send a request. -/
def dial (net : Network σ) (endpoint : Endpoint) (bytes : Bytes) (world : σ) : Dial × σ :=
  let (found, world) := net.lookup endpoint world
  match (found.getD []).filter Net.SocketAddress.isV4 with
  | [] => (.unresolved, world)
  | first :: others =>
    match net.reach (first :: others) (timedOut "connect") world with
    | (.error fault, world) => (.refused fault, world)
    | (.ok address, world) =>
      let ((sending, reply), world) := net.converse address bytes world
      (.accepted sending reply, world)

end Network

/-! ## A host without a network -/

/-- The failure of a connection to an address without a route. -/
def unreachable : Fault := ⟨"Network is unreachable (os error 101)".toList⟩

/-- The network of a host without any interface.  Its state is the time.  Addresses and the host's
own name are found and cannot be reached, other names are not found, and each failure takes a
nanosecond. -/
def Network.isolated : Network Instant where
  readUrl := Url.parse
  lookup endpoint now :=
    let ip := if endpoint.host = "localhost".toList then some ⟨127, 0, 0, 1⟩
      else Net.Ipv4.parse? endpoint.host
    match ip with
    | some ip => (some [.v4 ip (UInt16.ofNat endpoint.port)], now)
    | none => (none, now + 1)
  connect _ now := (.failed unreachable, now + 1)
  converse _ _ now := ((.failed unreachable, []), now + 1)
  growth := .doubling
  clock := id

end Gateway.Proxy
