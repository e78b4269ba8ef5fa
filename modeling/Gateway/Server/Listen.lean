import Gateway.Net.Address
import Gateway.Server.Admission
import Gateway.Server.Handler

/-!
# Listening and starting

A server listens on one socket address, which is given as text.  Whether a well-formed address can
be bound is up to the host.

To start, a gateway first finds the root of its files and then binds its address, so a missing
root is reported before a bad address.
-/

namespace Gateway.Server

/-- Why a server cannot listen. -/
inductive ListenError where
  | invalidAddress (text : Text)
  /-- The address cannot be bound. -/
  | bind (address : Net.SocketAddress) (fault : Fault)
deriving DecidableEq, Repr

def ListenError.message : ListenError → Text
  | .invalidAddress text => "invalid listen address ".toList ++ Text.quoted text
  | .bind address fault =>
    "failed to bind ".toList ++ address.text ++ ": ".toList ++ fault.message

/-- A host: the failure of binding an address, if it fails. -/
abbrev Host := Net.SocketAddress → Option Fault

def listen (host : Host) (text : Text) : Except ListenError Net.SocketAddress :=
  match Net.SocketAddress.parse? text with
  | none => .error (.invalidAddress text)
  | some address =>
    match host address with
    | some fault => .error (.bind address fault)
    | none => .ok address

/-! ## Hosts -/

def addressInUse : Fault := ⟨"Address already in use (os error 98)".toList⟩

/-- No interface has the address. -/
def addressNotAvailable : Fault := ⟨"Cannot assign requested address (os error 99)".toList⟩

/-- The address needs a zone and has none, or is one of a group. -/
def invalidArgument : Fault := ⟨"Invalid argument (os error 22)".toList⟩

/-- The zone of the address is that of no interface. -/
def noSuchDevice : Fault := ⟨"No such device (os error 19)".toList⟩

/-- The failure of binding a version 6 address on a host that has none of its own.  Only the
unspecified address and the forms of version 4 addresses can be bound. -/
def ipv6Fault (ip : Net.Ipv6) (zone : UInt32) : Option Fault :=
  let first := (ip.groups.headD 0).toNat
  if ip.groups.all (· == 0) ∨ ip.mapped?.isSome then none
  else if 0xFF00 ≤ first then some invalidArgument
  else if 0xFE80 ≤ first ∧ first ≤ 0xFEBF then
    some (if zone = 0 then invalidArgument else if zone = 1 then addressNotAvailable
      else noSuchDevice)
  else some addressNotAvailable

/-- A host without any interface.  With no version 4 address of its own it lets any be bound. -/
def isolatedHost : Host
  | .v4 .. => none
  | .v6 ip zone _ => ipv6Fault ip zone

/-- A host on which every address is taken. -/
def crowdedHost : Host := fun _ => some addressInUse

/-! ## Starting -/

/-- Why a gateway cannot start. -/
inductive StartError where
  /-- The served root cannot be found. -/
  | files (error : Files.FileError)
  /-- The address cannot be listened on. -/
  | listen (error : ListenError)
deriving DecidableEq, Repr

def StartError.message : StartError → Text
  | .files error => error.message
  | .listen error => error.message

/-- Start a gateway: make its handler and listen. -/
def start {σ : Type} (c : Config) (tree : Files.Tree) (base : Files.Location)
    (network : Proxy.Network σ) (host : Host) :
    Except StartError (Handler σ × Net.SocketAddress) :=
  match Handler.ofConfig c tree base network with
  | .error e => .error (.files e)
  | .ok handler =>
    match listen host c.server.listenAddr with
    | .error e => .error (.listen e)
    | .ok address => .ok (handler, address)

/-- The permits with which a gateway starts: as many as it may serve connections at once. -/
def Admission.ofConfig (c : Config) : Admission := .start c.server.maxConnections

end Gateway.Server
