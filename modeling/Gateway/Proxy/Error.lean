import Gateway.Http.Response
import Gateway.Stream.Inlet

/-!
# Failed exchanges

Why a request could not be answered by a backend, and which page the client gets instead.  Every
failure counts against the backend except one: a request that is too large to be forwarded says
nothing about the backend it was meant for.
-/

namespace Gateway.Proxy

/-- Why an exchange with a backend failed. -/
inductive ProxyError where
  | noBackend
  /-- The URL of the backend is unfit. -/
  | invalidBackend (url : Text)
  /-- The host of the backend has no version 4 address. -/
  | unresolved (target : Text)
  /-- The backend cannot be reached. -/
  | connect (address : Text) (fault : Fault)
  /-- The request cannot be sent. -/
  | send (fault : Fault)
  /-- The reply cannot be read. -/
  | receive (fault : Fault)
  /-- The reply has no valid status line, and its status is asked for. -/
  | invalidReply
  /-- The request is too large to be forwarded. -/
  | requestTooLarge (size limit : Nat)
deriving DecidableEq, Repr

namespace ProxyError

def message : ProxyError → Text
  | .noBackend => "no backend available".toList
  | .invalidBackend url => "invalid backend url ".toList ++ url
  | .unresolved target =>
    "could not resolve ".toList ++ target ++ " to an IPv4 address".toList
  | .connect address fault =>
    "failed to connect to ".toList ++ address ++ ": ".toList ++ fault.message
  | .send fault => "failed to send request to backend: ".toList ++ fault.message
  | .receive fault => "failed to read from backend: ".toList ++ fault.message
  | .invalidReply => "backend reply has no valid status line".toList
  | .requestTooLarge size limit =>
    "outbound request of ".toList ++ Numeral.decimal size ++ " bytes exceeds the ".toList
      ++ Numeral.decimal limit ++ " byte limit".toList

/-- The page that a client gets for the failure. -/
def response : ProxyError → Http.Response
  | .requestTooLarge .. => .internalError "proxy request too large".toList
  | .noBackend | .invalidBackend _ | .unresolved _ | .connect .. =>
    .badGateway "Backend Unavailable".toList
  | .send _ => .badGateway "Failed to Send to Backend".toList
  | .receive _ => .badGateway "Failed to Read from Backend".toList
  | .invalidReply => .badGateway "Invalid Response from Backend".toList

/-- Whether the failure counts against the backend. -/
def isBackendFault : ProxyError → Bool
  | .requestTooLarge .. => false
  | _ => true

end ProxyError

end Gateway.Proxy
