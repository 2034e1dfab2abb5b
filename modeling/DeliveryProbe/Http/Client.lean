import DeliveryProbe.Emitter
import DeliveryProbe.Search

/-! The requests that the probe sends, and what it makes of the replies. The network is a parameter:
a function from what is sent to what comes back, if anything does. -/
namespace DeliveryProbe
namespace Http

structure Outgoing where
  method : String
  url : String
  /-- Parameters that are added to the query of the URL, not yet encoded. -/
  query : List (String × String)
  token : Option String
  body : String
  deriving DecidableEq, Repr

structure Incoming where
  status : Nat
  body : Utf8.Bytes
  deriving DecidableEq, Repr

/-- What comes back for a request. Nothing does if its URL or token is none, nobody listens, or no
answer comes in time. -/
abbrev Network := Outgoing → Option Incoming

def Network.isolated : Network := fun _ => none

namespace Client

/-- The text of a body, without a byte order mark in front. -/
def bodyText (body : Utf8.Bytes) : String :=
  let text := Utf8.decodeLossy body
  match text.toList with
  | '\uFEFF' :: s => String.ofList s
  | _ => text

def search (net : Network) (base token system : String) : Search.Reply :=
  let request : Outgoing :=
    { method := "GET", url := Endpoint.search base, query := [("system_id", system)], token := some token
      body := "" }
  match net request with
  | some reply => Search.Reply.ofBody (bodyText reply.body)
  | none => .failed .http

def write (net : Network) (base : String) (sample : Sample) : Except Failure Unit :=
  let request : Outgoing :=
    { method := "POST", url := Endpoint.write base sample.system, query := [], token := none
      body := sample.line }
  match net request with
  | some reply =>
    if Emission.isSuccess reply.status then .ok ()
    else .error (.storeRejected reply.status (bodyText reply.body))
  | none => .error .http

def get (net : Network) (url : String) : Except Failure Nat :=
  match net { method := "GET", url, query := [], token := none, body := "" } with
  | some reply => .ok reply.status
  | none => .error .http

end Client
end Http
end DeliveryProbe
