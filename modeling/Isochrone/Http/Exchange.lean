import Isochrone.Http.Address
import Isochrone.Http.Service
import Isochrone.Reading.Decoder

/-!
# Exchanges with a service

An exchange goes from a request to the value of a response in three stages: the request is sent
and answered, the status of the response is looked at, and its body is read. Each stage can
fail, and a failure tells what a client can ask of it. The requests that are sent are listed.
-/

namespace Isochrone.Http

open Json (Value)

/-- A request as it is sent. -/
structure Sent where
  method : String
  address : Address
  accept : String
  userAgent : String
  deriving DecidableEq, Repr

/-- The first line of a request. -/
def Sent.line (sent : Sent) : String :=
  sent.method ++ " " ++ sent.address.target ++ " HTTP/1.1"

/-- What a stage sends, in order, and what comes of it. -/
structure Exchange (ε α : Type) where
  sent : List Sent
  result : Except ε α

namespace Exchange

variable {ε ε' α β : Type}

/-- A stage that sends nothing. -/
def ofExcept (result : Except ε α) : Exchange ε α := ⟨[], result⟩

/-- One stage, and another if it does not fail. -/
def bind (stage : Exchange ε α) (next : α → Exchange ε β) : Exchange ε β :=
  match stage.result with
  | .ok a => ⟨stage.sent ++ (next a).sent, (next a).result⟩
  | .error e => ⟨stage.sent, .error e⟩

instance : Monad (Exchange ε) where
  pure a := ofExcept (.ok a)
  bind := bind

/-- A stage with its failures told otherwise. -/
def mapError (tell : ε → ε') (stage : Exchange ε α) : Exchange ε' α :=
  ⟨stage.sent, stage.result.mapError tell⟩

end Exchange

/-- What can be asked of a failure. -/
structure Failure where
  /-- Whether the time limit has run out. -/
  isTimeout : Bool
  /-- The status for which a response counts as a failure. -/
  status? : Option Status
  /-- Whether a body could not be taken or read. -/
  isDecode : Bool
  message : String
  deriving DecidableEq, Repr

namespace Failure

/-- A message about an address, which is shown without its credentials. -/
def about (message : String) (address : Address) : String :=
  message ++ " for url (" ++ address.anonymous.text ++ ")"

/-- The failure to make a request for a text that is no address. -/
def noAddress : Failure := ⟨false, none, false, "builder error"⟩

/-- The failure to make a request for an address that it cannot be sent to. -/
def unsendable (address : Address) : Failure :=
  ⟨false, none, false, about "builder error" address⟩

/-- The failure to send a request or to get a response. -/
def sending (address : Address) (lapse : Lapse) : Failure :=
  ⟨lapse = .late, none, false, about "error sending request" address⟩

/-- A response that counts as a failure by its status. -/
def refused (address : Address) (response : Response) : Failure :=
  let side := if response.status.isClientError then "client" else "server"
  let line := response.status.code.repr ++ " " ++ response.reason.shown
  ⟨false, some response.status, false,
    about ("HTTP status " ++ side ++ " error (" ++ line ++ ")") address⟩

/-- The failure to take a body; one that is overdue is this failure too. -/
def taking (lapse : Lapse) : Failure :=
  ⟨lapse = .late, none, true, "error decoding response body"⟩

/-- The failure to read a body as one document. -/
def reading : Failure := ⟨false, none, true, "error decoding response body"⟩

end Failure

/-- A response and where it comes from. -/
structure Answer where
  address : Address
  response : Response

/-- Send a request and wait for the response. It is not tried again. -/
def Service.take (service : Service) (request : Sent) : Exchange Failure Answer :=
  match service with
  | .unconnected lapse => ⟨[], .error (.sending request.address lapse)⟩
  | .unanswered lapse => ⟨[request], .error (.sending request.address lapse)⟩
  | .responds response => ⟨[request], .ok ⟨request.address, response⟩⟩

/-- The address of a text, if a request can be sent to it. -/
def Address.sendable (target : String) : Except Failure Address :=
  match parse? target with
  | none => .error .noAddress
  | some address =>
    if address.anonymous.isSendable then .ok address else .error (.unsendable address)

/-- Make a GET and send it. -/
def Service.get (service : Service) (target accept userAgent : String) :
    Exchange Failure Answer :=
  match Address.sendable target with
  | .error failure => ⟨[], .error failure⟩
  | .ok address => service.take ⟨"GET", address, accept, userAgent⟩

namespace Answer

/-- Take a response with the status of an error as a failure; its body is not looked at. -/
def errorForStatus (answer : Answer) : Except Failure Answer :=
  if answer.response.status.isRefused then .error (.refused answer.address answer.response)
  else .ok answer

/-- Take the whole body and read it as one document. -/
def json (answer : Answer) : Except Failure Value :=
  match answer.response.received with
  | .short lapse => .error (.taking lapse)
  | .whole bytes =>
    match Reading.valueOfBytes? bytes with
    | some v => .ok v
    | none => .error .reading

end Answer

end Isochrone.Http
