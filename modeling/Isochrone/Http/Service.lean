/-!
# What a service does with a request

A service is told by what a client can see of it: whether there is a connection, whether a
response comes over it, and what arrives of the body. Where something does not come, the
connection is broken off or the time limit runs out.
-/

namespace Isochrone.Http

/-- Why something that a client waits for does not come. -/
inductive Lapse where
  /-- There is no connection, or it is closed or fails before. -/
  | broken
  /-- The time limit runs out before. -/
  | late
  deriving DecidableEq, Repr

/-- The status of a final response. The others below 200 announce a further response, and a
client waits for that one. -/
structure Status where
  code : Nat
  isFinal : code = 101 ∨ 200 ≤ code ∧ code ≤ 999
  deriving DecidableEq, Repr

namespace Status

/-- The status of a code, if a final response can have it. -/
def ofCode? (code : Nat) : Option Status :=
  if h : code = 101 ∨ 200 ≤ code ∧ code ≤ 999 then some ⟨code, h⟩ else none

/-- The plain success. -/
def ok : Status := ⟨200, by decide⟩

/-- Whether a status is one of the 400s. -/
def isClientError (status : Status) : Bool := 400 ≤ status.code && status.code < 500

/-- Whether a status is one of the 500s. -/
def isServerError (status : Status) : Bool := 500 ≤ status.code && status.code < 600

/-- Whether a response counts as a failure by its status. -/
def isRefused (status : Status) : Bool := status.isClientError || status.isServerError

/-- Responses of these statuses have no body, whatever follows their head. -/
def isBodiless (status : Status) : Bool :=
  status.code = 101 || status.code = 204 || status.code = 304

end Status

/-- Whether a line of the head of a message can hold a character: of the control characters only
the tab fits. -/
def fitsHead (c : Char) : Bool := c = '\t' || (0x20 ≤ c.toNat && c.toNat ≠ 0x7f)

/-- What a status line says behind its code. -/
structure Reason where
  text : String
  fits : text.toList.all fitsHead = true
  deriving DecidableEq, Repr

/-- The reason of a text, if a status line can hold it. -/
def Reason.ofText? (text : String) : Option Reason :=
  if h : text.toList.all fitsHead = true then some ⟨text, h⟩ else none

/-- The reason as reports show it; one beyond ASCII is not shown. -/
def Reason.shown (reason : Reason) : String :=
  if reason.text.toList.any fun c => 0x7e < c.toNat then ""
  else String.ofList <| reason.text.toList.flatMap fun
    | '\t' => ['\\', 't']
    | '"' => ['\\', '"']
    | '\\' => ['\\', '\\']
    | c => [c]

/-- What arrives of a body. -/
inductive Body where
  | whole (bytes : ByteArray)
  /-- Less than is announced. -/
  | short (lapse : Lapse)

/-- A final response that sends the client to no other place. -/
structure Response where
  status : Status
  reason : Reason
  body : Body

/-- The body that a client takes from a response. -/
def Response.received (response : Response) : Body :=
  if response.status.isBodiless then .whole .empty else response.body

/-- What a request meets. -/
inductive Service where
  /-- There is no connection to send the request over. -/
  | unconnected (lapse : Lapse)
  /-- The request is sent, and no response comes. -/
  | unanswered (lapse : Lapse)
  | responds (response : Response)

end Isochrone.Http
