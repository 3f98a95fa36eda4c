import Isochrone.Http.Exchange
import Isochrone.Request.Basic

/-!
# Fetching over HTTP

A client sends one GET per fetch, without retry, and turns what comes of it into a document
or an error: statuses of the 400s and 500s fail before their body is read, every other body
must be one JSON document, and a time limit that runs out first fails as a timeout.
-/

namespace Isochrone.Http

open Json (Value)

/-- Where and how a client reaches the routing service. -/
structure Config where
  /-- The root of the service. -/
  baseUrl : String
  /-- The time limit of a fetch, in milliseconds. -/
  timeoutMillis : Nat
  /-- The name that the client gives of itself. -/
  userAgent : String
  deriving DecidableEq, Repr

namespace Config

/-- The service at an address, with the default limit and name. -/
def ofBase (baseUrl : String) : Config := ⟨baseUrl, 30000, "otp-isochrone/0.1"⟩

/-- The service on this machine. -/
def default : Config := ofBase "http://localhost:8080"

/-- The time limit in whole seconds. -/
def timeoutSeconds (config : Config) : Nat := config.timeoutMillis / 1000

end Config

/-- Why no client can be built. -/
inductive BuildError where
  /-- The name holds a character that a header cannot hold. -/
  | unfitUserAgent
  deriving DecidableEq, Repr

/-- The text of why no client can be built. -/
def BuildError.message : BuildError → String
  | .unfitUserAgent => "failed to build HTTP client: builder error"

/-- A client. -/
structure Client where
  config : Config
  /-- The name of the client fits its header. -/
  userAgent_fits : config.userAgent.toList.all fitsHead = true

namespace Client

/-- Build a client. -/
def build (config : Config) : Except BuildError Client :=
  if h : config.userAgent.toList.all fitsHead = true then .ok ⟨config, h⟩
  else .error .unfitUserAgent

/-- The absolute URL of a request URL. -/
def absoluteUrl (client : Client) (url : RequestUrl) : String :=
  url.resolve client.config.baseUrl

/-- The error that a failure is for an absolute URL. A limit that has run out goes before
everything else, and a status before a body that cannot be read. -/
def classify (client : Client) (target : String) (failure : Failure) : TransportError :=
  match failure.isTimeout, failure.status?, failure.isDecode with
  | true, _, _ => .timeout target client.config.timeoutSeconds
  | false, some status, _ => .http target status.code failure.message
  | false, none, true => .decode target failure.message
  | false, none, false => .network target failure.message

/-- What a client asks for. -/
def mediaType : String := "application/json"

/-- Fetch the document of a URL. -/
def fetch (client : Client) (service : Service) (url : RequestUrl) :
    Exchange TransportError Value := do
  let target := client.absoluteUrl url
  let sent := service.get target mediaType client.config.userAgent
  let answer ← sent.mapError (client.classify target)
  let answer ← .ofExcept (answer.errorForStatus.mapError (client.classify target))
  .ofExcept (answer.json.mapError (client.classify target))

/-- The client as a transport for requests. -/
def transport (client : Client) (service : Service) : Transport where
  delay := 0
  notes url := [.get (client.absoluteUrl url)]
  answer url := (client.fetch service url).result

/-- The requests that a service gets in the course of events, each call of the transport being
a fetch of the client. -/
def requests {ι : Type} (client : Client) (service : Service) (events : List (Event ι)) :
    List Sent :=
  (callsOf events).flatMap fun url => (client.fetch service url).sent

end Client

end Isochrone.Http
