import Isochrone.LoadOptions
import Isochrone.Log
import Isochrone.Transport

/-!
# Requests

A request for isochrones: what is asked for, how far its one fetch has come, the features
once they are there, and the listeners that wait for them. What a request does besides
changing is told by events in order: notes, calls of the transport and calls of listeners.
-/

namespace Isochrone

open Text (inspectFields inspectWrapped)

/-- How far the one fetch of a request has come. -/
inductive LoadState where
  /-- The request never fetches. -/
  | idle
  /-- The fetch may be issued. -/
  | queued
  /-- The fetch has been issued and has not come to its end. -/
  | pending
  /-- The features are indexed. -/
  | loaded
  | failed (cause : LoadError)
  deriving DecidableEq, Repr

namespace LoadState

/-- Whether the features are there. -/
def isLoaded : LoadState → Bool
  | .loaded => true
  | _ => false

/-- Whether a fetch is still to come to its end. -/
def isPending : LoadState → Bool
  | .queued | .pending => true
  | _ => false

/-- Why the fetch failed, if it did. -/
def error? : LoadState → Option LoadError
  | .failed cause => some cause
  | _ => none

/-- The inspected form. -/
def inspect : LoadState → String
  | .idle => "Idle"
  | .queued => "Queued"
  | .pending => "Pending"
  | .loaded => "Loaded"
  | .failed cause => inspectWrapped "Failed" cause.inspect

end LoadState

/-- A request for isochrones with listeners of type `ι`. -/
structure Request (ι : Type) where
  parameters : QueryParameters
  cutoffs : Cutoffs
  options : LoadOptions
  /-- The URL that is fetched. -/
  url : RequestUrl
  /-- The features; none until a fetch has succeeded. -/
  features : FeatureIndex
  state : LoadState
  /-- The listeners that wait, in the order of their registration. -/
  listeners : List ι

/-- What happens in the course of an operation. -/
inductive Event (ι : Type) where
  | note (line : LogLine)
  /-- The transport is called. -/
  | asked (url : RequestUrl)
  /-- The transport gives its answer. -/
  | answered (url : RequestUrl)
  /-- A listener is called with the request as it then is. -/
  | heard (listener : ι) (request : Request ι)

/-- The outcome of an operation: the request after it, what happened, and its result. -/
structure Outcome (ι α : Type) where
  request : Request ι
  events : List (Event ι)
  result : α

variable {ι : Type}

namespace Event

/-- The line that an event notes. -/
def note? : Event ι → Option LogLine
  | .note line => some line
  | _ => none

/-- The URL with which an event calls a transport. -/
def call? : Event ι → Option RequestUrl
  | .asked url => some url
  | _ => none

/-- The listener that an event calls, and the request it is shown. -/
def delivery? : Event ι → Option (ι × Request ι)
  | .heard listener request => some (listener, request)
  | _ => none

end Event

/-- The lines that are noted among events. -/
def notesOf (events : List (Event ι)) : List LogLine := events.filterMap Event.note?

/-- The URLs of the transport calls among events. -/
def callsOf (events : List (Event ι)) : List RequestUrl := events.filterMap Event.call?

/-- The calls of listeners among events. -/
def deliveriesOf (events : List (Event ι)) : List (ι × Request ι) :=
  events.filterMap Event.delivery?

namespace Outcome

variable {α β : Type}

/-- The outcome with events before its own. -/
def after (outcome : Outcome ι α) (events : List (Event ι)) : Outcome ι α :=
  { outcome with events := events ++ outcome.events }

/-- The outcome under another form of its result. -/
def map (f : α → β) (outcome : Outcome ι α) : Outcome ι β :=
  { outcome with result := f outcome.result }

end Outcome

namespace Request

/-- A new request, queued if it may load and idle otherwise. -/
def new (parameters : QueryParameters) (cutoffs : Cutoffs) (options : LoadOptions) :
    Request ι where
  parameters := parameters
  cutoffs := cutoffs
  options := options
  url := .build parameters cutoffs
  features := .empty
  state := if options.load then .queued else .idle
  listeners := []

/-- Build a new request and note it. -/
def build (parameters : QueryParameters) (cutoffs : Cutoffs) (options : LoadOptions) :
    Outcome ι Unit :=
  let request := new parameters cutoffs options
  ⟨request, [.note (.built request.url)], ()⟩

/-- The feature of exactly `seconds`. -/
def feature? (r : Request ι) (seconds : UInt32) : Option Feature := r.features.get? seconds

/-- Register a listener; it is called at once if the features are there. -/
def onLoad (r : Request ι) (listener : ι) : Outcome ι Unit :=
  if r.state.isLoaded then ⟨r, [.heard listener r], ()⟩
  else ⟨{ r with listeners := r.listeners ++ [listener] }, [], ()⟩

/-- Take over the features and call the listeners that wait, in order. -/
def complete (r : Request ι) (features : FeatureIndex) : Outcome ι Unit :=
  let loaded := { r with features := features, state := .loaded, listeners := [] }
  ⟨loaded, .note (.indexed features.size r.url) ::
    r.listeners.map fun listener => .heard listener loaded, ()⟩

/-- The inspected form. -/
def inspect (r : Request ι) : String :=
  let options := inspectFields "LoadOptions"
    [("load", toString r.options.load), ("asynchronous", toString r.options.asynchronous)]
  "IsochroneRequest \x7b url: " ++ r.url.inspect ++ ", options: " ++ options ++
    ", state: " ++ r.state.inspect ++ ", features: " ++ r.features.size.repr ++
    ", listeners: " ++ r.listeners.length.repr ++ ", .. \x7d"

end Request

end Isochrone
