import Isochrone.Text.Inspect

/-!
# Errors of a load

What can go wrong between asking for isochrones and having them indexed. Each error is held
by its cause and parts; `message` is its text for people, and `inspect` shows its structure.
-/

namespace Isochrone

open Text (inspectFields inspectWrapped quoted)

/-- Why a feature has no cutoff. -/
inductive FeatureError where
  /-- No time property is present. -/
  | missingTime (position : Nat)
  /-- The time property is no whole number of seconds; `value` is its JSON text. -/
  | invalidTime (position : Nat) (value : String)
  deriving DecidableEq, Repr

/-- Why no JSON document was delivered. -/
inductive TransportError where
  | timeout (url : String) (seconds : Nat)
  | http (url : String) (status : Nat) (detail : String)
  | network (url : String) (detail : String)
  | decode (url : String) (detail : String)
  deriving DecidableEq, Repr

/-- Why a load failed or was refused. -/
inductive LoadError where
  | transport (cause : TransportError)
  /-- The document has not the expected features. -/
  | malformedResponse (url : String) (detail : String)
  | feature (cause : FeatureError)
  /-- The one permitted fetch has been issued before. -/
  | alreadyIssued (url : String)
  /-- No executor for a blocking load could be set up. -/
  | runtime (detail : String)
  /-- A blocking load would stall the only thread that could finish it. -/
  | blockingInCurrentThread
  deriving DecidableEq, Repr

namespace FeatureError

/-- The text for people. -/
def message : FeatureError → String
  | .missingTime position =>
    "feature " ++ position.repr ++ " has neither a `Time` nor a `time` property"
  | .invalidTime position value =>
    "feature " ++ position.repr ++ " has an invalid time value " ++ value

/-- The inspected form. -/
def inspect : FeatureError → String
  | .missingTime position => inspectFields "MissingTime" [("position", position.repr)]
  | .invalidTime position value =>
    inspectFields "InvalidTime" [("position", position.repr), ("value", quoted value)]

end FeatureError

namespace TransportError

/-- The URL that an error names. -/
def url : TransportError → String
  | .timeout url _ | .http url _ _ | .network url _ | .decode url _ => url

/-- The text for people. -/
def message : TransportError → String
  | .timeout url seconds => "request to " ++ url ++ " timed out after " ++ seconds.repr ++ "s"
  | .http url status detail =>
    "request to " ++ url ++ " failed with status " ++ status.repr ++ ": " ++ detail
  | .network url detail => "network error contacting " ++ url ++ ": " ++ detail
  | .decode url detail => "failed to decode JSON from " ++ url ++ ": " ++ detail

/-- The inspected form. -/
def inspect : TransportError → String
  | .timeout url seconds =>
    inspectFields "Timeout" [("url", quoted url), ("timeout_secs", seconds.repr)]
  | .http url status detail =>
    inspectFields "Http"
      [("url", quoted url), ("status", status.repr), ("message", quoted detail)]
  | .network url detail =>
    inspectFields "Network" [("url", quoted url), ("message", quoted detail)]
  | .decode url detail =>
    inspectFields "Decode" [("url", quoted url), ("message", quoted detail)]

end TransportError

namespace LoadError

/-- The text for people. -/
def message : LoadError → String
  | .transport cause => cause.message
  | .malformedResponse url detail =>
    "malformed isochrone response from " ++ url ++ ": " ++ detail
  | .feature cause => cause.message
  | .alreadyIssued url => "isochrone request " ++ url ++ " has already been issued"
  | .runtime detail => "failed to build Tokio runtime: " ++ detail
  | .blockingInCurrentThread =>
    "cannot block on an isochrone fetch inside a current-thread Tokio runtime"

/-- The inspected form. -/
def inspect : LoadError → String
  | .transport cause => inspectWrapped "Transport" cause.inspect
  | .malformedResponse url detail =>
    inspectFields "MalformedResponse" [("url", quoted url), ("message", quoted detail)]
  | .feature cause => inspectWrapped "Feature" cause.inspect
  | .alreadyIssued url => inspectFields "AlreadyIssued" [("url", quoted url)]
  | .runtime detail => inspectFields "Runtime" [("message", quoted detail)]
  | .blockingInCurrentThread => "BlockingInCurrentThread"

end LoadError

end Isochrone
