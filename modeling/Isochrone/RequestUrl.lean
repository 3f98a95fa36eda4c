import Isochrone.Cutoffs
import Isochrone.Parameters
import Isochrone.Text.Inspect

/-!
# Request URLs

The URL of a query relative to the root of the routing service: the path names the router,
and the query holds the parameters followed by one `cutoffSec` pair per cutoff.
-/

namespace Isochrone

/-- A URL relative to the root of the service. -/
structure RequestUrl where
  toString : String
  deriving DecidableEq, Repr, Inhabited

namespace RequestUrl

/-- The name under which a cutoff is asked for. -/
def cutoffKey : String := "cutoffSec"

/-- The fragment of a query that asks for a cutoff. -/
def fragment (seconds : UInt32) : String := "&" ++ cutoffKey ++ "=" ++ seconds.toNat.repr

/-- The URL that asks for cutoffs under parameters. -/
def build (parameters : QueryParameters) (cutoffs : Cutoffs) : RequestUrl :=
  let fragments := String.join (cutoffs.toList.map fragment)
  ⟨"/otp/routers/" ++ parameters.router ++ "/isochrone?" ++ parameters.query ++ fragments⟩

/-- A text without the slashes at its end. -/
def trimSlashes (s : String) : String :=
  String.ofList (s.toList.reverse.dropWhile (· = '/')).reverse

/-- The absolute URL under the root of a service; slashes at the end of the root do not
count. -/
def resolve (url : RequestUrl) (base : String) : String := trimSlashes base ++ url.toString

/-- The inspected form. -/
def inspect (url : RequestUrl) : String :=
  Text.inspectWrapped "RequestUrl" (Text.quoted url.toString)

end RequestUrl

end Isochrone
