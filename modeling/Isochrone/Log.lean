import Isochrone.FeatureIndex
import Isochrone.RequestUrl

/-!
# Log lines

What the library notes while it works. A line is held by what it reports; its level and its
text follow from that.
-/

namespace Isochrone

/-- A note of the library. -/
inductive LogLine where
  | built (url : RequestUrl)
  | loadingDisabled (url : RequestUrl)
  | fetching (url : RequestUrl)
  | indexed (count : Nat) (url : RequestUrl)
  | loadFailed (url : RequestUrl) (cause : LoadError)
  /-- A load could not be issued. -/
  | notLoaded (url : RequestUrl) (cause : LoadError)
  | repeated (warning : RepeatedCutoff)
  /-- A GET is sent to an absolute URL. -/
  | get (target : String)
  deriving DecidableEq, Repr

namespace LogLine

/-- Whether the line is a warning. -/
def isWarning : LogLine → Bool
  | .loadFailed _ _ | .notLoaded _ _ | .repeated _ => true
  | _ => false

/-- The text without the level. -/
def message : LogLine → String
  | .built url => "built isochrone request " ++ url.toString
  | .loadingDisabled url => "loading disabled for " ++ url.toString
  | .fetching url => "fetching isochrones from " ++ url.toString
  | .indexed count url =>
    "indexed " ++ count.repr ++ " isochrone feature(s) from " ++ url.toString
  | .loadFailed url cause =>
    "isochrone request " ++ url.toString ++ " failed: " ++ cause.message
  | .notLoaded url cause =>
    "isochrone request " ++ url.toString ++ " could not be loaded: " ++ cause.message
  | .repeated warning =>
    "isochrone response repeats cutoff " ++ warning.seconds.toNat.repr ++
      "s; keeping feature " ++ warning.position.repr
  | .get target => "GET " ++ target

/-- The whole line. -/
def text (line : LogLine) : String :=
  (if line.isWarning then "WARN " else "DEBUG ") ++ line.message

end LogLine

end Isochrone
