import Isochrone.Reading.Decoder

/-!
# Load options

Whether a request fetches at all, and whether it does so without blocking. A caller's
configuration sets any of the two; what it leaves open keeps an earlier choice.
-/

namespace Isochrone

open Json (Value)

/-- What a caller configures; an open key keeps its default. -/
structure RequestConfig where
  /-- Whether to fetch at all. -/
  load : Option Bool
  /-- Whether the fetch may suspend. -/
  asynchronous : Option Bool
  deriving DecidableEq, Repr

/-- How a request loads. -/
structure LoadOptions where
  /-- Whether the fetch may be issued. -/
  load : Bool
  /-- Whether opening a request leaves the fetch to its caller. -/
  asynchronous : Bool
  deriving DecidableEq, Repr

namespace LoadOptions

/-- Fetch, and leave the fetch to the caller. -/
def default : LoadOptions := ⟨true, true⟩

instance : Inhabited LoadOptions := ⟨default⟩

/-- Overlay a configuration; the keys it sets win. -/
def merged (options : LoadOptions) (config : RequestConfig) : LoadOptions :=
  ⟨config.load.getD options.load, config.asynchronous.getD options.asynchronous⟩

/-- The options of a configuration. -/
def ofConfig (config : RequestConfig) : LoadOptions := default.merged config

end LoadOptions

namespace RequestConfig

/-- The configuration that sets nothing. -/
def empty : RequestConfig := ⟨none, none⟩

/-- How a configuration is read. -/
def record : Reading.Record RequestConfig where
  name := "RequestConfig"
  fields := [("load", false), ("async", false)]
  default := empty
  set field d config := do
    let choice ← Reading.optional Reading.boolean d
    match field with
    | "load" => return { config with load := choice }
    | _ => return { config with asynchronous := choice }

/-- Read a configuration. -/
def decode : Reading.Decoder RequestConfig := record.decode

/-- The JSON form: the keys that are set. -/
def toJson (config : RequestConfig) : Value :=
  .object <|
    (config.load.map fun b => ("load", .bool b)).toList ++
      (config.asynchronous.map fun b => ("async", .bool b)).toList

end RequestConfig

end Isochrone
