import Isochrone.LoadOptions
import Isochrone.Proofs.Feature
import Isochrone.Proofs.Http.Fetching
import Isochrone.Proofs.Json.Written
import Isochrone.Proofs.Reading.Agreement

/-!
# Texts and their values

A text that is JSON and repeats no key is read into a configuration, a parameter, parameters,
cutoffs, a feature or a response just as the value is that it is read as first. A client may
therefore read the body of a response into a value before it looks for features: what it finds is
what the body itself says.
-/

namespace Isochrone

open Json (Value Document)
open Reading

/-- A parameter is found by its value alone. -/
theorem ParamValue.agrees_decode : Agrees ParamValue.decode := agrees_value.bind _

/-- Parameters are a map of parameters. -/
theorem QueryParameters.agrees_decode : Agrees QueryParameters.decode :=
  ParamValue.agrees_decode.map.functor_map _

/-- Cutoffs are a list of 32-bit numbers. -/
theorem Cutoffs.agrees_decode : Agrees Cutoffs.decode := agrees_number32.list.functor_map _

/-- An area is found by the value of its map alone. -/
theorem Geometry.agrees_decode : Agrees Geometry.decode := agrees_value.map.bind _

namespace RequestConfig

/-- The first field of a configuration is a choice about loading. -/
theorem sets_load : record.Sets "load" (optional boolean) fun choice config =>
    { config with load := choice } := fun _ _ => rfl

/-- The second field of a configuration is a choice about waiting. -/
theorem sets_async : record.Sets "async" (optional boolean) fun choice config =>
    { config with asynchronous := choice } := fun _ _ => rfl

/-- A configuration agrees, since its two fields may be set in either order. -/
theorem agrees_decode : Agrees RequestConfig.decode := by
  apply record.agrees_decode
  · intro name hname config
    have hfield : name = "load" ∨ name = "async" := by
      simpa [Record.isField, record] using hname
    rcases hfield with rfl | rfl
    · exact sets_load.agrees agrees_boolean.optional config
    · exact sets_async.agrees agrees_boolean.optional config
  · apply Record.commutes_write
    exact List.pairwise_pair.mpr (sets_load.setCommute sets_async fun _ _ _ => rfl)

end RequestConfig

namespace Feature

/-- A feature agrees, since its three fields may be set in any order. -/
theorem agrees_decode : Agrees Feature.decode := by
  apply record.agrees_decode
  · intro name hname f
    have hfield : name = "id" ∨ name = "geometry" ∨ name = "properties" := by
      simpa [Record.isField, record] using hname
    rcases hfield with rfl | rfl | rfl
    · exact sets_id.agrees agrees_value.optional f
    · exact sets_geometry.agrees Geometry.agrees_decode.optional f
    · exact sets_properties.agrees agrees_value.map f
  · apply Record.commutes_write
    have hid : ∀ name ∈ ["geometry", "properties"], record.SetCommute "id" name := by
      refine List.forall_mem_cons.mpr ⟨?_, List.forall_mem_singleton.mpr ?_⟩
      · exact sets_id.setCommute sets_geometry fun _ _ _ => rfl
      · exact sets_id.setCommute sets_properties fun _ _ _ => rfl
    have hgeometry : record.SetCommute "geometry" "properties" :=
      sets_geometry.setCommute sets_properties fun _ _ _ => rfl
    exact List.pairwise_cons.mpr ⟨hid, List.pairwise_pair.mpr hgeometry⟩

end Feature

namespace Response

/-- A response agrees, since its features do. -/
theorem agrees_decode : Agrees Response.decode := by
  apply record.agrees_decode
  · intro name hname response
    have hfield : name = "features" := by
      simpa [Record.isField, record] using hname
    subst hfield
    exact sets_features.agrees Feature.agrees_decode.list response
  · apply Record.commutes_write
    exact List.pairwise_singleton _ _

end Response

namespace Reading

/-- A text and a value are read alike: both give the same, or neither gives anything. -/
def ReadAlike {α : Type} (decode : Decoder α) (text : String) (v : Value) : Prop :=
  ∀ a, ofText decode text = .ok a ↔ ofValue decode v = .ok a

/-- A text that is read is its document, and nothing follows it. -/
theorem ofText_eq_ok_iff {α : Type} {decode : Decoder α} {text : String} {a : α} :
    ofText decode text = .ok a ↔
      decode (Document.ofText text).root = .ok a ∧ (Document.ofText text).trailing = false := by
  cases hroot : decode (Document.ofText text).root with
  | error problem => simp [ofText, hroot]
  | ok b =>
    cases htrailing : (Document.ofText text).trailing with
    | true => simp [ofText, hroot, htrailing]
    | false => simp [ofText, hroot, htrailing]

variable {text : String} {v : Value}

/-- Where a decoder agrees on documents, a text without repeated keys is read alike with its value.
-/
theorem Agrees.readAlike {α : Type} {decode : Decoder α} (h : Agrees decode)
    (hread : ofText value text = .ok v) (hdistinct : (Document.ofText text).root.Distinct) :
    ReadAlike decode text v := by
  intro a
  obtain ⟨hroot, htrailing⟩ := ofText_eq_ok_iff.mp hread
  rw [ofText_eq_ok_iff, and_iff_left htrailing, ofValue, ← toOption_eq_some, ← toOption_eq_some,
    h (ofFault_eq_ok.mp hroot) hdistinct]

/-- A fetch gives the value of a body that is JSON. -/
theorem fetch_of_read (hread : ofText value text = .ok v) {client : Http.Client} {url : RequestUrl}
    {status : Http.Status} {reason : Http.Reason}
    (hsent : (client.fetch (.responds ⟨status, reason, .whole text.toUTF8⟩) url).sent ≠ [])
    (hrefused : status.isRefused = false) (hbody : status.isBodiless = false) :
    (client.fetch (.responds ⟨status, reason, .whole text.toUTF8⟩) url).result = .ok v := by
  obtain ⟨-, hsends⟩ := Http.Client.sent_ne_nil_iff.mp hsent
  refine Http.Client.gives_document hsends ⟨_, rfl, ?_, ?_⟩
    (valueOfBytes?_eq_some_iff.mpr ⟨text, rfl, hread⟩)
  · exact Http.Status.isRefused_eq_false_iff.mp hrefused
  · simp only [Http.Response.received, hbody, Bool.false_eq_true, if_false]

/-- A text that is JSON and in which no object repeats a key is read alike with the value it is
read as: as a configuration, a parameter, parameters, cutoffs, a feature and a response. So is the
body of a response with the value that a client makes of it, behind any status that lets it be
read. -/
theorem reads_text_as_value (hread : ofText value text = .ok v)
    (hdistinct : (Document.ofText text).root.Distinct) :
    ReadAlike RequestConfig.decode text v ∧
    ReadAlike ParamValue.decode text v ∧
    ReadAlike QueryParameters.decode text v ∧
    ReadAlike Cutoffs.decode text v ∧
    ReadAlike Feature.decode text v ∧
    ReadAlike Response.decode text v ∧
    ∀ (client : Http.Client) (url : RequestUrl) (status : Http.Status) (reason : Http.Reason),
      let response : Http.Response := ⟨status, reason, .whole text.toUTF8⟩
      (client.fetch (.responds response) url).sent ≠ [] →
      status.isRefused = false → status.isBodiless = false →
      ∃ body, (client.fetch (.responds response) url).result = .ok body ∧
        ReadAlike Response.decode text body := by
  have hresponse := Response.agrees_decode.readAlike hread hdistinct
  refine ⟨RequestConfig.agrees_decode.readAlike hread hdistinct,
    ParamValue.agrees_decode.readAlike hread hdistinct,
    QueryParameters.agrees_decode.readAlike hread hdistinct,
    Cutoffs.agrees_decode.readAlike hread hdistinct,
    Feature.agrees_decode.readAlike hread hdistinct, hresponse, ?_⟩
  intro client url status reason response hsent hrefused hbody
  exact ⟨v, fetch_of_read hread hsent hrefused hbody, hresponse⟩

/-- A feature whose members, and those of its properties, descend. -/
def descendingFeature : Value :=
  .object [("properties", .object [("time", .ofUInt32 300), ("Time", .null)]),
    ("id", .ofUInt32 7)]

/-- A response whose members descend; the first of them is no field. -/
def descending : Value :=
  .object [("type", .string "FeatureCollection"), ("features", .array [descendingFeature])]

/-- The response has no point in its numbers and is nested four deep. -/
theorem whole_descending : descending.Whole 4 := by
  have hproperties : (Value.object [("time", .ofUInt32 300), ("Time", .null)]).Whole 1 :=
    .object (List.forall_mem_cons.mpr ⟨.integer 0 _, List.forall_mem_singleton.mpr (.null 0)⟩)
  have hfeature : descendingFeature.Whole 2 :=
    .object (List.forall_mem_cons.mpr ⟨hproperties, List.forall_mem_singleton.mpr (.integer 1 _)⟩)
  have hfeatures : (Value.array [descendingFeature]).Whole 3 :=
    .array (List.forall_mem_singleton.mpr hfeature)
  exact .object
    (List.forall_mem_cons.mpr ⟨.string 3 _, List.forall_mem_singleton.mpr hfeatures⟩)

/-- No object of the response repeats a key. -/
theorem distinct_descending : (Document.ofValue descending).Distinct := by
  have hproperties : (Document.ofValue
      (.object [("time", .ofUInt32 300), ("Time", .null)])).Distinct :=
    .object (by simp [Document.ofMembers])
      (List.forall_mem_cons.mpr ⟨.number _, List.forall_mem_singleton.mpr .null⟩)
  have hfeature : (Document.ofValue descendingFeature).Distinct :=
    .object (by simp [Document.ofMembers])
      (List.forall_mem_cons.mpr ⟨hproperties, List.forall_mem_singleton.mpr (.number _)⟩)
  have hfeatures : (Document.ofValue (.array [descendingFeature])).Distinct :=
    .array (List.forall_mem_singleton.mpr hfeature)
  exact .object (by simp [Document.ofMembers])
    (List.forall_mem_cons.mpr ⟨.string _, List.forall_mem_singleton.mpr hfeatures⟩)

/-- The text, the value, whose members are sorted, and the body of a response give one response. -/
theorem reads_text_as_value_descending :
    let client : Http.Client := ⟨.ofBase "http://h", by decide⟩
    let url : RequestUrl := .build .empty ⟨[300]⟩
    let answer : Http.Response := ⟨.ok, ⟨"OK", by decide⟩, .whole descending.text.toUTF8⟩
    ofText value descending.text = .ok descending.sorted ∧
    (Document.ofText descending.text).root.Distinct ∧
    ∃ response, ofText Response.decode descending.text = .ok response ∧
      ofValue Response.decode descending.sorted = .ok response ∧
      response.features.map Feature.cutoff? = [some 300] ∧
      ∃ body, (client.fetch (.responds answer) url).result = .ok body ∧
        ofValue Response.decode body = .ok response := by
  intro client url answer
  have hdocument := Document.ofText_text whole_descending (by decide)
  have hread : ofText value descending.text = .ok descending.sorted := by
    rw [ofText_eq_ok_iff, hdocument, value, Document.read_ofValue]
    exact ⟨rfl, rfl⟩
  have hdistinct : (Document.ofText descending.text).root.Distinct := by
    rw [hdocument]
    exact distinct_descending
  have hvalue : ((ofValue Response.decode descending.sorted).toOption.map fun response =>
      response.features.map Feature.cutoff?) = some [some 300] := by
    decide +kernel
  have hsent : (client.fetch (.responds answer) url).sent ≠ [] := by
    decide +kernel
  obtain ⟨response, hresponse, hcutoffs⟩ := Option.map_eq_some_iff.mp hvalue
  have hok := toOption_eq_some.mp hresponse
  obtain ⟨-, -, -, -, -, halike, hclient⟩ := reads_text_as_value hread hdistinct
  have htext := (halike response).mpr hok
  obtain ⟨body, hfetch, hbody⟩ := hclient client url .ok ⟨"OK", _⟩ hsent rfl rfl
  exact ⟨hread, hdistinct, response, htext, hok, hcutoffs, body, hfetch, (hbody response).mp htext⟩

end Reading

end Isochrone
