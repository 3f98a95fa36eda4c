import Isochrone.Proofs.FeatureIndex

/-!
# An index read back from its map document

The map document of an index lists one feature for each time, the smallest first. Read as a
response and indexed again it gives the index back, except that a feature keeps its identifier
only if that is a string or a number.
-/

namespace Isochrone

open Json (Value Document)

/-- What a map document keeps of a feature: everything but an identifier that is neither a
string nor a number. -/
structure Feature.Kept (f g : Feature) : Prop where
  geometry : g.geometry = f.geometry
  properties : g.properties = f.properties
  id : ∀ v, g.id = some v ↔ f.id = some v ∧ ((∃ s, v = .string s) ∨ ∃ n, v = .number n)

theorem Feature.kept_withPlainId (f : Feature) : f.Kept f.withPlainId := by
  refine ⟨rfl, rfl, fun v => ?_⟩
  rw [withPlainId, plainId?, Option.filter_eq_some_iff]
  cases v <;> simp

/-- Every feature of a response that is read from a document is well formed. -/
theorem Response.wellFormed_of_decode {d : Document} {response : Response}
    (h : decode d = .ok response) : ∀ f ∈ response.features, f.WellFormed := by
  refine Reading.Record.decode_invariant (r := record)
    (P := fun response => ∀ f ∈ response.features, f.WellFormed) ?_ (List.forall_mem_nil _) h
  intro field d response response' hset _
  obtain ⟨features, hfeatures, rfl⟩ := map_eq_ok.mp hset
  exact Reading.forall_of_list (fun _ _ => Feature.wellFormed_of_decode) hfeatures

namespace FeatureIndex

/-- The canonical form of the map document. -/
theorem sorted_toGeoJson (index : FeatureIndex) :
    index.toGeoJson.sorted = .object
      [("features", .array (index.toMap.values.map fun f => f.toGeoJson.sorted)),
        ("type", .string "FeatureCollection")] := by
  have hkeys : ["features", "type"].Pairwise fun a b => compare a b = .lt := by decide
  rw [toGeoJson, Value.sorted, Value.sortedMembers_eq, Value.ofMap]
  simp only [List.map_cons, List.map_nil, Value.sorted, Value.sortedItems_eq, List.map_map]
  exact congrArg Value.object (SortedMap.entries_ofList_of_perm (.swap _ _ _) hkeys)

/-- The features of an index as its map document keeps them. -/
def withPlainIds (index : FeatureIndex) : FeatureIndex :=
  ⟨index.toMap.mapValues Feature.withPlainId⟩

/-- The map document is read as a response of the features that it keeps. -/
theorem decode_toGeoJson {index : FeatureIndex} (h : ∀ entry ∈ index.toList, entry.2.WellFormed) :
    Response.decode (.ofValue index.toGeoJson.sorted) = .ok ⟨index.withPlainIds.toMap.values⟩ := by
  have hfeatures : ∀ f ∈ index.toMap.values,
      Feature.decode (.ofValue f.toGeoJson.sorted) = .ok f.withPlainId := by
    intro f hf
    obtain ⟨entry, hentry, rfl⟩ := List.mem_map.mp hf
    exact (h entry hentry).decode_toGeoJson
  have hvalues : index.toMap.values.map Feature.withPlainId = index.withPlainIds.toMap.values := by
    simp [withPlainIds, SortedMap.mapValues, SortedMap.values]
  have hset := Response.sets_features.set_eq (Reading.list_ofItems hfeatures)
  rw [sorted_toGeoJson, ← hvalues]
  refine Reading.Record.decode_object ["features"] ?_ rfl
  rw [Reading.Record.readMembers_field (by decide) (by decide) (hset _),
    Reading.Record.readMembers_other (by decide) rfl]
  rfl

/-- The index of a response that was read survives its map document. The document lists one
feature for each time in ascending order; read again as a response and indexed, without a
warning, it gives the same times, and under each the same feature but for identifiers that a map
document does not admit. -/
theorem survives_toGeoJson {d : Document} {response : Response} {index : FeatureIndex}
    (hread : Response.decode d = .ok response)
    (hindex : (ofResponse response).outcome = .ok index) :
    (∃ features, index.toGeoJson.member? "features" = some (.array features) ∧
      List.Forall₂ (fun seconds v => ∃ f, index.get? seconds = some f ∧
        f.cutoff? = some seconds ∧ v = f.toGeoJson) index.cutoffs features) ∧
    index.cutoffs.Pairwise (· < ·) ∧
    ∃ response' index',
      Reading.ofValue Response.decode index.toGeoJson.sorted = .ok response' ∧
      ofResponse response' = ⟨[], .ok index'⟩ ∧
      List.Forall₂ (fun entry entry' => entry.1 = entry'.1 ∧ entry.2.Kept entry'.2)
        index.toList index'.toList := by
  have hmem := mem_of_ofResponse hindex
  have hwellFormed : ∀ entry ∈ index.toList, entry.2.WellFormed := fun entry hentry =>
    Response.wellFormed_of_decode hread entry.2 (hmem entry hentry).1
  refine ⟨⟨index.toMap.values.map Feature.toGeoJson, rfl, ?_⟩, index.cutoffs_ascending,
    ⟨index.withPlainIds.toMap.values⟩, index.withPlainIds, decode_toGeoJson hwellFormed,
    ofResponse_entries ?_, ?_⟩
  · rw [cutoffs, SortedMap.keys, SortedMap.values, List.map_map, List.forall₂_map_left_iff,
      List.forall₂_map_right_iff, List.forall₂_same]
    exact fun entry hentry =>
      ⟨entry.2, SortedMap.get?_eq_some_iff.mpr hentry, (hmem entry hentry).2, rfl⟩
  · intro entry' hentry'
    obtain ⟨entry, hentry, rfl⟩ := List.mem_map.mp hentry'
    exact (hmem entry hentry).2
  · rw [toList, toList, withPlainIds, SortedMap.mapValues, List.forall₂_map_right_iff,
      List.forall₂_same]
    exact fun entry _ => ⟨rfl, entry.2.kept_withPlainId⟩

/-- A response whose later time comes first: an area in two collections, each with members of its
own, a bounding box, and an identifier that no map document admits. -/
def nestedAreas : Value :=
  .object [("features", .array [
    .object [("id", .bool true), ("properties", .object [("Time", .string " 600 ")]),
      ("geometry", .object [("type", .string "GeometryCollection"), ("coordinates", .null),
        ("geometries", .array [.object [("type", .string "GeometryCollection"),
          ("bbox", .array [Geometry.realJson default]), ("geometries", .array [])]])])],
    .object [("id", .string "a"), ("properties", .object [("time", .ofUInt32 300)])]])]

/-- It is read and indexed, and its index survives. -/
theorem survives_toGeoJson_nestedAreas :
    ∃ response index, Response.decode (.ofValue nestedAreas) = .ok response ∧
      (ofResponse response).outcome = .ok index ∧ index.cutoffs = [300, 600] ∧
      ∃ response' index', Reading.ofValue Response.decode index.toGeoJson.sorted = .ok response' ∧
        ofResponse response' = ⟨[], .ok index'⟩ ∧
        List.Forall₂ (fun entry entry' => entry.1 = entry'.1 ∧ entry.2.Kept entry'.2)
          index.toList index'.toList := by
  have hevaluated : ((Response.decode (.ofValue nestedAreas)).toOption.bind fun response =>
      (ofResponse response).outcome.toOption.map cutoffs) = some [300, 600] := by
    decide +kernel
  cases hread : Response.decode (.ofValue nestedAreas) with
  | error problem =>
    rw [hread] at hevaluated
    cases hevaluated
  | ok response =>
    cases hindex : (ofResponse response).outcome with
    | error e =>
      simp [hread, hindex, Except.toOption] at hevaluated
    | ok index =>
      have hcutoffs : index.cutoffs = [300, 600] := by
        simpa [hread, hindex, Except.toOption] using hevaluated
      exact ⟨response, index, rfl, hindex, hcutoffs, (survives_toGeoJson hread hindex).2.2⟩

end FeatureIndex

end Isochrone
