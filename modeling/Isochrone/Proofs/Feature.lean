import Isochrone.Feature
import Isochrone.Proofs.Geometry

/-!
# Features read back

A feature that was read holds canonical values and a geometry as it is read. Read from its form
in a map document it is the same feature, except that the identifier is kept only if it is a
string or a number.
-/

namespace Isochrone

open Json (Value Document)

namespace Feature

/-- The values of a feature are as they are read. -/
structure WellFormed (f : Feature) : Prop where
  id : ∀ v, f.id = some v → v.Canonical
  geometry : ∀ g, f.geometry = some g → g.WellFormed
  properties : ∀ entry ∈ f.properties.entries, entry.2.Canonical

/-- Every feature that is read from a document is well formed. -/
theorem wellFormed_of_decode {d : Document} {f : Feature} (h : decode d = .ok f) :
    f.WellFormed := by
  refine Reading.Record.decode_invariant (r := record) ?_ ?_ h
  · intro field d f f' hset hf
    simp only [record] at hset
    split at hset
    · obtain ⟨id, hid, hset⟩ := bind_eq_ok.mp hset
      cases hset
      refine { hf with id := ?_ }
      rintro v rfl
      exact Reading.forall_of_optional (fun _ _ => Reading.canonical_of_value) hid
    · obtain ⟨geometry, hgeometry, hset⟩ := bind_eq_ok.mp hset
      cases hset
      refine { hf with geometry := ?_ }
      rintro g rfl
      exact Reading.forall_of_optional (fun _ _ => Geometry.wellFormed_of_decode) hgeometry
    · obtain ⟨properties, hproperties, hset⟩ := bind_eq_ok.mp hset
      cases hset
      exact { hf with
        properties := Reading.forall_of_map (fun _ _ => Reading.canonical_of_value) hproperties }
  · exact ⟨nofun, nofun, List.forall_mem_nil _⟩

/-- The feature as a map document keeps it. -/
def withPlainId (f : Feature) : Feature := { f with id := f.plainId? }

theorem plainId?_ofValue {f : Feature} {v : Value} (h : f.plainId? = some v) :
    v.Canonical ∧ Reading.optional Reading.value (.ofValue v) = .ok (some v) := by
  have hplain := (Option.filter_eq_some_iff.mp h).2
  cases v with
  | string s => exact ⟨.string s, rfl⟩
  | number n => exact ⟨.number n, rfl⟩
  | _ => cases hplain

/-- The geometry of a feature is read back, or its absence. -/
theorem WellFormed.optional_geometryJson {f : Feature} (h : f.WellFormed) :
    Reading.optional Geometry.decode (.ofValue f.geometryJson.sorted) = .ok f.geometry := by
  rw [geometryJson]
  cases hgeometry : f.geometry with
  | none => rfl
  | some g =>
    have hobject : Reading.optional Geometry.decode (.ofValue g.toJson.sorted) =
        some <$> Geometry.decode (.ofValue g.toJson.sorted) := by
      rw [g.sorted_toJson]
      rfl
    rw [Option.elim_some, hobject, (h.geometry g hgeometry).decode_toJson]
    rfl

theorem sets_id : record.Sets "id" (Reading.optional Reading.value) fun id f => { f with id } :=
  fun _ _ => rfl

theorem sets_geometry : record.Sets "geometry" (Reading.optional Geometry.decode)
    fun geometry f => { f with geometry } :=
  fun _ _ => rfl

theorem sets_properties : record.Sets "properties" (Reading.map Reading.value)
    fun properties f => { f with properties } :=
  fun _ _ => rfl

/-- The members of a feature in a map document, in canonical order. -/
theorem sorted_toGeoJson (f : Feature) (h : f.WellFormed) :
    f.toGeoJson.sorted = .object (("geometry", f.geometryJson.sorted) ::
      (f.plainId?.map fun v => ("id", v)).toList ++
        [("properties", .ofMap f.properties), ("type", .string "Feature")]) := by
  have hproperties : (Value.ofMap f.properties).sorted = .ofMap f.properties :=
    (Value.Canonical.object h.properties).sorted_eq
  rw [toGeoJson, Value.sorted, Value.sortedMembers_eq, Value.ofMap]
  cases hid : f.plainId? with
  | none =>
    have hkeys : ["geometry", "properties", "type"].Pairwise fun a b => compare a b = .lt := by
      decide
    simp only [Option.map_none, Option.toList_none, List.append_nil, List.map_cons, List.map_nil,
      hproperties, Value.sorted]
    exact congrArg Value.object
      (SortedMap.entries_ofList_of_perm (List.perm_append_singleton _ _).symm hkeys)
  | some v =>
    have hkeys : ["geometry", "id", "properties", "type"].Pairwise
        fun a b => compare a b = .lt := by decide
    simp only [Option.map_some, Option.toList_some, List.cons_append, List.nil_append,
      List.map_cons, List.map_nil, hproperties, (plainId?_ofValue hid).1.sorted_eq, Value.sorted]
    refine congrArg Value.object (SortedMap.entries_ofList_of_perm ?_ hkeys)
    exact (List.perm_append_singleton _ _).symm.trans ((List.Perm.swap _ _ _).cons _)

/-- The members of a feature, in canonical order, are read as the feature, whatever identifier and
further member are written with it. -/
theorem WellFormed.decode_members {f : Feature} (h : f.WellFormed) {id : Option Value}
    (hid : ∀ v, id = some v → Reading.optional Reading.value (.ofValue v) = .ok (some v))
    {others : List (String × Value)}
    (hothers : ∀ met g, record.readMembers met (Document.ofMembers others) g = .ok (met, g)) :
    decode (.ofValue (.object (("geometry", f.geometryJson.sorted) ::
      (id.map fun v => ("id", v)).toList ++ ("properties", .ofMap f.properties) :: others))) =
        .ok { f with id } := by
  have hgeometry := sets_geometry.set_eq h.optional_geometryJson
  have hproperties := sets_properties.set_eq (Reading.map_value_ofMap h.properties)
  rw [decode]
  cases hwritten : id with
  | none =>
    refine Reading.Record.decode_object ["properties", "geometry"] ?_ rfl
    rw [Option.map_none, Option.toList_none, List.cons_append,
      Reading.Record.readMembers_field (by decide) (by decide) (hgeometry _), List.nil_append,
      Reading.Record.readMembers_field (by decide) (by decide) (hproperties _), hothers]
    rfl
  | some v =>
    refine Reading.Record.decode_object ["properties", "id", "geometry"] ?_ rfl
    rw [Option.map_some, Option.toList_some, List.cons_append,
      Reading.Record.readMembers_field (by decide) (by decide) (hgeometry _), List.cons_append,
      Reading.Record.readMembers_field (by decide) (by decide)
        (sets_id.set_eq (hid v hwritten) _), List.nil_append,
      Reading.Record.readMembers_field (by decide) (by decide) (hproperties _), hothers]

/-- A feature that was read is read back from its canonical form in a map document. -/
theorem WellFormed.decode_toGeoJson {f : Feature} (h : f.WellFormed) :
    decode (.ofValue f.toGeoJson.sorted) = .ok f.withPlainId := by
  rw [f.sorted_toGeoJson h]
  refine h.decode_members (fun v hv => (plainId?_ofValue hv).2) fun met g => ?_
  rw [Reading.Record.readMembers_other (by decide) rfl]
  rfl

end Feature

theorem Response.sets_features : record.Sets "features" (Reading.list Feature.decode)
    fun features _ => ⟨features⟩ :=
  fun _ _ => rfl

end Isochrone
