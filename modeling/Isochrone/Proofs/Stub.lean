import Isochrone.Proofs.Feature.Seconds
import Isochrone.Proofs.FeatureIndex.Failure
import Isochrone.Proofs.Number.Rounding
import Isochrone.Proofs.Reading.TextAndValue
import Isochrone.Stub

/-!
# Made-up features

A made-up feature is read as one without an identifier, with the square that it announces and with
its travel time as its only property. It has the time that it was made with if its key is one of
the time properties, and no time otherwise.
-/

namespace Isochrone

open Json (Value Document)

/-- A feature without repeated members is read from its form in a map document, whatever the order
of the members. -/
theorem Feature.WellFormed.decode_toGeoJson_of_distinct {f : Feature} (h : f.WellFormed)
    (hdistinct : (Document.ofValue f.toGeoJson).Distinct) :
    decode (.ofValue f.toGeoJson) = .ok f.withPlainId := by
  have hread : (Document.ofValue f.toGeoJson).read = .ok f.toGeoJson.sorted :=
    Document.read_ofValue _
  rw [← toOption_eq_some, Feature.agrees_decode hread hdistinct, h.decode_toGeoJson]
  rfl

namespace Stub

variable (key : String) (seconds : UInt32)

/-- The side of the square of a travel time. -/
def side : Binary64.Finite := (Binary64.ofRatio false seconds.toNat 3600).finite?.getD (.zero false)

/-- No travel time makes a square that is too large for a number. -/
theorem ofRatio_side : Binary64.ofRatio false seconds.toNat 3600 = .finite (side seconds) := by
  have hbound : seconds.toNat < 2 ^ 32 * 3600 := by
    have := seconds.toNat_lt
    omega
  obtain ⟨x, hx⟩ : ∃ x, Binary64.ofRatio false seconds.toNat 3600 = .finite x :=
    Binary64.exists_ofRatio_eq (by decide) hbound (by decide)
  rw [side, hx]
  rfl

/-- The point with two coordinates. -/
def corner (x y : Binary64.Finite) : Position := ⟨[x, y], Nat.le_refl 2⟩

/-- The closed line around a square that begins at the origin. -/
def ring (side : Binary64.Finite) : List Position :=
  let zero : Binary64.Finite := .zero false
  [corner zero zero, corner side zero, corner side side, corner zero side, corner zero zero]

/-- A square as an area of one part without holes. -/
def square (side : Binary64.Finite) : Geometry :=
  .simple .multiPolygon ([[ring side]] : List (List (List Position))) none .empty

/-- The feature that stands for a travel time under a key. -/
def made : Feature :=
  ⟨none, some (square (side seconds)), SortedMap.empty.insert key (.ofUInt32 seconds)⟩

/-- A made-up feature is written as it is made. -/
theorem toGeoJson_made : (made key seconds).toGeoJson = feature key seconds := by
  rw [feature, ofRatio_side]
  rfl

theorem wellFormed_made : (made key seconds).WellFormed where
  id := nofun
  geometry := by
    rintro g ⟨⟩
    exact .simple ⟨List.forall_mem_nil _, List.forall_mem_nil _⟩
  properties := List.forall_mem_singleton.mpr (.number _)

theorem distinct_feature : (Document.ofValue (feature key seconds)).Distinct := by
  rw [← toGeoJson_made]
  have hgeometry : (Document.ofValue (square (side seconds)).toJson).Distinct := by
    have hcoordinates : (Geometry.nestedJson 3 [[ring (side seconds)]]).Canonical :=
      Geometry.canonical_nestedJson 3 _
    have hkeys : ([.ok "type", .ok "coordinates"] :
        List (Except Json.Fault String)).Nodup := by simp
    refine .object hkeys (List.forall_mem_cons.mpr ⟨.string _, ?_⟩)
    exact List.forall_mem_singleton.mpr (Document.distinct_of_canonical hcoordinates)
  have hproperties : (Document.ofValue (.ofMap (made key seconds).properties)).Distinct :=
    Document.distinct_of_canonical (.object (wellFormed_made key seconds).properties)
  have hkeys : ([.ok "type", .ok "geometry", .ok "properties"] :
      List (Except Json.Fault String)).Nodup := by simp
  refine .object hkeys (List.forall_mem_cons.mpr ⟨.string _, ?_⟩)
  exact List.forall_mem_cons.mpr ⟨hgeometry, List.forall_mem_singleton.mpr hproperties⟩

/-- A made-up feature is read as the feature that it stands for. -/
theorem decode_feature :
    Feature.decode (.ofValue (feature key seconds)) = .ok (made key seconds) := by
  rw [← toGeoJson_made]
  refine (wellFormed_made key seconds).decode_toGeoJson_of_distinct ?_
  rw [toGeoJson_made]
  exact distinct_feature key seconds

/-- A document of made-up features is read as these features. -/
theorem decode_collection (pairs : List (String × UInt32)) :
    Response.decode (.ofValue (collection (pairs.map fun pair => feature pair.1 pair.2))) =
      .ok ⟨pairs.map fun pair => made pair.1 pair.2⟩ := by
  have hfeatures : Reading.list Feature.decode
      (.ofValue (.array (pairs.map fun pair => feature pair.1 pair.2))) =
        .ok (pairs.map fun pair => made pair.1 pair.2) :=
    Reading.list_ofItems fun pair _ => decode_feature pair.1 pair.2
  refine Reading.Record.decode_object ["features"] ?_ rfl
  rw [Reading.Record.readMembers_other (by decide) rfl,
    Reading.Record.readMembers_field (by decide) (by decide)
      (Response.sets_features.set_eq hfeatures _)]
  rfl

/-- Whether a travel time is found under a key. -/
def IsTimeKey (key : String) : Prop := key = "Time" ∨ key = "time"

instance : Decidable (IsTimeKey key) := inferInstanceAs (Decidable (_ ∨ _))

theorem get?_made (other : String) :
    (made key seconds).properties.get? other =
      if other = key then some (.ofUInt32 seconds) else none := by
  rw [made, SortedMap.get?_insert, SortedMap.get?_empty]
  simp only [Std.LawfulEqOrd.compare_eq_iff_eq]

theorem timeValue?_made :
    (made key seconds).timeValue? = if IsTimeKey key then some (.ofUInt32 seconds) else none := by
  have hheld : ∀ other, (made key seconds).held? other =
      if other = key then some (.ofUInt32 seconds) else none := by
    intro other
    rw [Feature.held?, get?_made]
    split <;> rfl
  rw [Feature.timeValue?_eq_or, hheld, hheld]
  by_cases htime : Feature.timeKey = key
  · have hkey : IsTimeKey key := Or.inl htime.symm
    rw [if_pos htime, if_pos hkey, Option.some_or]
  · rw [if_neg htime, Option.none_or]
    refine if_congr ⟨fun hlower => Or.inr hlower.symm, fun hkey => ?_⟩ rfl rfl
    exact (hkey.resolve_left (Ne.symm htime)).symm

variable {key}

/-- Under a time property a feature has the time that it is made with. -/
theorem cutoff?_made (h : IsTimeKey key) : (made key seconds).cutoff? = some seconds := by
  have hwhole : wholeSeconds? (.ofUInt32 seconds) = seconds? seconds.toNat := rfl
  rw [Feature.cutoff?, timeValue?_made, if_pos h, Option.bind_some, hwhole, seconds?_eq_some_iff]

/-- Under another key it has none, and is reported for that. -/
theorem cutoffAt_made (h : ¬ IsTimeKey key) (position : ℕ) :
    (made key seconds).cutoffAt position = .error (.missingTime position) := by
  rw [Feature.cutoffAt, timeValue?_made, if_neg h]

end Stub

end Isochrone
