import Isochrone.Proofs.Feature
import Isochrone.Proofs.Reading.Fields

/-!
# What objects are read as

An object is read as a feature by its identifier, area and properties, each of which may be absent.
A null identifier and a null area are as good as none. Null properties are not: they are the one
thing that keeps an object from being read whose members are otherwise those of a feature, and so
the one thing that keeps such objects from being read as a response.
-/

namespace Isochrone

open Json (Value)

theorem Geometry.decode_null_ne_ok (g : Geometry) : decode .null ≠ .ok g := by
  intro h
  cases h

namespace Feature

/-- What is wrong with null properties. -/
def nullProperties : Reading.Problem := .unsuitable (.kind .null .map)

/-- The members of an object are such as a feature has: its area is null or can be read, and its
properties are null or an object. -/
structure Admits (members : SortedMap String Value) : Prop where
  geometry : ∀ v, members.get? "geometry" = some v →
    v = .null ∨ ∃ g, Geometry.decode (.ofValue v) = .ok g
  properties : ∀ v, members.get? "properties" = some v → v = .null ∨ ∃ p, v = .ofMap p

/-- The feature that an object stands for, where null members count as absent. -/
def ofObject (members : SortedMap String Value) : Feature where
  id := (members.get? "id").filter fun v => !v.isNull
  geometry := (members.get? "geometry").bind fun v => (Geometry.decode (.ofValue v)).toOption
  properties := match members.get? "properties" with
    | some (.object properties) => .ofList properties
    | _ => .empty

theorem isField_iff {name : String} :
    record.isField name = true ↔ name = "id" ∨ name = "geometry" ∨ name = "properties" := by
  simp [Reading.Record.isField, record]

/-- The identifier is the first field of a feature. -/
theorem hasField_id : record.HasField "id" (Reading.optional Reading.value) Feature.id where
  isField := isField_iff.mpr (Or.inl rfl)
  get_set := sets_id.get_set fun _ _ => rfl
  get_set_other hfield hne hset := by
    obtain rfl | rfl | rfl := isField_iff.mp hfield
    · exact absurd rfl hne
    · exact sets_geometry.get_set_other (fun _ _ => rfl) hset
    · exact sets_properties.get_set_other (fun _ _ => rfl) hset

/-- The area is the second field of a feature. -/
theorem hasField_geometry :
    record.HasField "geometry" (Reading.optional Geometry.decode) Feature.geometry where
  isField := isField_iff.mpr (Or.inr (Or.inl rfl))
  get_set := sets_geometry.get_set fun _ _ => rfl
  get_set_other hfield hne hset := by
    obtain rfl | rfl | rfl := isField_iff.mp hfield
    · exact sets_id.get_set_other (fun _ _ => rfl) hset
    · exact absurd rfl hne
    · exact sets_properties.get_set_other (fun _ _ => rfl) hset

/-- The properties are the third field of a feature. -/
theorem hasField_properties :
    record.HasField "properties" (Reading.map Reading.value) Feature.properties where
  isField := isField_iff.mpr (Or.inr (Or.inr rfl))
  get_set := sets_properties.get_set fun _ _ => rfl
  get_set_other hfield hne hset := by
    obtain rfl | rfl | rfl := isField_iff.mp hfield
    · exact sets_id.get_set_other (fun _ _ => rfl) hset
    · exact sets_geometry.get_set_other (fun _ _ => rfl) hset
    · exact absurd rfl hne

section Object

variable {members : SortedMap String Value} {f : Feature}

/-- The identifier of a feature is its member, unless that is null. -/
theorem id_of_decode (hcanonical : (Value.ofMap members).Canonical)
    (hread : decode (.ofValue (.ofMap members)) = .ok f) :
    f.id = (members.get? "id").filter fun v => !v.isNull := by
  cases hmember : members.get? "id" with
  | none => exact hasField_id.of_decode_absent hread hmember
  | some v =>
    have hv := hcanonical.of_mem_members _ (SortedMap.get?_eq_some_iff.mp hmember)
    have hvalue := hasField_id.of_decode hread hmember
    rw [Reading.optional_value_ofValue hv] at hvalue
    exact (Except.ok.inj hvalue).symm

/-- The area of a feature is what its member is read as. -/
theorem geometry_of_decode (hread : decode (.ofValue (.ofMap members)) = .ok f) :
    f.geometry = (members.get? "geometry").bind fun v =>
      (Geometry.decode (.ofValue v)).toOption := by
  cases hmember : members.get? "geometry" with
  | none => exact hasField_geometry.of_decode_absent hread hmember
  | some v =>
    exact Reading.toOption_of_optional Geometry.decode_null_ne_ok
      (hasField_geometry.of_decode hread hmember)

section Admitted

variable (hcanonical : (Value.ofMap members).Canonical) (hadmits : Admits members)
include hcanonical hadmits

/-- The properties of a feature are those of its object, and never come from null. -/
theorem properties_of_decode (hread : decode (.ofValue (.ofMap members)) = .ok f) :
    f.properties = (ofObject members).properties ∧ members.get? "properties" ≠ some .null := by
  rw [ofObject]
  cases hmember : members.get? "properties" with
  | none => exact ⟨hasField_properties.of_decode_absent hread hmember, nofun⟩
  | some v =>
    have hmap := hasField_properties.of_decode hread hmember
    obtain rfl | ⟨p, rfl⟩ := hadmits.properties v hmember
    · cases hmap
    · have hp := hcanonical.of_mem_members _ (SortedMap.get?_eq_some_iff.mp hmember)
      rw [Reading.map_value_ofMap hp.of_mem_members] at hmap
      exact ⟨(Except.ok.inj hmap).symm.trans p.ofList_entries.symm, nofun⟩

/-- An object whose members are those of a feature is read as the feature that it stands for, if it
is read; its properties are not null then. -/
theorem eq_ofObject_of_decode (hread : decode (.ofValue (.ofMap members)) = .ok f) :
    f = ofObject members ∧ members.get? "properties" ≠ some .null := by
  obtain ⟨hproperties, hnull⟩ := properties_of_decode hcanonical hadmits hread
  refine ⟨?_, hnull⟩
  cases f
  rw [ofObject, mk.injEq]
  exact ⟨id_of_decode hcanonical hread, geometry_of_decode hread, hproperties⟩

/-- Only null properties keep such an object from being read. -/
theorem failsOnly_decode :
    Reading.FailsOnly
      (fun problem => problem = nullProperties ∧ members.get? "properties" = some .null)
      (decode (.ofValue (.ofMap members))) := by
  refine Reading.Record.failsOnly_decode ?_ members.nodup_keys rfl
  rintro ⟨name, v⟩ hentry hfield s
  have hmember := SortedMap.get?_eq_some_iff.mpr hentry
  have hv := hcanonical.of_mem_members _ hentry
  obtain rfl | rfl | rfl := isField_iff.mp hfield
  · rw [sets_id, Reading.optional_value_ofValue hv]
    exact Reading.failsOnly_ok _
  · rw [sets_geometry]
    refine Reading.FailsOnly.functor_map ?_ _
    obtain rfl | ⟨g, hg⟩ := hadmits.geometry v hmember
    · exact Reading.failsOnly_ok none
    · rw [Reading.optional_of_ok Geometry.decode_null_ne_ok hg]
      exact Reading.failsOnly_ok (some g)
  · rw [sets_properties]
    refine Reading.FailsOnly.functor_map ?_ _
    obtain rfl | ⟨p, rfl⟩ := hadmits.properties v hmember
    · rintro _ ⟨⟩
      exact ⟨rfl, hmember⟩
    · rw [Reading.map_value_ofMap hv.of_mem_members]
      exact Reading.failsOnly_ok p

end Admitted

end Object

end Feature

namespace Response

/-- A document lists objects as its features, with members such as a feature has. -/
structure Lists (body : Value) (objects : List (SortedMap String Value)) : Prop where
  canonical : body.Canonical
  features : body.member? "features" = some (.array (objects.map .ofMap))
  admits : ∀ members ∈ objects, Feature.Admits members

theorem isField_iff {name : String} : record.isField name = true ↔ name = "features" := by
  simp [Reading.Record.isField, record]

theorem hasField_features :
    record.HasField "features" (Reading.list Feature.decode) Response.features where
  isField := isField_iff.mpr rfl
  get_set := sets_features.get_set fun _ _ => rfl
  get_set_other hfield hne _ := absurd (isField_iff.mp hfield) hne

section Lists

variable {body : Value} {objects : List (SortedMap String Value)} (h : Lists body objects)
include h

/-- The list of the objects is a member of the document, and they are as they are read. -/
theorem Lists.exists_members :
    ∃ members : SortedMap String Value, body = .ofMap members ∧
      members.get? "features" = some (.array (objects.map .ofMap)) ∧
      ∀ object ∈ objects, (Value.ofMap object).Canonical := by
  obtain ⟨hcanonical, hfeatures, -⟩ := h
  cases hcanonical with
  | @object members hmembers =>
    refine ⟨members, rfl, hfeatures, fun object hobject => ?_⟩
    have hlist := hmembers _ (SortedMap.get?_eq_some_iff.mp hfeatures)
    cases hlist with
    | array hitems => exact hitems _ (List.mem_map_of_mem hobject)
  | _ => cases hfeatures

/-- Only null properties keep the objects from being read. -/
theorem Lists.failsOnly_decode :
    Reading.FailsOnly (fun problem => problem = Feature.nullProperties ∧
      ∃ object ∈ objects, object.get? "properties" = some .null)
      (decode (.ofValue body)) := by
  obtain ⟨members, rfl, hfeatures, hobjects⟩ := h.exists_members
  have hnames : "features" ∈ members.entries.map Prod.fst :=
    List.mem_map_of_mem (SortedMap.get?_eq_some_iff.mp hfeatures)
  refine Reading.Record.failsOnly_decode ?_ members.nodup_keys ?_
  · rintro ⟨name, v⟩ hentry hfield s
    obtain rfl := isField_iff.mp hfield
    rw [SortedMap.get?_eq_some_iff.mpr hentry] at hfeatures
    cases hfeatures
    refine (Reading.failsOnly_list fun v hv => ?_).functor_map _
    obtain ⟨object, hobject, rfl⟩ := List.mem_map.mp hv
    intro problem hproblem
    have hfailed := Feature.failsOnly_decode (hobjects object hobject) (h.admits object hobject)
      problem hproblem
    exact ⟨hfailed.1, object, hobject, hfailed.2⟩
  · simpa [Reading.Record.lacks, record] using hnames

/-- The objects are read as the features that they stand for, if they are read; none of them has
null properties then. -/
theorem Lists.eq_of_decode {response : Response} (hread : decode (.ofValue body) = .ok response) :
    response = ⟨objects.map Feature.ofObject⟩ ∧
      ∀ object ∈ objects, object.get? "properties" ≠ some .null := by
  obtain ⟨members, rfl, hfeatures, hobjects⟩ := h.exists_members
  have hlist := Reading.forall₂_of_list (hasField_features.of_decode hread hfeatures)
  rw [List.forall₂_map_left_iff] at hlist
  have heach : List.Forall₂ (fun object f =>
      object.get? "properties" ≠ some .null ∧ Feature.ofObject object = f)
      objects response.features := by
    have hsuited := (List.forall₂_and_left _ _).mpr
      ⟨fun object hobject => And.intro (hobjects object hobject) (h.admits object hobject), hlist⟩
    refine hsuited.imp fun object f ⟨⟨hcanonical, hadmits⟩, hf⟩ => ?_
    obtain ⟨rfl, hnull⟩ := Feature.eq_ofObject_of_decode hcanonical hadmits hf
    exact ⟨hnull, rfl⟩
  obtain ⟨hnull, hfeatures⟩ := (List.forall₂_and_left _ _).mp heach
  rw [← List.forall₂_map_left_iff, List.forall₂_eq_eq_eq] at hfeatures
  cases response
  exact ⟨congrArg Response.mk hfeatures.symm, hnull⟩

/-- Objects without null properties are read. -/
theorem Lists.decode_eq_ok (hnull : ∀ object ∈ objects, object.get? "properties" ≠ some .null) :
    decode (.ofValue body) = .ok ⟨objects.map Feature.ofObject⟩ := by
  obtain ⟨response, hread⟩ := h.failsOnly_decode.exists_ok fun problem hproblem => by
    obtain ⟨-, object, hobject, hproperties⟩ := hproblem
    exact hnull object hobject hproperties
  rw [hread, (h.eq_of_decode hread).1]

/-- Objects are not read if one of them has null properties. -/
theorem Lists.decode_eq_error
    (hnull : ∃ object ∈ objects, object.get? "properties" = some .null) :
    decode (.ofValue body) = .error Feature.nullProperties := by
  obtain ⟨object, hobject, hproperties⟩ := hnull
  obtain ⟨problem, hproblem, rfl, -⟩ := h.failsOnly_decode.exists_error fun response hread =>
    (h.eq_of_decode hread).2 object hobject hproperties
  exact hproblem

end Lists

end Response

end Isochrone
