import Isochrone.Proofs.Feature
import Isochrone.Proofs.Reading.Fields

/-!
# A feature read back from its own form

A feature is written without an identifier if it has none, and with an area even if that is null.
Read from what it is written as it is the same feature, since what was read has nothing that its
own form would lose: no identifier is null, and every value and area is as it is read. So a value
that is read as a feature and written again stays as it is from then on.
-/

namespace Isochrone

open Json (Value Document)

namespace Feature

/-- No feature that is read from a document has null as its identifier. -/
theorem id_ne_null_of_decode {d : Document} {f : Feature} (h : decode d = .ok f) :
    f.id ≠ some .null := by
  refine Reading.Record.decode_invariant (r := record) (P := fun f => f.id ≠ some .null) ?_ nofun h
  intro field d f f' hset hf
  simp only [record] at hset
  split at hset
  · obtain ⟨id, hid, hset⟩ := bind_eq_ok.mp hset
    cases hset
    rintro rfl
    exact Reading.optional_value_ne_null d hid
  · obtain ⟨geometry, -, hset⟩ := bind_eq_ok.mp hset
    cases hset
    exact hf
  · obtain ⟨properties, -, hset⟩ := bind_eq_ok.mp hset
    cases hset
    exact hf

/-- The members of a feature in its own form, in canonical order. -/
theorem WellFormed.sorted_toJson {f : Feature} (h : f.WellFormed) :
    f.toJson.sorted = .object (("geometry", f.geometryJson.sorted) ::
      (f.id.map fun v => ("id", v)).toList ++ [("properties", .ofMap f.properties)]) := by
  have hproperties : (Value.ofMap f.properties).sorted = .ofMap f.properties :=
    (Value.Canonical.object h.properties).sorted_eq
  rw [toJson, Value.sorted, Value.sortedMembers_eq, Value.ofMap]
  cases hid : f.id with
  | none =>
    have hkeys : ["geometry", "properties"].Pairwise fun a b => compare a b = .lt := by decide
    simp only [Option.map_none, Option.toList_none, List.nil_append, List.map_cons, List.map_nil,
      hproperties]
    exact congrArg Value.object (SortedMap.entries_ofList_of_perm (List.Perm.refl _) hkeys)
  | some v =>
    have hkeys : ["geometry", "id", "properties"].Pairwise fun a b => compare a b = .lt := by
      decide
    simp only [Option.map_some, Option.toList_some, List.cons_append, List.nil_append,
      List.map_cons, List.map_nil, hproperties, (h.id v hid).sorted_eq]
    exact congrArg Value.object (SortedMap.entries_ofList_of_perm (.swap _ _ _) hkeys)

/-- A feature without a null identifier is read back from its own form. -/
theorem WellFormed.decode_toJson {f : Feature} (h : f.WellFormed) (hid : f.id ≠ some .null) :
    decode (.ofValue f.toJson.sorted) = .ok f := by
  rw [h.sorted_toJson]
  refine h.decode_members (fun v hv => ?_) fun met g => rfl
  refine Reading.optional_value_of_ne_null (h.id v hv) ?_
  rintro rfl
  exact hid hv

/-- What a value is written as once it was read as a feature, if it is read as one. -/
def rewritten? (v : Value) : Option Value :=
  (Reading.ofValue decode v).toOption.map fun f => f.toJson.sorted

/-- A feature that was read from a value, with its members in an object or in an array and with
others among them, is read again from the value it is written as, and so with the same time. That
value is its own form: read and written once more it stays as it is. -/
theorem survives_toJson {v : Value} {f : Feature} (h : Reading.ofValue decode v = .ok f) :
    (∃ g, Reading.ofValue decode f.toJson.sorted = .ok g ∧ g = f ∧
      g.cutoff? = f.cutoff? ∧ g.timeValue? = f.timeValue?) ∧
    rewritten? v = some f.toJson.sorted ∧ (rewritten? v).bind rewritten? = rewritten? v := by
  have hback : Reading.ofValue decode f.toJson.sorted = .ok f :=
    (wellFormed_of_decode h).decode_toJson (id_ne_null_of_decode h)
  have hwritten : rewritten? v = some f.toJson.sorted := by
    rw [rewritten?, h]
    rfl
  refine ⟨⟨f, hback, rfl, rfl, rfl⟩, hwritten, ?_⟩
  rw [hwritten, Option.bind_some, rewritten?, hback]
  rfl

/-- A feature with a list as its identifier, an area in a collection with a bounding box and members
of its own, a null time beside the time, and a member that no feature has. -/
def patchwork : Value :=
  .object [("note", .string "walk"), ("id", .array [.bool false, .null]),
    ("properties", .object [("time", .ofUInt32 300), ("Time", .null)]),
    ("geometry", .object [("type", .string "GeometryCollection"), ("crs", .null),
      ("geometries", .array [.object [("type", .string "Point"), ("name", .string "stop"),
        ("bbox", .array [Geometry.realJson default]),
        ("coordinates", .array [Geometry.realJson default, .ofUInt32 1])]])])]

/-- It is read, is read again from its own form with the same time, and loses only the member that
no feature has. -/
theorem survives_toJson_patchwork :
    ∃ f, Reading.ofValue decode patchwork = .ok f ∧ f.cutoff? = some 300 ∧
      f.toJson.sorted ≠ patchwork.sorted ∧
      (∃ g, Reading.ofValue decode f.toJson.sorted = .ok g ∧ g = f ∧
        g.cutoff? = f.cutoff? ∧ g.timeValue? = f.timeValue?) ∧
      (rewritten? patchwork).bind rewritten? = rewritten? patchwork := by
  have hevaluated : ((Reading.ofValue decode patchwork).toOption.map fun f =>
      (f.cutoff?, f.toJson.sorted.text == patchwork.sorted.text)) = some (some 300, false) := by
    decide +kernel
  cases hread : Reading.ofValue decode patchwork with
  | error problem =>
    rw [hread] at hevaluated
    cases hevaluated
  | ok f =>
    rw [hread] at hevaluated
    obtain ⟨hcutoff, htext⟩ := Prod.mk.inj (Option.some.inj hevaluated)
    have hne : f.toJson.sorted ≠ patchwork.sorted := by
      intro hsame
      simp [hsame] at htext
    obtain ⟨hback, -, hagain⟩ := survives_toJson hread
    exact ⟨f, rfl, hcutoff, hne, hback, hagain⟩

end Feature

end Isochrone
