import Isochrone.Geometry
import Isochrone.Proofs.Reading

/-!
# Geometries read back

A geometry that was read keeps the members that its kind does not use, in canonical form. Its
JSON form in canonical order is read as the same geometry, through any nesting of collections:
what is written of the kind is found under its own keys, and all else stays among the other
members.
-/

namespace Isochrone.Geometry

open Json (Value Document)
open Reading (GeometryProblem)

/-- The other members of a geometry whose content stands under a key: they are canonical, and
none of them is used. -/
structure Spare (content : String) (others : SortedMap String Value) : Prop where
  unused : ∀ entry ∈ others.entries, entry.1 ≠ "type" ∧ entry.1 ≠ "bbox" ∧ entry.1 ≠ content
  canonical : ∀ entry ∈ others.entries, entry.2.Canonical

/-- The other members of a geometry, and of those within it, are spare. -/
inductive WellFormed : Geometry → Prop where
  | simple {kind : Kind} {coordinates : Nested kind.depth} {bbox : Option (List Binary64.Finite)}
    {others : SortedMap String Value} (hothers : Spare "coordinates" others) :
    WellFormed (.simple kind coordinates bbox others)
  | collection {geometries : List Geometry} {bbox : Option (List Binary64.Finite)}
    {others : SortedMap String Value} (hgeometries : ∀ g ∈ geometries, WellFormed g)
    (hothers : Spare "geometries" others) : WellFormed (.collection geometries bbox others)

/-- Read a geometry from the map of its members. -/
def ofMap (map : SortedMap String Value) : Except GeometryProblem Geometry := do
  let bbox ← readBbox (map.get? "bbox")
  let name ← readName (map.get? "type")
  if name = collectionName then
    match map.get? "geometries" with
    | none => .error (.missingMember "geometries")
    | some (.array items) => do
      let geometries ← ofItems items
      return .collection geometries bbox (others map "geometries")
    | some v => .error (.geometriesNotArray v)
  else match Kind.ofName? name with
    | none => .error (.unknownType name)
    | some kind =>
      match map.get? "coordinates" with
      | none => .error (.missingMember "coordinates")
      | some v => do
        let coordinates ← readNested kind.depth v
        return .simple kind coordinates bbox (others map "coordinates")

/-- Only the map of the members matters. -/
theorem ofMembers_eq (members : List (String × Value)) :
    ofMembers members = ofMap (.ofList members) := by
  rw [ofMembers, ofMap]
  refine bind_congr fun bbox => bind_congr fun name => ?_
  -- the two differ only in what the recursion keeps about the items of a collection
  split
  · split <;> rename_i h <;> simp only [h]
  · rfl

/-- What is left of a document without the members of a geometry is spare beside them. -/
theorem spare_others {map : SortedMap String Value}
    (h : ∀ entry ∈ map.entries, entry.2.Canonical) (content : String) :
    Spare content (others map content) := by
  constructor
  · intro entry hentry
    have hkey := (List.mem_filter.mp hentry).2
    simpa [and_assoc] using hkey
  · exact fun entry hentry => h entry (List.mem_filter.mp hentry).1

/-- What is read from the map of the members of an object, given that the geometries which stand
in an array among them are well formed. -/
theorem wellFormed_of_ofMap {map : SortedMap String Value} {g : Geometry}
    (hcanonical : ∀ entry ∈ map.entries, entry.2.Canonical)
    (hitems : ∀ items gs, map.get? "geometries" = some (.array items) →
      ofItems items = .ok gs → ∀ g ∈ gs, g.WellFormed)
    (h : ofMap map = .ok g) : g.WellFormed := by
  simp only [ofMap, bind_eq_ok] at h
  obtain ⟨bbox, -, name, -, h⟩ := h
  split at h
  · split at h
    · cases h
    · obtain ⟨gs, hgs, h⟩ := bind_eq_ok.mp h
      cases h
      exact .collection (hitems _ gs ‹_› hgs) (spare_others hcanonical "geometries")
    · cases h
  · split at h
    · cases h
    · split at h
      · cases h
      · obtain ⟨coordinates, -, h⟩ := bind_eq_ok.mp h
        cases h
        exact .simple (spare_others hcanonical "coordinates")

/-- Every geometry that is read from an object, or from the items of an array, is well formed. -/
def ReadsWell : Value → Prop
  | .object members => ∀ g, ofMembers members = .ok g → g.WellFormed
  | .array items => ∀ gs, ofItems items = .ok gs → ∀ g ∈ gs, g.WellFormed
  | _ => True

/-- An array reads well if its items do. -/
theorem readsWell_array {items : List Value} (h : ∀ item ∈ items, ReadsWell item) :
    ReadsWell (.array items) := by
  induction items with
  | nil =>
    intro gs hgs
    rw [ofItems] at hgs
    cases hgs
    exact List.forall_mem_nil _
  | cons item items ih =>
    obtain ⟨hitem, hitems⟩ := List.forall_mem_cons.mp h
    intro gs hgs
    cases item with
    | object members =>
      simp only [ofItems, bind_eq_ok] at hgs
      obtain ⟨first, hfirst, rest, hrest, hgs⟩ := hgs
      cases hgs
      exact List.forall_mem_cons.mpr ⟨hitem first hfirst, ih hitems rest hrest⟩
    | _ =>
      rw [ofItems] at hgs
      · cases hgs
      · simp

/-- Every canonical value reads well, whatever is nested in it. -/
theorem readsWell_of_canonical {v : Value} (h : v.Canonical) : ReadsWell v := by
  induction h with
  | array h ih => exact readsWell_array ih
  | @object members h ih =>
    -- the items of a collection stand in an array among the members
    intro g hg
    rw [ofMembers_eq, SortedMap.ofList_entries] at hg
    refine wellFormed_of_ofMap h (fun items gs hitems hgs => ?_) hg
    exact ih _ (SortedMap.get?_eq_some_iff.mp hitems) gs hgs
  | _ => exact trivial

/-- Every geometry that is read from a document is well formed. -/
theorem wellFormed_of_decode {d : Document} {g : Geometry} (h : decode d = .ok g) :
    g.WellFormed := by
  rw [decode, bind_eq_ok] at h
  obtain ⟨members, hmembers, h⟩ := h
  have hcanonical : (Value.object members.entries).Canonical :=
    .object (Reading.forall_of_map (fun _ _ => Reading.canonical_of_value) hmembers)
  split at h
  · cases h
    exact readsWell_of_canonical hcanonical _ ‹_›
  · cases h

/-- A list of coordinates is canonical as it is written. -/
theorem canonical_reals (xs : List Binary64.Finite) :
    (Value.array (xs.map realJson)).Canonical := by
  refine .array fun item hitem => ?_
  obtain ⟨x, -, rfl⟩ := List.mem_map.mp hitem
  exact .number _

/-- Coordinates are read from what they are written as. -/
theorem reals?_realJson (xs : List Binary64.Finite) : reals? (xs.map realJson) = some xs := by
  induction xs with
  | nil => rfl
  | cons x xs ih =>
    rw [List.map_cons, reals?, ih]
    rfl

/-- A box is read from what it is written as, and none where there is none. -/
theorem readBbox_reals (bbox : Option (List Binary64.Finite)) :
    readBbox (bbox.map fun b => .array (b.map realJson)) = .ok bbox := by
  cases bbox with
  | none => rfl
  | some b =>
    rw [Option.map_some, readBbox, reals?_realJson]
    rfl

/-- A position is read from its coordinates. -/
theorem readPosition_json (position : Position) :
    readPosition (.array (position.coordinates.map realJson)) = .ok position := by
  have hreals := reals?_realJson position.coordinates
  rw [readPosition, dif_pos (by rw [List.length_map]; exact position.two_le)]
  split
  · rename_i xs hxs
    obtain rfl : position.coordinates = xs := Option.some.inj (hreals.symm.trans hxs)
    rfl
  · rename_i hnone
    rw [hreals] at hnone
    cases hnone

/-- Nested positions are canonical as they are written, by induction on the depth. -/
theorem canonical_nestedJson :
    (depth : Nat) → (nested : Nested depth) → (nestedJson depth nested).Canonical
  | 0, position => canonical_reals position.coordinates
  | n + 1, parts => by
    refine .array fun item hitem => ?_
    obtain ⟨part, -, rfl⟩ := List.mem_map.mp hitem
    exact canonical_nestedJson n part

/-- Parts that are read one by one are read as a list. -/
theorem mapM_readNested {n : Nat}
    (h : ∀ part : Nested n, readNested n (nestedJson n part) = .ok part)
    (parts : List (Nested n)) : (parts.map (nestedJson n)).mapM (readNested n) = .ok parts := by
  have hread : readNested n ∘ nestedJson n = pure := funext h
  rw [List.mapM_map, hread, List.mapM_pure, List.map_id']
  rfl

/-- Nested positions are read back, however deep. -/
theorem readNested_nestedJson :
    (depth : Nat) → (nested : Nested depth) →
      readNested depth (nestedJson depth nested) = .ok nested
  | 0, position => readPosition_json position
  | n + 1, parts => mapM_readNested (readNested_nestedJson n) parts

/-- The members of a geometry whose content stands under a key. -/
def membersOf (name content : String) (v : Value) (bbox : Option (List Binary64.Finite))
    (others : SortedMap String Value) : List (String × Value) :=
  ("type", .string name) :: (content, v) :: tailMembers bbox others

/-- The members of a geometry. -/
def members : Geometry → List (String × Value)
  | .simple kind coordinates bbox others =>
    membersOf kind.name "coordinates" (nestedJson kind.depth coordinates) bbox others
  | .collection geometries bbox others =>
    membersOf collectionName "geometries" (.array (listJson geometries)) bbox others

/-- A geometry is written as the object of its members. -/
theorem toJson_eq (g : Geometry) : g.toJson = .object g.members := by
  cases g <;> rw [toJson] <;> rfl

/-- The canonical form of a geometry is the map of its members in canonical form. -/
theorem sorted_toJson (g : Geometry) :
    g.toJson.sorted = .ofMap (.ofList (Value.sortedMembers g.members)) := by
  rw [toJson_eq, Value.sorted]

section Members

variable {name content : String} {v : Value} {bbox : Option (List Binary64.Finite)}
  {others : SortedMap String Value}

/-- What follows the content is the bounding box, and then the other members. -/
theorem mem_tailMembers {entry : String × Value} (h : entry ∈ tailMembers bbox others) :
    (entry.1 = "bbox" ∧ entry.2.Canonical) ∨ entry ∈ others.entries := by
  refine (List.mem_append.mp h).imp_left fun hbbox => ?_
  obtain ⟨b, -, rfl⟩ := Option.map_eq_some_iff.mp (Option.mem_toList.mp hbbox)
  exact ⟨rfl, canonical_reals b⟩

/-- All members but the content are canonical as they are written. -/
theorem sortedMembers_membersOf (hothers : Spare content others) :
    Value.sortedMembers (membersOf name content v bbox others) =
      membersOf name content v.sorted bbox others := by
  have htail : ∀ entry ∈ tailMembers bbox others, entry.2.sorted = entry.2 := by
    intro entry hentry
    rcases mem_tailMembers hentry with ⟨-, hcanonical⟩ | hother
    · exact hcanonical.sorted_eq
    · exact (hothers.canonical entry hother).sorted_eq
  rw [membersOf, membersOf, Value.sortedMembers, Value.sortedMembers,
    Value.sortedMembers_eq_self htail]
  rfl

variable (hothers : Spare content others) (hcontent : content ≠ "type" ∧ content ≠ "bbox")
include hothers

/-- Spare members have none of the names that a geometry takes for itself. -/
theorem Spare.get?_eq_none {key : String} (h : key = "type" ∨ key = "bbox" ∨ key = content) :
    others.get? key = none := by
  refine SortedMap.lookupEntry_eq_none fun entry hentry he => ?_
  obtain ⟨htype, hbbox, hcontent⟩ := hothers.unused entry hentry
  obtain rfl := Std.LawfulEqCmp.eq_of_compare he
  rcases h with h | h | h
  · exact htype h
  · exact hbbox h
  · exact hcontent h

/-- Behind the name and the content of a geometry stand its box and the spare members. -/
theorem lookup_tailMembers (key : String) :
    SortedMap.lookupEntry key (tailMembers bbox others) =
      if key = "bbox" then bbox.map fun b => .array (b.map realJson) else others.get? key := by
  rw [tailMembers, SortedMap.lookupEntry_append]
  by_cases hkey : key = "bbox"
  · subst hkey
    have hnone : SortedMap.lookupEntry "bbox" others.entries = none :=
      hothers.get?_eq_none (.inr (.inl rfl))
    rw [hnone, Option.or_none, if_pos rfl]
    cases bbox with
    | none => rfl
    | some b => rfl
  · have hnone : SortedMap.lookupEntry key
        (bbox.map fun b => ("bbox", Value.array (b.map realJson))).toList = none := by
      refine SortedMap.lookupEntry_eq_none fun entry hentry he => hkey ?_
      obtain ⟨b, -, rfl⟩ := Option.map_eq_some_iff.mp (Option.mem_toList.mp hentry)
      exact Std.LawfulEqCmp.eq_of_compare he
    rw [hnone, Option.none_or, if_neg hkey]
    rfl

include hcontent

/-- No key stands twice. -/
theorem membersOf_ne : (membersOf name content v bbox others).Pairwise fun a b => a.1 ≠ b.1 := by
  have htail : ∀ entry ∈ tailMembers bbox others, "type" ≠ entry.1 ∧ content ≠ entry.1 := by
    intro entry hentry
    rcases mem_tailMembers hentry with ⟨hbbox, -⟩ | hother
    · rw [hbbox]
      exact ⟨by decide, hcontent.2⟩
    · obtain ⟨htype, -, hne⟩ := hothers.unused entry hother
      exact ⟨htype.symm, hne.symm⟩
  have hbbox : (tailMembers bbox others).Pairwise fun a b => a.1 ≠ b.1 := by
    refine List.pairwise_append.mpr ⟨?_, others.keys_ne, fun entry hentry other hother => ?_⟩
    · cases bbox with
      | none => exact List.Pairwise.nil
      | some b => exact List.pairwise_singleton _ _
    · obtain ⟨b, -, rfl⟩ := Option.map_eq_some_iff.mp (Option.mem_toList.mp hentry)
      exact (hothers.unused other hother).2.1.symm
  refine List.pairwise_cons.mpr ⟨?_, List.pairwise_cons.mpr ⟨?_, hbbox⟩⟩
  · exact List.forall_mem_cons.mpr ⟨hcontent.1.symm, fun entry hentry => (htail entry hentry).1⟩
  · exact fun entry hentry => (htail entry hentry).2

/-- What stands under a key. -/
theorem get?_membersOf (key : String) :
    (SortedMap.ofList (membersOf name content v bbox others)).get? key =
      if key = "type" then some (.string name)
      else if key = content then some v
      else if key = "bbox" then bbox.map fun b => .array (b.map realJson)
      else others.get? key := by
  rw [SortedMap.get?_ofList, SortedMap.lookupEntry_reverse (membersOf_ne hothers hcontent),
    membersOf, SortedMap.lookupEntry, SortedMap.lookupEntry, lookup_tailMembers hothers]
  simp only [Std.LawfulEqCmp.compare_eq_iff_eq]

/-- What is not used is what was not used before. -/
theorem others_membersOf :
    Geometry.others (.ofList (membersOf name content v bbox others)) content = others := by
  apply SortedMap.ext_get?
  intro key
  rw [Geometry.others, SortedMap.get?_filterKeys, get?_membersOf hothers hcontent]
  by_cases htype : key = "type"
  · simp [htype, hothers.get?_eq_none]
  by_cases hbbox : key = "bbox"
  · simp [hbbox, hothers.get?_eq_none]
  by_cases hkey : key = content
  · simp [hkey, hothers.get?_eq_none]
  · simp [htype, hbbox, hkey]

/-- The content is read where the kind of the geometry expects it. -/
theorem get?_content :
    (SortedMap.ofList (membersOf name content v bbox others)).get? content = some v := by
  rw [get?_membersOf hothers hcontent, if_neg hcontent.1, if_pos rfl]

/-- The members of a geometry name its kind. -/
theorem readName_membersOf :
    readName ((SortedMap.ofList (membersOf name content v bbox others)).get? "type") =
      .ok name := by
  rw [get?_membersOf hothers hcontent, if_pos rfl, readName]

/-- The members of a geometry hold its box. -/
theorem readBbox_membersOf :
    readBbox ((SortedMap.ofList (membersOf name content v bbox others)).get? "bbox") =
      .ok bbox := by
  rw [get?_membersOf hothers hcontent, if_neg (by decide), if_neg hcontent.2.symm, if_pos rfl,
    readBbox_reals]

end Members

/-- A kind is found under its name. -/
theorem Kind.ofName?_name (kind : Kind) : Kind.ofName? kind.name = some kind := by
  cases kind <;> rfl

/-- A collection is told from the kinds of positions by its name. -/
theorem Kind.name_ne_collectionName (kind : Kind) : kind.name ≠ collectionName := by
  cases kind <;> decide

/-- A geometry of positions is read from its members. -/
theorem ofMap_simple {kind : Kind} {coordinates : Nested kind.depth}
    {bbox : Option (List Binary64.Finite)} {others : SortedMap String Value}
    (hothers : Spare "coordinates" others) :
    ofMap (.ofList (membersOf kind.name "coordinates" (nestedJson kind.depth coordinates) bbox
      others)) = .ok (.simple kind coordinates bbox others) := by
  have hcontent : "coordinates" ≠ "type" ∧ "coordinates" ≠ "bbox" := by decide
  simp only [ofMap, readBbox_membersOf hothers hcontent, readName_membersOf hothers hcontent,
    get?_content hothers hcontent, others_membersOf hothers hcontent]
  simp only [bind, Except.bind, if_neg kind.name_ne_collectionName]
  rw [kind.ofName?_name]
  simp only [readNested_nestedJson]
  rfl

/-- A collection is read from its members, if its items are. -/
theorem ofMap_collection {items : List Value} {geometries : List Geometry}
    {bbox : Option (List Binary64.Finite)} {others : SortedMap String Value}
    (hothers : Spare "geometries" others) (hitems : ofItems items = .ok geometries) :
    ofMap (.ofList (membersOf collectionName "geometries" (.array items) bbox others)) =
      .ok (.collection geometries bbox others) := by
  have hcontent : "geometries" ≠ "type" ∧ "geometries" ≠ "bbox" := by decide
  simp only [ofMap, readBbox_membersOf hothers hcontent, readName_membersOf hothers hcontent,
    get?_content hothers hcontent, others_membersOf hothers hcontent]
  simp only [bind, Except.bind, if_pos, hitems]
  rfl

/-- The items of a collection are read back if each of them is. -/
theorem ofItems_listJson {geometries : List Geometry}
    (h : ∀ g ∈ geometries, ofMap (.ofList (Value.sortedMembers g.members)) = .ok g) :
    ofItems (Value.sortedItems (listJson geometries)) = .ok geometries := by
  induction geometries with
  | nil => rw [listJson, Value.sortedItems, ofItems]
  | cons g geometries ih =>
    obtain ⟨hg, hgeometries⟩ := List.forall_mem_cons.mp h
    rw [listJson, Value.sortedItems, sorted_toJson, Value.ofMap, ofItems, ofMembers_eq,
      SortedMap.ofList_entries, hg, ih hgeometries]
    rfl

/-- The canonical members of a geometry are read as the geometry. -/
theorem WellFormed.ofMap_members {g : Geometry} (h : g.WellFormed) :
    ofMap (.ofList (Value.sortedMembers g.members)) = .ok g := by
  induction h with
  | @simple kind coordinates bbox others hothers =>
    rw [members, sortedMembers_membersOf hothers, (canonical_nestedJson _ _).sorted_eq]
    exact ofMap_simple hothers
  | @collection geometries bbox others hgeometries hothers ih =>
    rw [members, sortedMembers_membersOf hothers, Value.sorted]
    exact ofMap_collection hothers (ofItems_listJson ih)

/-- A geometry that was read is read back from its canonical JSON form. -/
theorem WellFormed.decode_toJson {g : Geometry} (h : g.WellFormed) :
    decode (.ofValue g.toJson.sorted) = .ok g := by
  have hcanonical : (Value.ofMap (.ofList (Value.sortedMembers g.members))).Canonical := by
    rw [← sorted_toJson]
    exact Value.canonical_sorted _
  rw [sorted_toJson, decode, Reading.map_value_ofMap hcanonical.of_mem_members]
  simp only [bind, Except.bind, ofMembers_eq, SortedMap.ofList_entries, h.ofMap_members]
  rfl

end Isochrone.Geometry
