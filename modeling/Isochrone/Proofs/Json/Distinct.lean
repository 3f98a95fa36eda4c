import Mathlib.Data.List.Forall2
import Isochrone.Proofs.Json.Canonical

/-!
# Documents that are read

A document that is read as a value has the shape of that value: each item of an array is read as
its own item, and the members of an object are read one by one before they are sorted. Whoever
passes over such a document meets no fault. Where no object repeats a key, the members of the
value are those of the document in another order.
-/

namespace Isochrone.Json.Document

theorem ofItems_eq (items : List Value) : ofItems items = items.map ofValue := by
  induction items with
  | nil => rfl
  | cons item items ih => rw [ofItems, ih, List.map_cons]

/-- Items are read as values one by one. -/
abbrev ItemsRead : List Document → List Value → Prop :=
  List.Forall₂ fun item value => item.read = .ok value

/-- Members are read as keys and values one by one. -/
abbrev MembersRead : List (Except Fault String × Document) → List (String × Value) → Prop :=
  List.Forall₂ fun member value => member.1 = .ok value.1 ∧ member.2.read = .ok value.2

/-- The shape of a document next to the value it is read as. -/
inductive Reads : Document → Value → Prop where
  | null : Reads .null .null
  | bool (b : Bool) : Reads (.bool b) (.bool b)
  | number (n : Number) : Reads (.number (.ok n)) (.number n)
  | string (s : String) : Reads (.string (.ok s)) (.string s)
  | array {brackets : Brackets} {items : List Document} {values : List Value}
    (henter : enter brackets = .ok ()) (hleave : leave brackets = .ok ())
    (h : ItemsRead items values) : Reads (.array brackets items) (.array values)
  | object {brackets : Brackets} {members : List (Except Fault String × Document)}
    {values : List (String × Value)}
    (henter : enter brackets = .ok ()) (hleave : leave brackets = .ok ())
    (h : MembersRead members values) : Reads (.object brackets members) (.ofMap (.ofList values))

/-- Items that are read are read one by one. -/
theorem itemsRead_of_readItems {items : List Document} {values : List Value}
    (h : readItems items = .ok values) : ItemsRead items values := by
  induction items generalizing values with
  | nil =>
    cases h
    exact .nil
  | cons item items ih =>
    simp only [readItems, bind_eq_ok] at h
    obtain ⟨value, hvalue, rest, hrest, heq⟩ := h
    cases heq
    exact .cons hvalue (ih hrest)

/-- Members that are read are read one by one. -/
theorem membersRead_of_readMembers {members : List (Except Fault String × Document)}
    {values : List (String × Value)} (h : readMembers members = .ok values) :
    MembersRead members values := by
  induction members generalizing values with
  | nil =>
    cases h
    exact .nil
  | cons member members ih =>
    simp only [readMembers, bind_eq_ok] at h
    obtain ⟨key, hkey, value, hvalue, rest, hrest, heq⟩ := h
    cases heq
    exact .cons ⟨hkey, hvalue⟩ (ih hrest)

/-- A document that is read has the shape of its value. -/
theorem reads_of_read {d : Document} {v : Value} (h : d.read = .ok v) : Reads d v := by
  cases d with
  | null =>
    cases h
    exact .null
  | bool b =>
    cases h
    exact .bool b
  | number n =>
    cases n with
    | error fault => cases h
    | ok n =>
      cases h
      exact .number n
  | string s =>
    cases s with
    | error fault => cases h
    | ok s =>
      cases h
      exact .string s
  | array brackets items =>
    simp only [read, bind_eq_ok] at h
    obtain ⟨⟨⟩, henter, values, hvalues, ⟨⟩, hleave, heq⟩ := h
    cases heq
    exact .array henter hleave (itemsRead_of_readItems hvalues)
  | object brackets members =>
    simp only [read, bind_eq_ok] at h
    obtain ⟨⟨⟩, henter, values, hvalues, ⟨⟩, hleave, heq⟩ := h
    cases heq
    exact .object henter hleave (membersRead_of_readMembers hvalues)
  | broken place => cases h

/-- Brackets that can be left can be skipped. -/
theorem skipEnd_of_leave {brackets : Brackets} (h : leave brackets = .ok ()) :
    skipEnd brackets = .ok () := by
  unfold leave at h
  split at h
  · cases h
  · rename_i hsound
    rw [skipEnd, hsound]

mutual

/-- What is read can be passed over. -/
theorem skip_of_read (d : Document) {v : Value} (h : d.read = .ok v) : d.skip = .ok () := by
  match d with
  | .null | .bool _ | .number _ | .string _ => rfl
  | .array brackets items =>
    cases reads_of_read h with
    | array henter hleave hitems =>
      rw [skip, skipItems_of_read items hitems]
      exact skipEnd_of_leave hleave
  | .object brackets members =>
    cases reads_of_read h with
    | object henter hleave hmembers =>
      rw [skip, skipMembers_of_read members hmembers]
      exact skipEnd_of_leave hleave
  | .broken place => cases h

/-- Items that can be read can be skipped. -/
theorem skipItems_of_read (items : List Document) {values : List Value}
    (h : ItemsRead items values) : skipItems items = .ok () := by
  match items, values, h with
  | [], _, _ => rfl
  | item :: items, _, .cons hitem hitems =>
    rw [skipItems, skip_of_read item hitem]
    exact skipItems_of_read items hitems

/-- Members that can be read can be skipped. -/
theorem skipMembers_of_read (members : List (Except Fault String × Document))
    {values : List (String × Value)} (h : MembersRead members values) :
    skipMembers members = .ok () := by
  match members, values, h with
  | [], _, _ => rfl
  | (key, item) :: members, _, .cons hmember hmembers =>
    rw [skipMembers, skip_of_read item hmember.2]
    exact skipMembers_of_read members hmembers

end

/-- No object of a document repeats a key. -/
inductive Distinct : Document → Prop where
  | null : Distinct .null
  | bool (b : Bool) : Distinct (.bool b)
  | number (n : Except Fault Number) : Distinct (.number n)
  | string (s : Except Fault String) : Distinct (.string s)
  | array {brackets : Brackets} {items : List Document} (h : ∀ item ∈ items, Distinct item) :
    Distinct (.array brackets items)
  | object {brackets : Brackets} {members : List (Except Fault String × Document)}
    (hkeys : (members.map Prod.fst).Nodup) (h : ∀ member ∈ members, Distinct member.2) :
    Distinct (.object brackets members)
  | broken (place : Break) : Distinct (.broken place)

/-- Members of distinct keys are read as members of distinct keys. -/
theorem MembersRead.nodup {members : List (Except Fault String × Document)}
    {values : List (String × Value)} (h : MembersRead members values)
    (hkeys : (members.map Prod.fst).Nodup) : (values.map Prod.fst).Nodup := by
  have hmap : members.map Prod.fst = (values.map Prod.fst).map Except.ok := by
    induction h with
    | nil => rfl
    | cons hmember _ ih =>
      rw [List.map_cons, List.map_cons, List.map_cons, hmember.1,
        ih (List.nodup_cons.mp hkeys).2]
  rw [hmap] at hkeys
  exact hkeys.of_map Except.ok

theorem ofMembers_eq (members : List (String × Value)) :
    ofMembers members = members.map fun member => (.ok member.1, ofValue member.2) := by
  induction members with
  | nil => rfl
  | cons member members ih => rw [ofMembers, ih, List.map_cons]

/-- A canonical value repeats no key. -/
theorem distinct_of_canonical {v : Value} (h : v.Canonical) : (ofValue v).Distinct := by
  induction h with
  | null => exact .null
  | bool b => exact .bool b
  | number n => exact .number (.ok n)
  | string s => exact .string (.ok s)
  | array _ ih =>
    rw [ofValue, ofItems_eq]
    exact .array (List.forall_mem_map.mpr ih)
  | @object members _ ih =>
    rw [ofValue, ofMembers_eq]
    refine .object ?_ (List.forall_mem_map.mpr ih)
    have hkeys : (members.keys.map Except.ok : List (Except Fault String)).Nodup :=
      members.nodup_keys.map fun _ _ => Except.ok.inj
    rw [SortedMap.keys, List.map_map] at hkeys
    rwa [List.map_map]

end Isochrone.Json.Document
