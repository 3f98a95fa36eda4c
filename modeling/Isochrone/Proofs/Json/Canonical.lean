import Isochrone.Json.Document
import Isochrone.Proofs.SortedMap

/-!
# Canonical values

A generic document is held in canonical form. The canonical form of a value is canonical and
has itself as canonical form; a value is read as its canonical form, and no document is read as
a value that is not canonical.
-/

namespace Isochrone

/-- What succeeds in two steps succeeds in each. -/
theorem bind_eq_ok {ε α β : Type} {x : Except ε α} {f : α → Except ε β} {b : β} :
    (x >>= f) = .ok b ↔ ∃ a, x = .ok a ∧ f a = .ok b := by
  cases x with
  | error e => simp [bind, Except.bind]
  | ok a => simp [bind, Except.bind]

/-- What is made of a result succeeds just if the result does. -/
theorem map_eq_ok {ε α β : Type} {x : Except ε α} {f : α → β} {b : β} :
    f <$> x = .ok b ↔ ∃ a, x = .ok a ∧ f a = b := by
  cases x with
  | error e => simp [Functor.map, Except.map]
  | ok a => simp [Functor.map, Except.map]

/-- What is left of a result without its error is a value exactly if it succeeds with it. -/
theorem toOption_eq_some {ε α : Type} {x : Except ε α} {a : α} :
    x.toOption = some a ↔ x = .ok a := by
  cases x with
  | error e => simp [Except.toOption]
  | ok b => simp [Except.toOption]

/-- Two steps succeed as an option does that is taken further. -/
theorem toOption_bind {ε α β : Type} (x : Except ε α) (f : α → Except ε β) :
    (x >>= f).toOption = x.toOption.bind fun a => (f a).toOption := by
  cases x with
  | error e => rfl
  | ok a => rfl

/-- What is made of a result succeeds as an option does. -/
theorem toOption_map {ε α β : Type} (x : Except ε α) (f : α → β) :
    (f <$> x).toOption = x.toOption.map f := by
  cases x with
  | error e => rfl
  | ok a => rfl

namespace Json

namespace Value

/-- The members of every object of a value stand as they do in a map. -/
inductive Canonical : Value → Prop where
  | null : Canonical .null
  | bool (b : Bool) : Canonical (.bool b)
  | number (n : Number) : Canonical (.number n)
  | string (s : String) : Canonical (.string s)
  | array {items : List Value} (h : ∀ item ∈ items, Canonical item) : Canonical (.array items)
  | object {members : SortedMap String Value} (h : ∀ entry ∈ members.entries, Canonical entry.2) :
    Canonical (.object members.entries)

/-- The members of a canonical object are canonical. -/
theorem Canonical.of_mem_members {members : List (String × Value)}
    (h : (Value.object members).Canonical) : ∀ member ∈ members, member.2.Canonical := by
  cases h with
  | object h => exact h

/-- Items are put into canonical form one by one. -/
theorem sortedItems_eq (items : List Value) : sortedItems items = items.map sorted := by
  induction items with
  | nil => rfl
  | cons item items ih => rw [sortedItems, ih, List.map_cons]

/-- Members are put into canonical form one by one, in their order. -/
theorem sortedMembers_eq (members : List (String × Value)) :
    sortedMembers members = members.map fun member => (member.1, member.2.sorted) := by
  induction members with
  | nil => rfl
  | cons member members ih => rw [sortedMembers, ih, List.map_cons]

/-- Members whose values are their own canonical forms stay as they are. -/
theorem sortedMembers_eq_self {members : List (String × Value)}
    (h : ∀ member ∈ members, member.2.sorted = member.2) : sortedMembers members = members := by
  have hmember : ∀ member ∈ members, (member.1, member.2.sorted) = member :=
    fun member hmember => Prod.ext rfl (h member hmember)
  rw [sortedMembers_eq]
  exact (List.map_congr_left hmember).trans (List.map_id' members)

mutual

/-- Canonical forms are canonical. -/
theorem canonical_sorted (v : Value) : v.sorted.Canonical := by
  match v with
  | .null => exact .null
  | .bool b => exact .bool b
  | .number n => exact .number n
  | .string s => exact .string s
  | .array items => exact .array (canonical_sortedItems items)
  | .object members =>
    refine .object fun entry hentry => canonical_sortedMembers members entry ?_
    exact SortedMap.mem_of_mem_ofList hentry

/-- Items in canonical form are canonical. -/
theorem canonical_sortedItems (items : List Value) :
    ∀ item ∈ sortedItems items, item.Canonical := by
  match items with
  | [] => exact List.forall_mem_nil _
  | item :: items =>
    exact List.forall_mem_cons.mpr ⟨canonical_sorted item, canonical_sortedItems items⟩

/-- Members in canonical form are canonical. -/
theorem canonical_sortedMembers (members : List (String × Value)) :
    ∀ member ∈ sortedMembers members, member.2.Canonical := by
  match members with
  | [] => exact List.forall_mem_nil _
  | (key, value) :: members =>
    exact List.forall_mem_cons.mpr ⟨canonical_sorted value, canonical_sortedMembers members⟩

end

/-- A canonical value is its own canonical form. -/
theorem Canonical.sorted_eq {v : Value} (h : v.Canonical) : v.sorted = v := by
  induction h with
  | null => rfl
  | bool b => rfl
  | number n => rfl
  | string s => rfl
  | @array items h ih =>
    have hitems : items.map sorted = items := (List.map_congr_left ih).trans (List.map_id' items)
    rw [sorted, sortedItems_eq, hitems]
  | @object members h ih =>
    rw [sorted, sortedMembers_eq_self ih, SortedMap.ofList_entries]
    rfl

end Value

namespace Document

open Value (Canonical)

mutual

/-- A value is read as its canonical form. -/
theorem read_ofValue (v : Value) : (ofValue v).read = .ok v.sorted := by
  match v with
  | .null => rfl
  | .bool b => rfl
  | .number n => rfl
  | .string s => rfl
  | .array items =>
    rw [ofValue, read, readItems_ofItems items]
    rfl
  | .object members =>
    rw [ofValue, read, readMembers_ofMembers members]
    rfl

/-- Items are read as their canonical forms. -/
theorem readItems_ofItems (items : List Value) :
    readItems (ofItems items) = .ok (Value.sortedItems items) := by
  match items with
  | [] => rfl
  | item :: items =>
    rw [ofItems, readItems, read_ofValue item, readItems_ofItems items]
    rfl

/-- Members are read as their canonical forms. -/
theorem readMembers_ofMembers (members : List (String × Value)) :
    readMembers (ofMembers members) = .ok (Value.sortedMembers members) := by
  match members with
  | [] => rfl
  | (key, value) :: members =>
    rw [ofMembers, readMembers, read_ofValue value, readMembers_ofMembers members]
    rfl

end

mutual

/-- What is read is canonical. -/
theorem canonical_of_read (d : Document) {v : Value} (h : d.read = .ok v) : v.Canonical := by
  match d with
  | .null =>
    cases h
    exact .null
  | .bool b =>
    cases h
    exact .bool b
  | .number n =>
    rw [read] at h
    cases n with
    | error e => cases h
    | ok n =>
      cases h
      exact .number n
  | .string s =>
    rw [read] at h
    cases s with
    | error e => cases h
    | ok s =>
      cases h
      exact .string s
  | .array brackets items =>
    simp only [read, bind_eq_ok] at h
    obtain ⟨-, -, values, hvalues, -, -, hv⟩ := h
    cases hv
    exact .array (canonical_of_readItems items hvalues)
  | .object brackets members =>
    simp only [read, bind_eq_ok] at h
    obtain ⟨-, -, values, hvalues, -, -, hv⟩ := h
    cases hv
    refine .object fun entry hentry => canonical_of_readMembers members hvalues entry ?_
    exact SortedMap.mem_of_mem_ofList hentry
  | .broken place => cases h

/-- Items are read as canonical values. -/
theorem canonical_of_readItems (items : List Document) {values : List Value}
    (h : readItems items = .ok values) : ∀ value ∈ values, value.Canonical := by
  match items with
  | [] =>
    cases h
    exact List.forall_mem_nil _
  | item :: items =>
    simp only [readItems, bind_eq_ok] at h
    obtain ⟨first, hfirst, rest, hrest, hvalues⟩ := h
    cases hvalues
    exact List.forall_mem_cons.mpr
      ⟨canonical_of_read item hfirst, canonical_of_readItems items hrest⟩

/-- Members are read as canonical values. -/
theorem canonical_of_readMembers (members : List (Except Fault String × Document))
    {values : List (String × Value)} (h : readMembers members = .ok values) :
    ∀ value ∈ values, value.2.Canonical := by
  match members with
  | [] =>
    cases h
    exact List.forall_mem_nil _
  | (key, item) :: members =>
    simp only [readMembers, bind_eq_ok] at h
    obtain ⟨key, -, first, hfirst, rest, hrest, hvalues⟩ := h
    cases hvalues
    exact List.forall_mem_cons.mpr
      ⟨canonical_of_read item hfirst, canonical_of_readMembers members hrest⟩

end

end Document

end Json

end Isochrone
