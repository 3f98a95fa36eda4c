import Isochrone.Proofs.Json.Canonical
import Isochrone.Proofs.Json.Written
import Isochrone.Reading.Decoder

/-!
# What decoders yield and what they read back

What a decoder of one item guarantees holds of all that is read with it, and a decoder that
reads back each value of a map reads back the map: the members are written in ascending order,
so none of them is repeated and none changes its place.
-/

namespace Isochrone.Reading

open Json

variable {α : Type} {decode : Decoder α}

theorem ofFault_eq_ok {x : Except Fault α} {a : α} : ofFault x = .ok a ↔ x = .ok a := by
  cases x with
  | error f => simp [ofFault]
  | ok b => simp [ofFault]

theorem refuse_ne_ok (wanted : Wanted) (d : Document) (a : α) : refuse wanted d ≠ .ok a := by
  intro h
  rw [refuse, bind_eq_ok] at h
  obtain ⟨it, -, hit⟩ := h
  cases hit

/-- A generic value is canonical. -/
theorem canonical_of_value {d : Document} {v : Value} (h : value d = .ok v) : v.Canonical :=
  d.canonical_of_read (ofFault_eq_ok.mp h)

section Guarantee

variable {P : α → Prop} (hP : ∀ d a, decode d = .ok a → P a)
include hP

theorem forall_of_optional {d : Document} {a : α} (h : optional decode d = .ok (some a)) :
    P a := by
  unfold optional at h
  split at h
  · cases h
  · obtain ⟨b, hb, heq⟩ := map_eq_ok.mp h
    cases heq
    exact hP _ _ hb

theorem forall_of_items {ds : List Document} {as : List α} (h : items decode ds = .ok as) :
    ∀ a ∈ as, P a := by
  induction ds generalizing as with
  | nil =>
    cases h
    exact List.forall_mem_nil P
  | cons d ds ih =>
    simp only [items, bind_eq_ok] at h
    obtain ⟨first, hfirst, rest, hrest, has⟩ := h
    cases has
    exact List.forall_mem_cons.mpr ⟨hP d first hfirst, ih hrest⟩

theorem forall_of_list {d : Document} {as : List α} (h : list decode d = .ok as) :
    ∀ a ∈ as, P a := by
  unfold list at h
  split at h
  · simp only [bind_eq_ok] at h
    obtain ⟨-, -, bs, hbs, -, -, heq⟩ := h
    cases heq
    exact forall_of_items hP hbs
  · exact absurd h (refuse_ne_ok _ _ _)

theorem forall_of_pairs {members : List (Except Fault String × Document)}
    {as : List (String × α)} (h : pairs decode members = .ok as) : ∀ a ∈ as, P a.2 := by
  induction members generalizing as with
  | nil =>
    cases h
    exact List.forall_mem_nil _
  | cons member members ih =>
    simp only [pairs, bind_eq_ok] at h
    obtain ⟨key, -, first, hfirst, rest, hrest, has⟩ := h
    cases has
    exact List.forall_mem_cons.mpr ⟨hP member.2 first hfirst, ih hrest⟩

theorem forall_of_map {d : Document} {m : SortedMap String α} (h : map decode d = .ok m) :
    ∀ entry ∈ m.entries, P entry.2 := by
  unfold map at h
  split at h
  · simp only [bind_eq_ok] at h
    obtain ⟨-, -, as, has, -, -, heq⟩ := h
    cases heq
    intro entry hentry
    exact forall_of_pairs hP has entry (SortedMap.mem_of_mem_ofList hentry)
  · exact absurd h (refuse_ne_ok _ _ _)

end Guarantee

/-- A field is set to what a decoder reads, by an update of the record. -/
def Record.Sets {σ : Type} (r : Record σ) (name : String) (decode : Decoder α)
    (put : α → σ → σ) : Prop :=
  ∀ d s, r.set name d s = (fun a => put a s) <$> decode d

/-- What is read for a field is put in its place. -/
theorem Record.Sets.set_eq {σ : Type} {r : Record σ} {name : String} {put : α → σ → σ}
    (h : r.Sets name decode put) {d : Document} {a : α} (ha : decode d = .ok a) (s : σ) :
    r.set name d s = .ok (put a s) := by
  rw [h, ha]
  rfl

section Invariant

variable {σ : Type} {r : Record σ} {P : σ → Prop}
  (hset : ∀ field d s s', r.set field d s = .ok s' → P s → P s')
include hset

theorem Record.readMembers_invariant {met met' : List String}
    {members : List (Except Fault String × Document)} {s s' : σ}
    (h : r.readMembers met members s = .ok (met', s')) (hs : P s) : P s' := by
  induction members generalizing met s with
  | nil =>
    cases h
    exact hs
  | cons member members ih =>
    simp only [Record.readMembers, bind_eq_ok] at h
    obtain ⟨key, -, h⟩ := h
    split at h
    · split at h
      · cases h
      · obtain ⟨t, ht, h⟩ := bind_eq_ok.mp h
        exact ih h (hset key member.2 s t ht hs)
    · obtain ⟨-, -, h⟩ := bind_eq_ok.mp h
      exact ih h hs

theorem Record.readItems_invariant {count : Nat} {fields : List (String × Bool)}
    {ds : List Document} {s s' : σ} (h : r.readItems count fields ds s = .ok s') (hs : P s) :
    P s' := by
  induction ds generalizing fields s with
  | nil =>
    rw [Record.readItems] at h
    cases h
    exact hs
  | cons d ds ih =>
    cases fields with
    | nil => cases h
    | cons field fields =>
      obtain ⟨t, ht, h⟩ := bind_eq_ok.mp h
      exact ih h (hset field.1 d s t ht hs)

/-- What every field keeps holds of the record that is read, whichever way it is written. -/
theorem Record.decode_invariant (hdefault : P r.default) {d : Document} {s : σ}
    (h : r.decode d = .ok s) : P s := by
  unfold Record.decode at h
  split at h
  · simp only [bind_eq_ok] at h
    obtain ⟨-, -, ⟨met, t⟩, ht, -, -, h⟩ := h
    split at h
    · cases h
    · cases h
      exact Record.readMembers_invariant hset ht hdefault
  · simp only [bind_eq_ok] at h
    obtain ⟨-, -, t, ht, -, -, h⟩ := h
    split at h
    · cases h
    · cases h
      exact Record.readItems_invariant hset ht hdefault
  · exact absurd h (refuse_ne_ok _ _ _)

end Invariant

/-- A canonical value is read back. -/
theorem value_ofValue {v : Value} (h : v.Canonical) : value (.ofValue v) = .ok v := by
  rw [value, Document.read_ofValue, h.sorted_eq]
  rfl

/-- A value without reals is read from its text just as it is. -/
theorem ofText_of_ofValue {v : Value} {depth : Nat} {a : α} (hwhole : v.Whole depth)
    (hdepth : depth ≤ Document.maxDepth) (h : ofValue decode v = .ok a) :
    ofText decode v.text = .ok a := by
  have hroot : decode (.ofValue v) = .ok a := h
  rw [ofText, Document.ofText_text hwhole hdepth]
  simp only [hroot, Bool.false_eq_true, if_false]

section Fields

variable {σ : Type} {r : Record σ} {met : List String} {key : String} {s s' : σ}

section Steps

variable {d : Document} {members : List (Except Fault String × Document)}

/-- A member that is a field is read into the record, if it was not met before. -/
theorem Record.readMembers_cons_field (hfield : (r.fields.map (·.1)).contains key = true)
    (hmet : met.contains key = false) :
    r.readMembers met ((.ok key, d) :: members) s =
      (r.set key d s >>= fun s' => r.readMembers (key :: met) members s') := by
  rw [Record.readMembers]
  simp only [ofFault, bind, Except.bind, hfield, hmet, if_true, Bool.false_eq_true, if_false]

/-- A field that was met before is not read again. -/
theorem Record.readMembers_cons_repeated (hfield : (r.fields.map (·.1)).contains key = true)
    (hmet : met.contains key = true) :
    r.readMembers met ((.ok key, d) :: members) s = .error (.unsuitable (.duplicateField key)) := by
  rw [Record.readMembers]
  simp only [ofFault, bind, Except.bind, hfield, hmet, if_true]

/-- A member that is no field is passed over. -/
theorem Record.readMembers_cons_other (hfield : (r.fields.map (·.1)).contains key = false)
    (hskip : d.skip = .ok ()) :
    r.readMembers met ((.ok key, d) :: members) s = r.readMembers met members s := by
  rw [Record.readMembers]
  simp only [ofFault, bind, Except.bind, hfield, hskip, Bool.false_eq_true, if_false]

end Steps

variable {v : Value} {members : List (String × Value)}

theorem Record.readMembers_field (hfield : (r.fields.map (·.1)).contains key = true)
    (hmet : met.contains key = false) (hset : r.set key (.ofValue v) s = .ok s') :
    r.readMembers met (Document.ofMembers ((key, v) :: members)) s =
      r.readMembers (key :: met) (Document.ofMembers members) s' := by
  rw [Document.ofMembers, readMembers_cons_field hfield hmet, hset]
  rfl

theorem Record.readMembers_other (hfield : (r.fields.map (·.1)).contains key = false)
    (hskip : (Document.ofValue v).skip = .ok ()) :
    r.readMembers met (Document.ofMembers ((key, v) :: members)) s =
      r.readMembers met (Document.ofMembers members) s := by
  rw [Document.ofMembers, readMembers_cons_other hfield hskip]

/-- The record is what its members leave, if they bring all that is needed. -/
theorem Record.decode_object (met : List String)
    (h : r.readMembers [] (Document.ofMembers members) r.default = .ok (met, s))
    (hmet : (r.fields.find? fun field => field.2 && !met.contains field.1) = none) :
    r.decode (.ofValue (.object members)) = .ok s := by
  rw [Document.ofValue, Record.decode, h]
  simp only [Document.enter, Document.leave, Brackets.sound, ofFault, bind, Except.bind,
    Bool.false_eq_true, if_false, hmet]

end Fields

/-- Items that are read one by one are read in their order. -/
theorem items_ofItems {β : Type} {write : β → Value} {back : β → α} {bs : List β}
    (h : ∀ b ∈ bs, decode (.ofValue (write b)) = .ok (back b)) :
    items decode (Document.ofItems (bs.map write)) = .ok (bs.map back) := by
  induction bs with
  | nil => rfl
  | cons b bs ih =>
    obtain ⟨hb, hbs⟩ := List.forall_mem_cons.mp h
    rw [List.map_cons, Document.ofItems, items, hb, ih hbs]
    rfl

/-- An array whose items are read is read. -/
theorem list_ofItems {β : Type} {write : β → Value} {back : β → α} {bs : List β}
    (h : ∀ b ∈ bs, decode (.ofValue (write b)) = .ok (back b)) :
    list decode (.ofValue (.array (bs.map write))) = .ok (bs.map back) := by
  rw [Document.ofValue, list, items_ofItems h]
  rfl

section Members

variable {write : α → Value}

/-- Members whose values read back are read as they were. -/
theorem pairs_ofMembers {entries : List (String × α)}
    (h : ∀ entry ∈ entries, decode (.ofValue (write entry.2)) = .ok entry.2) :
    pairs decode (Document.ofMembers (entries.map fun entry => (entry.1, write entry.2))) =
      .ok entries := by
  induction entries with
  | nil => rfl
  | cons entry entries ih =>
    obtain ⟨hentry, hentries⟩ := List.forall_mem_cons.mp h
    rw [List.map_cons, Document.ofMembers, pairs, hentry, ih hentries]
    rfl

/-- Where every value reads back or fails in one way, a failure is that of the members. -/
theorem pairs_ofMembers_error {problem : Problem} {entries : List (String × α)}
    (h : ∀ entry ∈ entries, decode (.ofValue (write entry.2)) = .ok entry.2 ∨
      decode (.ofValue (write entry.2)) = .error problem)
    (hfails : ∃ entry ∈ entries, decode (.ofValue (write entry.2)) = .error problem) :
    pairs decode (Document.ofMembers (entries.map fun entry => (entry.1, write entry.2))) =
      .error problem := by
  induction entries with
  | nil => simp at hfails
  | cons entry entries ih =>
    obtain ⟨hentry, hentries⟩ := List.forall_mem_cons.mp h
    rw [List.map_cons, Document.ofMembers, pairs]
    rcases hentry with hok | herror
    · have hrest : ∃ entry ∈ entries, decode (.ofValue (write entry.2)) = .error problem := by
        obtain ⟨failing, hmem, hfailing⟩ := hfails
        rcases List.mem_cons.mp hmem with rfl | hmem
        · rw [hok] at hfailing
          cases hfailing
        · exact ⟨failing, hmem, hfailing⟩
      rw [hok, ih hentries hrest]
      rfl
    · rw [herror]
      rfl

/-- A map is read back from its object if its values are. -/
theorem map_ofEntries {m : SortedMap String α}
    (h : ∀ entry ∈ m.entries, decode (.ofValue (write entry.2)) = .ok entry.2) :
    map decode (.ofValue (.object (m.entries.map fun entry => (entry.1, write entry.2)))) =
      .ok m := by
  rw [Document.ofValue, map, pairs_ofMembers h]
  exact congrArg Except.ok m.ofList_entries

/-- A map is not read from its object if a value is not. -/
theorem map_ofEntries_error {problem : Problem} {m : SortedMap String α}
    (h : ∀ entry ∈ m.entries, decode (.ofValue (write entry.2)) = .ok entry.2 ∨
      decode (.ofValue (write entry.2)) = .error problem)
    (hfails : ∃ entry ∈ m.entries, decode (.ofValue (write entry.2)) = .error problem) :
    map decode (.ofValue (.object (m.entries.map fun entry => (entry.1, write entry.2)))) =
      .error problem := by
  rw [Document.ofValue, map, pairs_ofMembers_error h hfails]
  rfl

end Members

/-- The object of a map of canonical values is read back. -/
theorem map_value_ofMap {m : SortedMap String Value}
    (h : ∀ entry ∈ m.entries, entry.2.Canonical) :
    map value (.ofValue (.ofMap m)) = .ok m := by
  have hread : map value
      (.ofValue (.object (m.entries.map fun entry => (entry.1, id entry.2)))) = .ok m :=
    map_ofEntries fun entry hentry => value_ofValue (h entry hentry)
  have hentries : m.entries.map (fun entry => (entry.1, id entry.2)) = m.entries :=
    List.map_id' m.entries
  rwa [hentries] at hread

end Isochrone.Reading
