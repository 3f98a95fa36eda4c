/-!
# Maps kept in ascending key order

A map is the list of its entries in strictly ascending key order. The order is part of
the type, so a map lists each key once, every listing comes in key order, and a map is
determined by its entries.
-/

namespace Isochrone

variable {κ α : Type}

/-- A finite map, held as its entries in strictly ascending key order. -/
structure SortedMap (κ α : Type) [Ord κ] where
  /-- The entries, smallest key first. -/
  entries : List (κ × α)
  /-- Each key is smaller than every later one. -/
  ascending : entries.Pairwise fun a b => compare a.1 b.1 = .lt

namespace SortedMap

/-- Put `key` at its place in an ascending list, over an entry of the same key. -/
def insertEntry [Ord κ] (key : κ) (value : α) : List (κ × α) → List (κ × α)
  | [] => [(key, value)]
  | (k, v) :: rest =>
    match compare key k with
    | .lt => (key, value) :: (k, v) :: rest
    | .eq => (key, value) :: rest
    | .gt => (k, v) :: insertEntry key value rest

/-- The value at `key` in a list of entries. -/
def lookupEntry [Ord κ] (key : κ) : List (κ × α) → Option α
  | [] => none
  | (k, v) :: rest => if compare key k = .eq then some v else lookupEntry key rest

/-- An insertion adds its own entry and no other. -/
theorem mem_of_mem_insertEntry [Ord κ] {key : κ} {value : α} {x : κ × α}
    {entries : List (κ × α)} (h : x ∈ insertEntry key value entries) :
    x = (key, value) ∨ x ∈ entries := by
  induction entries with
  | nil => simpa [insertEntry] using h
  | cons entry rest ih =>
    obtain ⟨k, v⟩ := entry
    simp only [insertEntry] at h
    split at h
    · simpa using h
    · rcases List.mem_cons.mp h with rfl | hr
      · exact Or.inl rfl
      · exact Or.inr (List.mem_cons_of_mem _ hr)
    · rcases List.mem_cons.mp h with rfl | hr
      · exact Or.inr List.mem_cons_self
      · exact (ih hr).imp_right (List.mem_cons_of_mem _)

/-- Insertion keeps the entries ascending. -/
theorem ascending_insertEntry [Ord κ] [Std.TransOrd κ] (key : κ) (value : α)
    {entries : List (κ × α)} (h : entries.Pairwise fun a b => compare a.1 b.1 = .lt) :
    (insertEntry key value entries).Pairwise fun a b => compare a.1 b.1 = .lt := by
  induction entries with
  | nil => simp [insertEntry]
  | cons entry rest ih =>
    obtain ⟨k, v⟩ := entry
    obtain ⟨hk, hrest⟩ := List.pairwise_cons.mp h
    simp only [insertEntry]
    split
    · rename_i hlt
      refine List.pairwise_cons.mpr ⟨fun x hx => ?_, h⟩
      rcases List.mem_cons.mp hx with rfl | hx
      · exact hlt
      · exact Std.TransCmp.lt_trans hlt (hk x hx)
    · rename_i heq
      exact List.pairwise_cons.mpr
        ⟨fun x hx => Std.TransCmp.lt_of_eq_of_lt heq (hk x hx), hrest⟩
    · rename_i hgt
      refine List.pairwise_cons.mpr ⟨fun x hx => ?_, ih hrest⟩
      rcases mem_of_mem_insertEntry hx with rfl | hx
      · exact Std.OrientedCmp.gt_iff_lt.mp hgt
      · exact hk x hx

/-- Whether the key of an entry is not above that of another. -/
def keyLE [Ord κ] (a b : κ × α) : Bool := (compare a.1 b.1).isLE

theorem keyLE_trans [Ord κ] [Std.TransOrd κ] (a b c : κ × α) (hab : keyLE a b = true)
    (hbc : keyLE b c = true) : keyLE a c = true :=
  Std.TransCmp.isLE_trans hab hbc

theorem keyLE_total [Ord κ] [Std.TransOrd κ] (a b : κ × α) :
    (keyLE a b || keyLE b a) = true := by
  rw [Bool.or_eq_true, keyLE, keyLE]
  cases hc : compare a.1 b.1 with
  | lt => exact Or.inl rfl
  | eq => exact Or.inl rfl
  | gt => exact Or.inr (by rw [Std.OrientedCmp.gt_iff_lt.mp hc]; rfl)

/-- The last entry of each run of equal keys. -/
def lastOfRuns [Ord κ] : List (κ × α) → List (κ × α)
  | [] => []
  | [entry] => [entry]
  | first :: second :: rest =>
    if compare first.1 second.1 = .eq then lastOfRuns (second :: rest)
    else first :: lastOfRuns (second :: rest)

/-- What stays of the runs is a part of the list. -/
theorem sublist_lastOfRuns [Ord κ] (entries : List (κ × α)) :
    (lastOfRuns entries).Sublist entries := by
  fun_induction lastOfRuns entries with
  | case1 => exact List.Sublist.refl _
  | case2 => exact List.Sublist.refl _
  | case3 first second rest _ ih => exact ih.cons first
  | case4 first second rest _ ih => exact ih.cons_cons first

/-- Of entries sorted by their keys, what stays of the runs ascends strictly. -/
theorem ascending_lastOfRuns [Ord κ] [Std.TransOrd κ] {entries : List (κ × α)}
    (h : entries.Pairwise fun a b => keyLE a b = true) :
    (lastOfRuns entries).Pairwise fun a b => compare a.1 b.1 = .lt := by
  fun_induction lastOfRuns entries with
  | case1 => exact List.Pairwise.nil
  | case2 => exact List.pairwise_singleton _ _
  | case3 first second rest _ ih => exact ih (List.pairwise_cons.mp h).2
  | case4 first second rest hne ih =>
    obtain ⟨hfirst, hrest⟩ := List.pairwise_cons.mp h
    refine List.pairwise_cons.mpr ⟨fun x hx => ?_, ih hrest⟩
    have hlt : compare first.1 second.1 = .lt := by
      have hle := hfirst second List.mem_cons_self
      cases hc : compare first.1 second.1 with
      | lt => rfl
      | eq => exact absurd hc hne
      | gt => simp [keyLE, hc] at hle
    rcases List.mem_cons.mp ((sublist_lastOfRuns _).mem hx) with rfl | hx
    · exact hlt
    · exact Std.TransCmp.lt_of_lt_of_isLE hlt ((List.pairwise_cons.mp hrest).1 x hx)

/-- A value that is found stands among the entries. -/
theorem mem_of_lookupEntry [Ord κ] {key : κ} {value : α} {entries : List (κ × α)}
    (h : lookupEntry key entries = some value) : ∃ k, (k, value) ∈ entries := by
  induction entries with
  | nil => simp [lookupEntry] at h
  | cons entry rest ih =>
    obtain ⟨k, v⟩ := entry
    simp only [lookupEntry] at h
    split at h
    · obtain rfl := Option.some.inj h
      exact ⟨k, List.mem_cons_self⟩
    · obtain ⟨k', hk'⟩ := ih h
      exact ⟨k', List.mem_cons_of_mem _ hk'⟩

variable [Ord κ]

/-- The map without entries. -/
def empty : SortedMap κ α := ⟨[], List.Pairwise.nil⟩

instance : EmptyCollection (SortedMap κ α) := ⟨empty⟩

instance : Inhabited (SortedMap κ α) := ⟨empty⟩

/-- The value at `key`. -/
def get? (m : SortedMap κ α) (key : κ) : Option α := lookupEntry key m.entries

/-- The number of keys. -/
def size (m : SortedMap κ α) : Nat := m.entries.length

/-- Whether there are no keys. -/
def isEmpty (m : SortedMap κ α) : Bool := m.entries.isEmpty

/-- The keys, smallest first. -/
def keys (m : SortedMap κ α) : List κ := m.entries.map (·.1)

/-- The values, in the order of their keys. -/
def values (m : SortedMap κ α) : List α := m.entries.map (·.2)

/-- Whether `key` has a value. -/
def contains (m : SortedMap κ α) (key : κ) : Bool := (m.get? key).isSome

/-- Keep the entries whose key passes a test. -/
def filterKeys (m : SortedMap κ α) (keep : κ → Bool) : SortedMap κ α :=
  ⟨m.entries.filter fun entry => keep entry.1, m.ascending.filter _⟩

@[simp] theorem get?_empty (key : κ) : (empty : SortedMap κ α).get? key = none := rfl

variable [Std.TransOrd κ]

/-- Set the value at `key`, over an earlier one. -/
def insert (m : SortedMap κ α) (key : κ) (value : α) : SortedMap κ α :=
  ⟨insertEntry key value m.entries, ascending_insertEntry key value m.ascending⟩

/-- Set pairs one after another, so the last of a repeated key stays. -/
def insertAll (m : SortedMap κ α) (pairs : List (κ × α)) : SortedMap κ α :=
  pairs.foldl (fun map pair => map.insert pair.1 pair.2) m

/-- The map of a list of pairs; the last of a repeated key stays. -/
def ofList (pairs : List (κ × α)) : SortedMap κ α := empty.insertAll pairs

/-- The map of a list of pairs, built at once: the pairs are sorted by their keys, equal keys
in the order given, and the last of a repeated key stays. -/
def collect (pairs : List (κ × α)) : SortedMap κ α :=
  ⟨lastOfRuns (pairs.mergeSort keyLE),
    ascending_lastOfRuns (List.pairwise_mergeSort keyLE_trans keyLE_total pairs)⟩

/-- Setting pairs adds no other entries. -/
theorem mem_of_mem_insertAll {m : SortedMap κ α} {pairs : List (κ × α)} {x : κ × α}
    (h : x ∈ (m.insertAll pairs).entries) : x ∈ m.entries ∨ x ∈ pairs := by
  induction pairs generalizing m with
  | nil => exact Or.inl h
  | cons pair rest ih =>
    rcases ih h with hm | hr
    · rcases mem_of_mem_insertEntry hm with rfl | hm
      · exact Or.inr List.mem_cons_self
      · exact Or.inl hm
    · exact Or.inr (List.mem_cons_of_mem _ hr)

/-- A value found in the map of a list of pairs stands among the pairs. -/
theorem mem_of_get?_ofList {pairs : List (κ × α)} {key : κ} {value : α}
    (h : (ofList pairs).get? key = some value) : ∃ k, (k, value) ∈ pairs := by
  obtain ⟨k, hk⟩ := mem_of_lookupEntry h
  rcases mem_of_mem_insertAll hk with hm | hp
  · simp [empty] at hm
  · exact ⟨k, hp⟩

/-- A write shows at its own key and nowhere else. -/
theorem get?_insert [Std.LawfulEqOrd κ] (m : SortedMap κ α) (key other : κ) (value : α) :
    (m.insert key value).get? other =
      if compare other key = .eq then some value else m.get? other := by
  obtain ⟨entries, h⟩ := m
  simp only [get?, insert]
  clear h
  induction entries with
  | nil => simp [insertEntry, lookupEntry]
  | cons entry rest ih =>
    obtain ⟨k, v⟩ := entry
    simp only [insertEntry]
    split
    · simp only [lookupEntry]
    · rename_i heq
      obtain rfl := Std.LawfulEqCmp.eq_of_compare heq
      simp only [lookupEntry]
      split <;> rfl
    · rename_i hgt
      simp only [lookupEntry, ih]
      split
      · rename_i hk
        obtain rfl := Std.LawfulEqCmp.eq_of_compare hk
        have hne : compare other key ≠ .eq := by
          intro he
          obtain rfl := Std.LawfulEqCmp.eq_of_compare he
          simp at hgt
        simp [hne]
      · rfl

end SortedMap

end Isochrone
