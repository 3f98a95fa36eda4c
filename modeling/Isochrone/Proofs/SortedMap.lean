import Isochrone.SortedMap
import Mathlib.Data.List.Dedup
import Mathlib.Data.List.Forall2

/-!
# Maps by what they answer

A map is determined by the values it answers, since its entries ascend: two maps stand entry by
entry in a relation just if their answers do. Writing pairs one after another answers the last
value written at each key, and so does building the map at once: the sort is stable, so the last
of equal keys stays the last of its run.
-/

namespace Isochrone.SortedMap

variable {κ α β : Type} [Ord κ]

theorem lookupEntry_append (key : κ) (before after : List (κ × α)) :
    lookupEntry key (before ++ after) =
      (lookupEntry key before).or (lookupEntry key after) := by
  induction before with
  | nil => simp only [List.nil_append, lookupEntry, Option.none_or]
  | cons entry before ih =>
    simp only [List.cons_append, lookupEntry]
    split
    · rfl
    · exact ih

/-- Read backwards, an entry counts only for a key that no later entry has. -/
theorem lookupEntry_reverse_cons (key : κ) (entry : κ × α) (entries : List (κ × α)) :
    lookupEntry key (entry :: entries).reverse =
      (lookupEntry key entries.reverse).or
        (if compare key entry.1 = .eq then some entry.2 else none) := by
  rw [List.reverse_cons, lookupEntry_append]
  rfl

/-- The first entry of a key is the first of all its entries. -/
theorem lookupEntry_eq_head? (key : κ) (entries : List (κ × α)) :
    lookupEntry key entries =
      ((entries.filter fun entry => compare key entry.1 = .eq).head?).map Prod.snd := by
  induction entries with
  | nil => rfl
  | cons entry entries ih =>
    rw [lookupEntry, List.filter_cons]
    by_cases hkey : compare key entry.1 = .eq
    · simp [hkey]
    · simpa [hkey] using ih

/-- A key that none of the entries has is not found. -/
theorem lookupEntry_eq_none {key : κ} {entries : List (κ × α)}
    (h : ∀ entry ∈ entries, compare key entry.1 ≠ .eq) : lookupEntry key entries = none := by
  induction entries with
  | nil => rfl
  | cons entry entries ih =>
    obtain ⟨hentry, hentries⟩ := List.forall_mem_cons.mp h
    rw [lookupEntry, if_neg hentry]
    exact ih hentries

/-- A key below the first of ascending keys is not found. -/
theorem lookupEntry_of_lt [Std.TransOrd κ] {key : κ} {entry : κ × α} {entries : List (κ × α)}
    (h : (entry :: entries).Pairwise fun a b => compare a.1 b.1 = .lt)
    (hlt : compare key entry.1 = .lt) : lookupEntry key (entry :: entries) = none := by
  refine lookupEntry_eq_none fun other hother he => ?_
  have hother : compare key other.1 = .lt := by
    rcases List.mem_cons.mp hother with rfl | hother
    · exact hlt
    · exact Std.TransCmp.lt_trans hlt ((List.pairwise_cons.mp h).1 other hother)
  rw [he] at hother
  cases hother

theorem length_insertEntry [Std.TransOrd κ] {entries : List (κ × α)}
    (h : entries.Pairwise fun a b => compare a.1 b.1 = .lt) (key : κ) (value : α) :
    (insertEntry key value entries).length =
      entries.length + if (lookupEntry key entries).isSome then 0 else 1 := by
  induction entries with
  | nil => rfl
  | cons entry entries ih =>
    rw [insertEntry]
    cases hkey : compare key entry.1 with
    | lt =>
      rw [lookupEntry_of_lt h hkey]
      rfl
    | eq => simp [lookupEntry, hkey]
    | gt =>
      have hrest := ih (List.pairwise_cons.mp h).2
      simp only [lookupEntry, hkey, List.length_cons, hrest, reduceCtorEq, if_false]
      omega

/-- A write makes the map longer by its key, if that had no value. -/
theorem size_insert [Std.TransOrd κ] (m : SortedMap κ α) (key : κ) (value : α) :
    (m.insert key value).size = m.size + if m.contains key then 0 else 1 :=
  length_insertEntry m.ascending key value

/-- The first of ascending keys does not stand behind itself. -/
theorem lookupEntry_first {entry : κ × α} {entries : List (κ × α)}
    (h : (entry :: entries).Pairwise fun a b => compare a.1 b.1 = .lt) :
    lookupEntry entry.1 entries = none := by
  refine lookupEntry_eq_none fun other hother he => ?_
  rw [(List.pairwise_cons.mp h).1 other hother] at he
  cases he

/-- Entries that are related one by one have related look-ups. -/
theorem rel_lookupEntry {R : α → β → Prop} {as : List (κ × α)} {bs : List (κ × β)}
    (h : List.Forall₂ (fun a b => a.1 = b.1 ∧ R a.2 b.2) as bs) (key : κ) :
    Option.Rel R (lookupEntry key as) (lookupEntry key bs) := by
  induction h with
  | nil => exact Option.Rel.none
  | cons hab _ ih =>
    rw [lookupEntry, lookupEntry, hab.1]
    split
    · exact Option.Rel.some hab.2
    · exact ih

/-- Pairs that are written after others are the later ones of all. -/
theorem insertAll_ofList [Std.TransOrd κ] (first second : List (κ × α)) :
    (ofList first).insertAll second = ofList (first ++ second) :=
  List.foldl_append.symm

/-- The map of a list of pairs has no other entries. -/
theorem mem_of_mem_ofList [Std.TransOrd κ] {pairs : List (κ × α)} {entry : κ × α}
    (h : entry ∈ (ofList pairs).entries) : entry ∈ pairs :=
  (mem_of_mem_insertAll h).resolve_left List.not_mem_nil

theorem ext_entries {m n : SortedMap κ α} (h : m.entries = n.entries) : m = n := by
  cases m
  cases n
  cases h
  rfl

/-- The map with each value replaced by its image. -/
def mapValues (f : α → β) (m : SortedMap κ α) : SortedMap κ β :=
  ⟨m.entries.map fun entry => (entry.1, f entry.2), by
    rw [List.pairwise_map]
    exact m.ascending⟩

section Lawful

variable [Std.LawfulEqOrd κ]

/-- Where no key stands twice, the values found are those that stand there. -/
theorem lookupEntry_eq_some_iff {entries : List (κ × α)}
    (h : entries.Pairwise fun a b => a.1 ≠ b.1) {key : κ} {value : α} :
    lookupEntry key entries = some value ↔ (key, value) ∈ entries := by
  induction entries with
  | nil => simp [lookupEntry]
  | cons entry entries ih =>
    obtain ⟨hentry, hentries⟩ := List.pairwise_cons.mp h
    rw [lookupEntry, List.mem_cons, ← ih hentries]
    by_cases hkey : key = entry.1
    · subst hkey
      have hrest : lookupEntry entry.1 entries = none :=
        lookupEntry_eq_none fun other hother he =>
          hentry other hother (Std.LawfulEqCmp.eq_of_compare he)
      rw [if_pos Std.ReflCmp.compare_self, hrest]
      simp [Prod.ext_iff, eq_comm]
    · have hcompare : compare key entry.1 ≠ .eq := fun he =>
        hkey (Std.LawfulEqCmp.eq_of_compare he)
      have hne : (key, value) ≠ entry := by
        rintro rfl
        exact hkey rfl
      rw [if_neg hcompare]
      simp [hne]

/-- Where equal keys are those that compare as equal, look-ups are those of any list of pairs. -/
theorem lookupEntry_eq_lookup [BEq κ] [LawfulBEq κ] (key : κ) (entries : List (κ × α)) :
    lookupEntry key entries = entries.lookup key := by
  induction entries with
  | nil => rfl
  | cons entry entries ih =>
    rw [lookupEntry, List.lookup_cons, ih]
    by_cases hkey : key = entry.1
    · subst hkey
      rw [if_pos Std.ReflCmp.compare_self, beq_self_eq_true]
    · have hcompare : compare key entry.1 ≠ .eq := fun he =>
        hkey (Std.LawfulEqCmp.eq_of_compare he)
      rw [if_neg hcompare, beq_false_of_ne hkey]

/-- The order in which distinct keys stand does not matter to a look-up. -/
theorem lookupEntry_reverse {entries : List (κ × α)}
    (h : entries.Pairwise fun a b => a.1 ≠ b.1) (key : κ) :
    lookupEntry key entries.reverse = lookupEntry key entries := by
  have hreverse : entries.reverse.Pairwise fun a b => a.1 ≠ b.1 :=
    List.pairwise_reverse.mpr (h.imp Ne.symm)
  apply Option.ext
  intro value
  rw [lookupEntry_eq_some_iff hreverse, lookupEntry_eq_some_iff h, List.mem_reverse]

/-- No key stands twice in a map. -/
theorem keys_ne (m : SortedMap κ α) : m.entries.Pairwise fun a b => a.1 ≠ b.1 := by
  refine m.ascending.imp fun {a b} h he => ?_
  have hself : compare b.1 b.1 = .eq := Std.ReflCmp.compare_self
  rw [he, hself] at h
  cases h

theorem nodup_keys (m : SortedMap κ α) : m.keys.Nodup := List.pairwise_map.mpr m.keys_ne

/-- What a map answers is what stands among its entries. -/
theorem get?_eq_some_iff {m : SortedMap κ α} {key : κ} {value : α} :
    m.get? key = some value ↔ (key, value) ∈ m.entries :=
  lookupEntry_eq_some_iff m.keys_ne

/-- A map restricted to some keys answers as before there, and nowhere else. -/
theorem get?_filterKeys (m : SortedMap κ α) (keep : κ → Bool) (key : κ) :
    (m.filterKeys keep).get? key = if keep key then m.get? key else none := by
  apply Option.ext
  intro value
  rw [get?_eq_some_iff, filterKeys, List.mem_filter, ← get?_eq_some_iff]
  by_cases hkeep : keep key = true <;> simp [hkeep]

variable [Std.TransOrd κ]

/-- Ascending entries whose look-ups are related are related one by one. -/
theorem forall₂_of_lookupEntry {R : α → β → Prop} {as : List (κ × α)} {bs : List (κ × β)}
    (has : as.Pairwise fun a b => compare a.1 b.1 = .lt)
    (hbs : bs.Pairwise fun a b => compare a.1 b.1 = .lt)
    (h : ∀ key, Option.Rel R (lookupEntry key as) (lookupEntry key bs)) :
    List.Forall₂ (fun a b => a.1 = b.1 ∧ R a.2 b.2) as bs := by
  have hself : ∀ key : κ, compare key key = .eq := fun key => Std.ReflCmp.compare_self
  induction as generalizing bs with
  | nil =>
    cases bs with
    | nil => exact List.Forall₂.nil
    | cons b bs =>
      have hb := h b.1
      simp only [lookupEntry, hself, if_true] at hb
      cases hb
  | cons a as ih =>
    have hfirst := h a.1
    rw [lookupEntry, if_pos (hself a.1)] at hfirst
    cases bs with
    | nil => cases hfirst
    | cons b bs =>
      have hkey : a.1 = b.1 := by
        cases hc : compare a.1 b.1 with
        | lt =>
          rw [lookupEntry_of_lt hbs hc] at hfirst
          cases hfirst
        | eq => exact Std.LawfulEqCmp.eq_of_compare hc
        | gt =>
          have hb := h b.1
          rw [lookupEntry_of_lt has (Std.OrientedCmp.gt_iff_lt.mp hc), lookupEntry,
            if_pos (hself b.1)] at hb
          cases hb
      rw [lookupEntry, if_pos (by rw [hkey]; exact hself b.1)] at hfirst
      cases hfirst with
      | some hvalue =>
        refine List.Forall₂.cons ⟨hkey, hvalue⟩ ?_
        refine ih (List.pairwise_cons.mp has).2 (List.pairwise_cons.mp hbs).2 fun key => ?_
        by_cases hc : key = a.1
        · subst hc
          rw [lookupEntry_first has, hkey, lookupEntry_first hbs]
          exact Option.Rel.none
        · have hrest := h key
          have hca : compare key a.1 ≠ .eq := fun he => hc (Std.LawfulEqCmp.eq_of_compare he)
          rwa [lookupEntry, if_neg hca, lookupEntry, if_neg (hkey ▸ hca)] at hrest

/-- Two maps are related entry by entry just if their answers are. -/
theorem forall₂_entries_iff (R : α → β → Prop) {m : SortedMap κ α} {n : SortedMap κ β} :
    List.Forall₂ (fun a b => a.1 = b.1 ∧ R a.2 b.2) m.entries n.entries ↔
      ∀ key, Option.Rel R (m.get? key) (n.get? key) :=
  ⟨rel_lookupEntry, forall₂_of_lookupEntry m.ascending n.ascending⟩

/-- Maps that answer alike are equal. -/
theorem ext_get? {m n : SortedMap κ α} (h : ∀ key, m.get? key = n.get? key) : m = n := by
  have hrel : ∀ key, Option.Rel Eq (m.get? key) (n.get? key) := by
    intro key
    rw [h key]
    cases n.get? key with
    | none => exact Option.Rel.none
    | some value => exact Option.Rel.some rfl
  have hentries : List.Forall₂ Eq m.entries n.entries :=
    ((forall₂_entries_iff Eq).mpr hrel).imp fun a b hab => Prod.ext hab.1 hab.2
  rw [List.forall₂_eq_eq_eq] at hentries
  exact ext_entries hentries

/-- Written pairs answer the last value of each key, before what was there. -/
theorem get?_insertAll (m : SortedMap κ α) (pairs : List (κ × α)) (key : κ) :
    (m.insertAll pairs).get? key = (lookupEntry key pairs.reverse).or (m.get? key) := by
  induction pairs generalizing m with
  | nil => rfl
  | cons pair pairs ih =>
    have hstep : m.insertAll (pair :: pairs) = (m.insert pair.1 pair.2).insertAll pairs := rfl
    rw [hstep, ih, get?_insert, List.reverse_cons, lookupEntry_append, Option.or_assoc]
    congr 1
    simp only [lookupEntry]
    split <;> rfl

/-- The map of a list of pairs answers the last value of each key. -/
theorem get?_ofList (pairs : List (κ × α)) (key : κ) :
    (ofList pairs).get? key = lookupEntry key pairs.reverse := by
  rw [ofList, get?_insertAll, get?_empty, Option.or_none]

/-- The keys of a list of pairs are the keys of its map. -/
theorem mem_keys_ofList {pairs : List (κ × α)} {key : κ} :
    key ∈ (ofList pairs).keys ↔ key ∈ pairs.map Prod.fst := by
  have hfound : key ∈ (ofList pairs).keys ↔ ((ofList pairs).get? key).isSome = true := by
    simp only [keys, List.mem_map, Option.isSome_iff_exists, get?_eq_some_iff, Prod.exists,
      exists_and_right, exists_eq_right]
  rw [hfound, get?_ofList, lookupEntry_eq_head?, Option.isSome_map, List.isSome_head?,
    ne_eq, List.filter_eq_nil_iff]
  simp only [List.mem_reverse, decide_eq_true_eq, not_forall, not_not, List.mem_map]
  constructor
  · rintro ⟨pair, hpair, hkey⟩
    exact ⟨pair, hpair, (Std.LawfulEqCmp.eq_of_compare hkey).symm⟩
  · rintro ⟨pair, hpair, rfl⟩
    exact ⟨pair, hpair, Std.ReflCmp.compare_self⟩

/-- The map of a list of pairs has as many entries as keys are among them. -/
theorem size_ofList [DecidableEq κ] (pairs : List (κ × α)) :
    (ofList pairs).size = (pairs.map Prod.fst).dedup.length := by
  have hnodup := (ofList pairs).nodup_keys
  have hkeys : ∀ key, key ∈ (ofList pairs).keys ↔ key ∈ (pairs.map Prod.fst).dedup := by
    intro key
    rw [mem_keys_ofList, List.mem_dedup]
  have hperm := (List.perm_ext_iff_of_nodup hnodup (List.nodup_dedup _)).mpr hkeys
  rw [← hperm.length_eq, keys, List.length_map]
  rfl

/-- The entries of a map make the same map again. -/
theorem ofList_entries (m : SortedMap κ α) : ofList m.entries = m := by
  apply ext_get?
  intro key
  rw [get?_ofList, lookupEntry_reverse m.keys_ne, get?]

/-- Pairs of distinct keys make the same map in every order. -/
theorem ofList_of_perm {pairs pairs' : List (κ × α)} (hperm : pairs.Perm pairs')
    (h : pairs.Pairwise fun a b => a.1 ≠ b.1) : ofList pairs = ofList pairs' := by
  have h' : pairs'.Pairwise fun a b => a.1 ≠ b.1 := (hperm.pairwise_iff Ne.symm).mp h
  apply ext_get?
  intro key
  apply Option.ext
  intro value
  rw [get?_ofList, get?_ofList, lookupEntry_reverse h, lookupEntry_reverse h',
    lookupEntry_eq_some_iff h, lookupEntry_eq_some_iff h', hperm.mem_iff]

/-- Pairs of distinct keys make the map that lists them in order. -/
theorem entries_ofList_of_perm {pairs entries : List (κ × α)} (hperm : pairs.Perm entries)
    (hkeys : (entries.map Prod.fst).Pairwise fun a b => compare a b = .lt) :
    (ofList pairs).entries = entries := by
  let m : SortedMap κ α := ⟨entries, List.pairwise_map.mp hkeys⟩
  have hpairs : pairs.Pairwise fun a b => a.1 ≠ b.1 :=
    (hperm.pairwise_iff Ne.symm).mpr m.keys_ne
  have hsame : ofList pairs = m := by
    rw [ofList_of_perm hperm hpairs]
    exact m.ofList_entries
  rw [hsame]

/-- The map of pairs of distinct keys lists these pairs, and no other. -/
theorem entries_ofList_perm {pairs : List (κ × α)} (h : pairs.Pairwise fun a b => a.1 ≠ b.1) :
    (ofList pairs).entries.Perm pairs := by
  have hnodup : ∀ {entries : List (κ × α)},
      (entries.Pairwise fun a b => a.1 ≠ b.1) → entries.Nodup := by
    intro entries hentries
    exact hentries.imp fun hne he => hne (congrArg Prod.fst he)
  refine (List.perm_ext_iff_of_nodup (hnodup (keys_ne _)) (hnodup h)).mpr ?_
  intro entry
  rw [← get?_eq_some_iff, get?_ofList, lookupEntry_reverse h, lookupEntry_eq_some_iff h]

/-- A write adds its key to those that have a value. -/
theorem contains_insert {m : SortedMap κ α} {key other : κ} {value : α} :
    (m.insert key value).contains other = true ↔ other = key ∨ m.contains other = true := by
  rw [contains, contains, get?_insert]
  by_cases hkey : other = key
  · subst hkey
    simp
  · have hother : compare other key ≠ .eq := fun he => hkey (Std.LawfulEqCmp.eq_of_compare he)
    rw [if_neg hother, or_iff_right hkey]

/-- Writes at different keys may change places. -/
theorem insert_comm (m : SortedMap κ α) {key other : κ} (h : key ≠ other) (value value' : α) :
    (m.insert key value).insert other value' = (m.insert other value').insert key value := by
  apply ext_get?
  intro k
  rw [get?_insert, get?_insert, get?_insert, get?_insert]
  by_cases hkey : compare k key = .eq
  · obtain rfl := Std.LawfulEqCmp.eq_of_compare hkey
    have hother : compare k other ≠ .eq := fun he => h (Std.LawfulEqCmp.eq_of_compare he)
    rw [if_neg hother, if_pos hkey, if_pos hkey]
  · rw [if_neg hkey, if_neg hkey]

/-- In a sorted list the last of a run is the last of its key. -/
theorem lookupEntry_lastOfRuns {entries : List (κ × α)}
    (h : entries.Pairwise fun a b => keyLE a b = true) (key : κ) :
    lookupEntry key (lastOfRuns entries) = lookupEntry key entries.reverse := by
  fun_induction lastOfRuns entries with
  | case1 => rfl
  | case2 entry => rfl
  | case3 first second rest heq ih =>
    obtain ⟨-, hrest⟩ := List.pairwise_cons.mp h
    rw [ih hrest, lookupEntry_reverse_cons key first]
    by_cases hkey : compare key first.1 = .eq
    · -- the second entry has the key of the first and hides it
      obtain rfl := Std.LawfulEqCmp.eq_of_compare hkey
      have hfound : (lookupEntry first.1 (second :: rest).reverse).isSome = true := by
        rw [lookupEntry_reverse_cons, if_pos heq, Option.isSome_or]
        simp
      obtain ⟨value, hvalue⟩ := Option.isSome_iff_exists.mp hfound
      rw [hvalue, Option.some_or]
    · rw [if_neg hkey, Option.or_none]
  | case4 first second rest hne ih =>
    obtain ⟨hfirst, hrest⟩ := List.pairwise_cons.mp h
    rw [lookupEntry, lookupEntry_reverse_cons key first, ← ih hrest]
    by_cases hkey : compare key first.1 = .eq
    · -- no later entry has the key of the first
      obtain rfl := Std.LawfulEqCmp.eq_of_compare hkey
      have hascending := ascending_lastOfRuns h
      rw [lastOfRuns, if_neg hne] at hascending
      have hnone : lookupEntry first.1 (lastOfRuns (second :: rest)) = none := by
        refine lookupEntry_eq_none fun entry hentry he => ?_
        rw [(List.pairwise_cons.mp hascending).1 entry hentry] at he
        cases he
      rw [hnone, Option.none_or]
    · rw [if_neg hkey, if_neg hkey, Option.or_none]

/-- Sorting keeps the entries of a key in their order. -/
theorem filter_mergeSort_keyLE (pairs : List (κ × α)) (key : κ) :
    ((pairs.mergeSort keyLE).filter fun entry => compare key entry.1 = .eq) =
      pairs.filter fun entry => compare key entry.1 = .eq := by
  have hsame : (pairs.filter fun entry => compare key entry.1 = .eq).Pairwise
      fun a b => keyLE a b = true := by
    refine List.pairwise_of_forall_mem_list fun a ha b hb => ?_
    have hakey : key = a.1 :=
      Std.LawfulEqCmp.eq_of_compare (of_decide_eq_true (List.mem_filter.mp ha).2)
    have hbkey : key = b.1 :=
      Std.LawfulEqCmp.eq_of_compare (of_decide_eq_true (List.mem_filter.mp hb).2)
    have hself : compare key key = .eq := Std.ReflCmp.compare_self
    rw [keyLE, ← hakey, ← hbkey, hself]
    rfl
  have hsublist := (List.sublist_mergeSort keyLE_trans keyLE_total hsame
    List.filter_sublist).filter fun entry => compare key entry.1 = .eq
  rw [List.filter_filter] at hsublist
  simp only [Bool.and_self] at hsublist
  refine (hsublist.eq_of_length ?_).symm
  exact ((List.mergeSort_perm pairs keyLE).filter _).length_eq.symm

/-- A map built at once is the one in which the pairs are written one after another. -/
theorem collect_eq_ofList (pairs : List (κ × α)) : collect pairs = ofList pairs := by
  apply ext_get?
  intro key
  have hsorted := List.pairwise_mergeSort keyLE_trans keyLE_total pairs
  calc
    (collect pairs).get? key = lookupEntry key (lastOfRuns (pairs.mergeSort keyLE)) := rfl
    _ = lookupEntry key (pairs.mergeSort keyLE).reverse := lookupEntry_lastOfRuns hsorted key
    _ = lookupEntry key pairs.reverse := by
      rw [lookupEntry_eq_head?, lookupEntry_eq_head?, List.filter_reverse, List.filter_reverse,
        filter_mergeSort_keyLE]
    _ = (ofList pairs).get? key := (get?_ofList pairs key).symm

end Lawful

end Isochrone.SortedMap
