import Isochrone.Proofs.Parameters
import Isochrone.Proofs.SortedMap
import Isochrone.Proofs.Text.ByteOrder
import Isochrone.RequestUrl
import Mathlib.Data.List.Dedup

/-!
# Parameters as the sum of their writes

However a set of parameters comes about, it is the set of the pairs written since it was last
built of a list, in the order of the writes. So the last write of each name decides the set, and
with it the router, the query and every URL: neither the order of the writes nor a value that was
written over shows anywhere.
-/

namespace Isochrone

namespace Update

/-- The pairs that a call writes, in order. -/
def writes : Update → List (String × ParamValue)
  | .insert key value => [(key, value)]
  | .router id => [("routerId", .text id)]
  | .origin latitude longitude => [("fromPlace", .text (latitude.text ++ "," ++ longitude.text))]
  | .mode value => [("mode", .text value)]
  | .date value => [("date", .text value)]
  | .time value => [("time", .text value)]
  | .insertAll pairs => pairs
  | .collect pairs => pairs

/-- The pairs that count after a call, where `earlier` did before it. -/
def after (earlier : List (String × ParamValue)) : Update → List (String × ParamValue)
  | .collect pairs => pairs
  | update => earlier ++ update.writes

end Update

namespace QueryParameters

/-- The pairs written since the parameters were last built of a list, in order. -/
def written (updates : List Update) : List (String × ParamValue) :=
  updates.foldl Update.after []

/-- The value that is written last under a name. -/
def lastWritten? (updates : List Update) (key : String) : Option ParamValue :=
  (written updates).reverse.lookup key

theorem insertAll_eq (p : QueryParameters) (pairs : List (String × ParamValue)) :
    p.insertAll pairs = ⟨p.toMap.insertAll pairs⟩ := by
  induction pairs generalizing p with
  | nil => rfl
  | cons pair pairs ih => exact ih (p.insert pair.1 pair.2)

/-- Building parameters of a list is writing its pairs one after another. -/
theorem ofList_eq_insertAll (pairs : List (String × ParamValue)) :
    ofList pairs = empty.insertAll pairs := by
  rw [insertAll_eq, ofList, SortedMap.collect_eq_ofList]
  rfl

/-- Every call adds its writes to the pairs of a set, or puts them in their place. -/
theorem apply_mk_ofList (pairs : List (String × ParamValue)) (update : Update) :
    update.apply ⟨.ofList pairs⟩ = ⟨.ofList (update.after pairs)⟩ := by
  have hwrites : ∀ more, (⟨SortedMap.ofList pairs⟩ : QueryParameters).insertAll more =
      ⟨.ofList (pairs ++ more)⟩ := by
    intro more
    rw [insertAll_eq, SortedMap.insertAll_ofList]
  cases update with
  | insert key value => exact hwrites [(key, value)]
  | router id => exact hwrites [("routerId", .text id)]
  | origin latitude longitude =>
    exact hwrites [("fromPlace", .text (latitude.text ++ "," ++ longitude.text))]
  | mode value => exact hwrites [("mode", .text value)]
  | date value => exact hwrites [("date", .text value)]
  | time value => exact hwrites [("time", .text value)]
  | insertAll more => exact hwrites more
  | collect more => exact congrArg mk (SortedMap.collect_eq_ofList more)

/-- Calls leave the set of the pairs that count after them. -/
theorem ofUpdates_eq (updates : List Update) :
    ofUpdates updates = ⟨.ofList (written updates)⟩ := by
  have hrun : ∀ (updates : List Update) (pairs : List (String × ParamValue)),
      updates.foldl Update.apply ⟨.ofList pairs⟩ =
        ⟨.ofList (updates.foldl Update.after pairs)⟩ := by
    intro updates
    induction updates with
    | nil => exact fun pairs => rfl
    | cons update updates ih =>
      intro pairs
      rw [List.foldl_cons, apply_mk_ofList, ih, List.foldl_cons]
  exact hrun updates []

/-- A name answers the value written last under it. -/
theorem get?_ofUpdates (updates : List Update) (key : String) :
    (ofUpdates updates).get? key = lastWritten? updates key := by
  rw [ofUpdates_eq, get?, SortedMap.get?_ofList, SortedMap.lookupEntry_eq_lookup, lastWritten?]

theorem mem_toList_iff {p : QueryParameters} {key : String} {value : ParamValue} :
    (key, value) ∈ p.toList ↔ p.get? key = some value :=
  SortedMap.get?_eq_some_iff.symm

/-- There are as many parameters as names that pairs are written under. -/
theorem size_ofUpdates (updates : List Update) :
    (ofUpdates updates).size = ((written updates).map Prod.fst).dedup.length := by
  rw [ofUpdates_eq, size, SortedMap.size_ofList]

/-- Parameters with equal values under each name are the same. -/
theorem ext_get? {p q : QueryParameters} (h : ∀ key, p.get? key = q.get? key) : p = q := by
  cases p
  cases q
  exact congrArg mk (SortedMap.ext_get? h)

/-- The names stand in ascending order of their bytes. -/
theorem names_ascending_bytes (p : QueryParameters) :
    (p.toList.map fun entry => entry.1.toUTF8.data.toList).Pairwise (· < ·) := by
  refine List.pairwise_map.mpr ((List.pairwise_map.mp p.names_ascending).imp fun h => ?_)
  exact Text.toUTF8_lt h

/-- Two sets are equal as values just if they are so name by name. -/
theorem numEq_iff (p q : QueryParameters) :
    p.numEq q = true ↔
      ∀ key, Option.Rel (fun v w => v.numEq w = true) (p.get? key) (q.get? key) := by
  have hentries : p.numEq q = true ↔ List.Forall₂
      (fun a b => a.1 = b.1 ∧ a.2.numEq b.2 = true) p.toMap.entries q.toMap.entries := by
    rw [List.forall₂_iff_zip, numEq, Bool.and_eq_true, decide_eq_true_iff, List.all_eq_true]
    refine and_congr_right fun _ => ⟨fun h a b hab => ?_, fun h ab hab => ?_⟩
    · simpa only [Bool.and_eq_true, decide_eq_true_eq] using h (a, b) hab
    · simpa only [Bool.and_eq_true, decide_eq_true_eq] using h hab
  exact hentries.trans (SortedMap.forall₂_entries_iff fun v w : ParamValue => v.numEq w = true)

/-- Whatever calls make a set of parameters, it lists each name once, in strictly ascending order
of the bytes of its UTF-8 form, with the value written last under it since the set was last built
of a list, and has as many parameters as names were written; building a set of a list is writing
its pairs one after another. Calls whose last writes agree name by name leave the same set, with
the same router, the same query and, for the same cutoffs, the same URL; and their sets are equal
as values just if their last writes are. -/
theorem last_write_wins (updates others : List Update) :
    ((ofUpdates updates).toList.map fun entry => entry.1.toUTF8.data.toList).Pairwise (· < ·) ∧
    (∀ key value, (key, value) ∈ (ofUpdates updates).toList ↔
      lastWritten? updates key = some value) ∧
    (∀ key, (ofUpdates updates).get? key = lastWritten? updates key) ∧
    (ofUpdates updates).size = ((written updates).map Prod.fst).dedup.length ∧
    (∀ pairs : List (String × ParamValue),
      ofList pairs = pairs.foldl (fun p pair => p.insert pair.1 pair.2) empty) ∧
    ((∀ key, lastWritten? updates key = lastWritten? others key) →
      ofUpdates updates = ofUpdates others ∧
      (ofUpdates updates).router = (ofUpdates others).router ∧
      (ofUpdates updates).query = (ofUpdates others).query ∧
      ∀ cutoffs, RequestUrl.build (ofUpdates updates) cutoffs =
        RequestUrl.build (ofUpdates others) cutoffs) ∧
    ((ofUpdates updates).numEq (ofUpdates others) = true ↔
      ∀ key, Option.Rel (fun v w => v.numEq w = true) (lastWritten? updates key)
        (lastWritten? others key)) := by
  refine ⟨names_ascending_bytes _, fun key value => ?_, get?_ofUpdates updates,
    size_ofUpdates updates, ofList_eq_insertAll, fun hlast => ?_, ?_⟩
  · rw [mem_toList_iff, get?_ofUpdates]
  · have hsame : ofUpdates updates = ofUpdates others := by
      apply ext_get?
      intro key
      rw [get?_ofUpdates, get?_ofUpdates, hlast key]
    rw [hsame]
    exact ⟨rfl, rfl, rfl, fun _ => rfl⟩
  · rw [numEq_iff]
    simp only [get?_ofUpdates]

/-- Two ways to the same last writes: the order of the writes differs, and values of both names
are written over or given up. -/
theorem last_write_wins_reordered :
    (∀ key, lastWritten? [.mode "WALK", .insert "maxTransfers" (.bool true), .mode "BICYCLE"] key =
      lastWritten? [.router "a", .collect [("mode", .text "CAR"), ("mode", .text "BICYCLE")],
        .insert "maxTransfers" (.bool true)] key) ∧
    ofUpdates [.mode "WALK", .insert "maxTransfers" (.bool true), .mode "BICYCLE"] =
      ofUpdates [.router "a", .collect [("mode", .text "CAR"), ("mode", .text "BICYCLE")],
        .insert "maxTransfers" (.bool true)] := by
  have hlast : ∀ key,
      lastWritten? [.mode "WALK", .insert "maxTransfers" (.bool true), .mode "BICYCLE"] key =
        lastWritten? [.router "a", .collect [("mode", .text "CAR"), ("mode", .text "BICYCLE")],
          .insert "maxTransfers" (.bool true)] key := by
    intro key
    simp only [lastWritten?, written, List.foldl_cons, List.foldl_nil, Update.after,
      Update.writes, List.nil_append, List.cons_append, List.reverse_cons, List.reverse_nil,
      List.lookup_cons, List.lookup_nil]
    by_cases hmode : key = "mode"
    · subst hmode
      rfl
    · rw [beq_false_of_ne hmode]
  exact ⟨hlast, ((last_write_wins _ _).2.2.2.2.2.1 hlast).1⟩

end QueryParameters

end Isochrone
