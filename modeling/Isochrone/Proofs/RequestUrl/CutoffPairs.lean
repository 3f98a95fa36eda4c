import Isochrone.Proofs.RequestUrl.ReadingBack
import Isochrone.Proofs.SortedMap

/-!
# The cutoffs that a request URL asks for

Parameters and cutoffs share one flat query, and the cutoffs are told apart by their name alone.
So a URL asks for the cutoffs of the query in order, but a parameter of that name asks for one
more in front of them: the URL asks for just the cutoffs exactly when no parameter has the name.
-/

namespace Isochrone

/-- The values of the pairs of a name, in order. -/
def Form.valuesOf (name : String) (pairs : List (String × String)) : List String :=
  (pairs.filter fun pair => pair.1 = name).map Prod.snd

theorem Form.valuesOf_append (name : String) (first second : List (String × String)) :
    valuesOf name (first ++ second) = valuesOf name first ++ valuesOf name second := by
  rw [valuesOf, List.filter_append, List.map_append, ← valuesOf, ← valuesOf]

/-- In a map a name has the one value that is found under it, or none. -/
theorem SortedMap.filter_entries {α : Type} (m : SortedMap String α) (key : String) :
    (m.entries.filter fun entry => entry.1 = key).map Prod.snd = (m.get? key).toList := by
  have hentries : ∀ entries : List (String × α), entries.Pairwise (fun a b => a.1 ≠ b.1) →
      (entries.filter fun entry => entry.1 = key).map Prod.snd =
        (lookupEntry key entries).toList := by
    intro entries hne
    induction entries with
    | nil => rfl
    | cons entry entries ih =>
      obtain ⟨hentry, hrest⟩ := List.pairwise_cons.mp hne
      rw [lookupEntry, List.filter_cons]
      by_cases hkey : entry.1 = key
      · subst hkey
        have hnone : (entries.filter fun other => other.1 = entry.1) = [] :=
          List.filter_eq_nil_iff.mpr fun other hother he =>
            hentry other hother (of_decide_eq_true he).symm
        simp [hnone]
      · have hcompare : compare key entry.1 ≠ .eq := fun he =>
          hkey (Std.LawfulEqCmp.eq_of_compare he).symm
        rw [if_neg hcompare, if_neg (by simpa using hkey)]
        exact ih hrest
  exact hentries m.entries m.keys_ne

/-- The pairs of parameters give a name the text of its value. -/
theorem QueryParameters.valuesOf_pairs (p : QueryParameters) (name : String) :
    Form.valuesOf name p.pairs = ((p.get? name).map ParamValue.display).toList := by
  have hshown : Form.valuesOf name p.pairs =
      ((p.toMap.entries.filter fun entry => entry.1 = name).map Prod.snd).map
        ParamValue.display := by
    rw [Form.valuesOf, pairs, List.filter_map, List.map_map, List.map_map]
    rfl
  rw [hshown, p.toMap.filter_entries, Option.toList_map, get?]

namespace RequestUrl

/-- The query of a URL: what stands behind its last question mark. -/
def query (url : RequestUrl) : List Char :=
  (url.toString.toList.reverse.takeWhile (· ≠ '?')).reverse

/-- The values that the decoded query of a URL gives to a name, in order. -/
def values? (url : RequestUrl) (name : String) : Option (List String) :=
  (Form.decode? url.query).map (Form.valuesOf name)

theorem query_build (p : QueryParameters) (c : Cutoffs) : (build p c).query = queryOf p c := by
  have hquery : ∀ x ∈ (queryOf p c).reverse, decide (x ≠ '?') = true := by
    intro x hx
    refine decide_eq_true fun he => ?_
    exact question_not_mem_queryOf p c (he ▸ List.mem_reverse.mp hx)
  rw [query, toList_build, List.reverse_append, List.reverse_cons, List.append_assoc,
    List.takeWhile_append_of_pos hquery]
  simp

/-- The pairs of cutoffs are the cutoffs. -/
theorem valuesOf_cutoffPairs (cutoffs : List UInt32) :
    Form.valuesOf cutoffKey (cutoffs.map cutoffPair) =
      cutoffs.map fun seconds => seconds.toNat.repr := by
  rw [Form.valuesOf, List.filter_map, List.map_map]
  have hname : ∀ seconds ∈ cutoffs, ((fun pair : String × String => decide (pair.1 = cutoffKey)) ∘
      cutoffPair) seconds = true := fun seconds _ => decide_eq_true (Eq.refl cutoffKey)
  rw [List.filter_eq_self.mpr hname]
  rfl

/-- A URL asks for the parameter of the name, if there is one, and for the cutoffs. -/
theorem values?_cutoffKey (p : QueryParameters) (c : Cutoffs) :
    (build p c).values? cutoffKey =
      some (((p.get? cutoffKey).map ParamValue.display).toList ++
        c.toList.map fun seconds => seconds.toNat.repr) := by
  rw [values?, query_build, decode?_queryOf, Option.map_some, Form.valuesOf_append,
    p.valuesOf_pairs, valuesOf_cutoffPairs]

/-- The decoded query of a URL gives `cutoffSec` the text of the parameter of that name, if there
is one, and then the decimal form of each cutoff in the order of the cutoffs, repeated ones as
often as they are repeated. So these are the cutoffs alone exactly when no parameter has the
name. -/
theorem asks_for_cutoffs_alone_iff (p : QueryParameters) (c : Cutoffs) :
    (build p c).values? "cutoffSec" =
      some (((p.get? "cutoffSec").map ParamValue.display).toList ++
        c.toList.map fun seconds => seconds.toNat.repr) ∧
    ((build p c).values? "cutoffSec" = some (c.toList.map fun seconds => seconds.toNat.repr) ↔
      p.get? "cutoffSec" = none) := by
  have hvalues : (build p c).values? "cutoffSec" =
      some (((p.get? "cutoffSec").map ParamValue.display).toList ++
        c.toList.map fun seconds => seconds.toNat.repr) := values?_cutoffKey p c
  refine ⟨hvalues, ?_⟩
  rw [hvalues, Option.some_inj, List.append_left_eq_self, Option.toList_eq_nil_iff,
    Option.map_eq_none_iff]

/-- A parameter of that name asks for a cutoff that the query has not. -/
theorem parameter_asks_for_cutoff :
    (build (QueryParameters.empty.insert "cutoffSec" (.text "999")) ⟨[300]⟩).values? "cutoffSec" =
      some ["999", "300"] := by
  have hvalues := values?_cutoffKey (QueryParameters.empty.insert "cutoffSec" (.text "999")) ⟨[300]⟩
  exact hvalues

end RequestUrl

end Isochrone
