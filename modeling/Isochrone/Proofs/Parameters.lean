import Isochrone.Parameters

/-!
# Parameters as pairs

The names and the texts of parameters are in strictly ascending order of the names, and looking
a name up among them gives the text of its value. Only a text can be shown as the empty text, so
the router of a query is what its pairs say.
-/

namespace Isochrone

theorem Layout.pointed_ne_nil (layout : Layout) {digits : List Char} (h : digits ≠ [])
    (whole : Int) : layout.pointed digits whole ≠ [] := by
  unfold pointed
  split
  · simp [h]
  · split <;> simp

theorem Layout.scientific_ne_nil (digits : List Char) (e : Int) : scientific digits e ≠ [] := by
  simp [scientific]

theorem Layout.finite_ne_nil (layout : Layout) (x : Binary64.Finite) : layout.finite x ≠ [] := by
  have hdecimal : layout.decimal (x.shortest layout.tie) ≠ [] := by
    simp only [decimal]
    split
    · exact layout.pointed_ne_nil Nat.toDigits_ne_nil _
    · exact scientific_ne_nil _ _
  simp [finite, hdecimal]

/-- A number is never shown as the empty text. -/
theorem Binary64.text_ne_empty (x : Binary64) : x.text ≠ "" := by
  cases x with
  | finite x =>
    have h := Layout.plain.finite_ne_nil x
    simpa only [text, ne_eq, String.ofList_eq_empty_iff] using h
  | infinite negative => cases negative <;> decide
  | nan => decide

private theorem intText_ne_empty (n : Int) : n.repr ≠ "" := by
  have hdigits : ∀ k : Nat, k.repr ≠ "" := by
    intro k
    rw [Nat.repr_eq_ofList_toDigits, ne_eq, String.ofList_eq_empty_iff]
    exact Nat.toDigits_ne_nil
  rw [Int.repr_eq_if]
  split
  · exact hdigits _
  · simp

namespace ParamValue

/-- What is read as a value is read in the kind that is found for it. -/
theorem decode_eq_ok_iff {d : Json.Document} {json : Json.Value} (hread : d.read = .ok json)
    {v : ParamValue} : decode d = .ok v ↔ ofJson? json = some v := by
  simp only [decode, Reading.value, hread, Reading.ofFault, bind, Except.bind]
  cases ofJson? json with
  | none => simp
  | some w => simp [pure, Except.pure]

/-- Only the empty text is shown as one. -/
theorem eq_text_of_display {v : ParamValue} (h : v.display = "") : v = .text "" := by
  cases v with
  | bool b => exact absurd h (by cases b <;> decide)
  | integer n fits => exact absurd h (intText_ne_empty n)
  | float x => exact absurd h x.text_ne_empty
  | text s => exact congrArg text h

end ParamValue

namespace QueryParameters

/-- The names stand in strictly ascending order. -/
theorem names_ascending (p : QueryParameters) : (p.toList.map Prod.fst).Pairwise (· < ·) := by
  rw [List.pairwise_map]
  refine p.toMap.ascending.imp fun h => ?_
  exact compareOfLessAndEq_eq_lt.mp h

theorem lookup_shown (entries : List (String × ParamValue)) (key : String) :
    (entries.map fun entry => (entry.1, entry.2.display)).lookup key =
      (SortedMap.lookupEntry key entries).map ParamValue.display := by
  induction entries with
  | nil => rfl
  | cons entry entries ih =>
    rw [List.map_cons, List.lookup_cons, SortedMap.lookupEntry]
    by_cases hk : key = entry.1
    · simp [hk]
    · have hcompare : compare key entry.1 ≠ .eq := fun he =>
        hk (Std.LawfulEqCmp.eq_of_compare he)
      rw [beq_false_of_ne hk, if_neg hcompare]
      exact ih

/-- The text of a parameter is found among the pairs. -/
theorem lookup_pairs (p : QueryParameters) (key : String) :
    p.pairs.lookup key = (p.get? key).map ParamValue.display :=
  lookup_shown p.toMap.entries key

/-- The router that pairs name: the value of `routerId`, or `default` where they have none or
the empty text. -/
def routerOf (pairs : List (String × String)) : String :=
  ((pairs.lookup "routerId").filter (· ≠ "")).getD "default"

/-- The router of a query is the one that its pairs name. -/
theorem router_eq_routerOf (p : QueryParameters) : p.router = routerOf p.pairs := by
  have hlookup : p.pairs.lookup "routerId" = (p.get? routerKey).map ParamValue.display :=
    p.lookup_pairs routerKey
  rw [routerOf, hlookup, router]
  cases hget : p.get? routerKey with
  | none => rfl
  | some v =>
    by_cases hempty : v.display = ""
    · rw [ParamValue.eq_text_of_display hempty]
      rfl
    · have hsome : ((some v).map ParamValue.display).filter (· ≠ "") = some v.display := by
        simp [hempty]
      rw [hsome, Option.getD_some]
      cases v with
      | text id =>
        have hid : id.isEmpty = false := by simpa [ParamValue.display] using hempty
        simp [hid, ParamValue.display]
      | _ => rfl

/-- No query names an empty router. -/
theorem router_ne_empty (p : QueryParameters) : p.router ≠ "" := by
  rw [router_eq_routerOf, routerOf]
  cases hfound : (p.pairs.lookup "routerId").filter (· ≠ "") with
  | none => decide
  | some id => exact of_decide_eq_true (Option.filter_eq_some_iff.mp hfound).2

end QueryParameters

end Isochrone
