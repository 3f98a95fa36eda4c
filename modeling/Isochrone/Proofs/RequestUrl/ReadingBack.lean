import Isochrone.Proofs.Form
import Isochrone.Proofs.Parameters
import Isochrone.RequestUrl

/-!
# A request URL read back

The URL of a query is cut at its last question mark. What follows decodes to the parameters and
the cutoffs in order, and what stands before names the router of the decoded pairs. The router
may itself hold question marks, since none is written behind the last one.
-/

namespace Isochrone

/-- Letters, digits and the marks of an encoded text are what it is written with. -/
theorem Form.alphanum_or_mark_of_isWritten {x : Char} (h : isWritten x = true) :
    x.isAlphanum ∨ x ∈ "*-._+%".toList := by
  simp only [isWritten, isPlain, Bool.or_eq_true, Bool.and_eq_true, decide_eq_true_eq] at h
  rcases h with (((((((⟨ha, hz⟩ | hAZ) | ⟨h0, h9⟩) | rfl) | rfl) | rfl) | rfl) | rfl) | rfl
  · have hlower : x.isLower = true :=
      Bool.and_eq_true_iff.mpr ⟨decide_eq_true ha, decide_eq_true hz⟩
    have halpha : x.isAlpha = true := Bool.or_eq_true_iff.mpr (Or.inr hlower)
    exact Or.inl (Bool.or_eq_true_iff.mpr (Or.inl halpha))
  · have hupper : x.isUpper = true := decide_eq_true hAZ
    have halpha : x.isAlpha = true := Bool.or_eq_true_iff.mpr (Or.inl hupper)
    exact Or.inl (Bool.or_eq_true_iff.mpr (Or.inl halpha))
  · have hdigit : x.isDigit = true :=
      Bool.and_eq_true_iff.mpr ⟨decide_eq_true h0, decide_eq_true h9⟩
    exact Or.inl (Bool.or_eq_true_iff.mpr (Or.inr hdigit))
  all_goals exact Or.inr (by decide)

namespace RequestUrl

/-- The pair that asks for a cutoff. -/
def cutoffPair (seconds : UInt32) : String × String := (cutoffKey, seconds.toNat.repr)

/-- The raw fragment of a cutoff is its encoded pair, since a name and digits stand for
themselves. -/
theorem toList_fragment (seconds : UInt32) :
    (fragment seconds).toList = '&' :: Form.encodePair (cutoffPair seconds) := by
  have hkey : Form.encodeText cutoffKey = cutoffKey.toList := by decide
  have hdigits : Form.encodeText seconds.toNat.repr = seconds.toNat.repr.toList := by
    refine Form.encodeText_of_plain fun c hc => Form.isPlain_of_isDigit ?_
    rw [Nat.toList_repr] at hc
    exact Nat.isDigit_of_mem_toDigits (by decide) (by decide) hc
  rw [Form.encodePair, cutoffPair, hkey, hdigits, fragment]
  simp only [String.toList_append, List.append_assoc]
  rfl

/-- The fragments of cutoffs are their encoded pairs. -/
theorem toList_fragments (cutoffs : List UInt32) :
    (String.join (cutoffs.map fragment)).toList = Form.encodeMore (cutoffs.map cutoffPair) := by
  rw [String.toList_join, List.flatMap_map, Form.encodeMore, List.flatMap_map]
  simp only [toList_fragment]

/-- The query of a built URL. -/
def queryOf (p : QueryParameters) (c : Cutoffs) : List Char :=
  p.query.toList ++ Form.encodeMore (c.toList.map cutoffPair)

/-- The path of a built URL. -/
def pathOf (p : QueryParameters) : List Char :=
  ("/otp/routers/" ++ p.router ++ "/isochrone").toList

theorem toList_build (p : QueryParameters) (c : Cutoffs) :
    (build p c).toString.toList = pathOf p ++ '?' :: queryOf p c := by
  have hbuild : (build p c).toString = "/otp/routers/" ++ p.router ++ ("/isochrone" ++ "?") ++
      p.query ++ String.join (c.toList.map fragment) := rfl
  rw [hbuild, pathOf, queryOf, ← toList_fragments]
  simp only [String.toList_append, List.append_assoc]
  rfl

/-- What a query is written with. -/
theorem mem_queryOf {p : QueryParameters} {c : Cutoffs} {x : Char} (h : x ∈ queryOf p c) :
    Form.isWritten x = true ∨ x = '=' ∨ x = '&' := by
  rcases List.mem_append.mp h with hparameters | hcutoffs
  · exact Form.mem_encode hparameters
  · exact Form.mem_encodeMore hcutoffs

theorem not_mem_queryOf {x : Char} (hw : Form.isWritten x = false) (he : x ≠ '=')
    (ha : x ≠ '&') (p : QueryParameters) (c : Cutoffs) : x ∉ queryOf p c := by
  intro h
  rcases mem_queryOf h with hx | hx | hx
  · rw [hw] at hx
    cases hx
  · exact he hx
  · exact ha hx

theorem question_not_mem_queryOf (p : QueryParameters) (c : Cutoffs) :
    '?' ∉ queryOf p c := not_mem_queryOf (by decide) (by decide) (by decide) p c

theorem decode?_queryOf (p : QueryParameters) (c : Cutoffs) :
    Form.decode? (queryOf p c) = some (p.pairs ++ c.toList.map cutoffPair) :=
  Form.decode?_encode_append _ _

/-- Without parameters a query begins with an ampersand, before which no pair is read. -/
example : queryOf .empty ⟨[300, 60]⟩ = "&cutoffSec=300&cutoffSec=60".toList := by decide

example : Form.decode? "&cutoffSec=300&cutoffSec=60".toList =
    some [("cutoffSec", "300"), ("cutoffSec", "60")] := by decide

/-- The pairs of cutoffs name no router. -/
theorem routerOf_append_cutoffs (pairs : List (String × String)) (cutoffs : List UInt32) :
    QueryParameters.routerOf (pairs ++ cutoffs.map cutoffPair) =
      QueryParameters.routerOf pairs := by
  have hnone : (cutoffs.map cutoffPair).lookup "routerId" = none := by
    rw [List.lookup_eq_none_iff]
    intro pair hpair
    obtain ⟨seconds, -, rfl⟩ := List.mem_map.mp hpair
    have hkey : ("routerId" != "cutoffSec") = true := by decide
    exact hkey
  rw [QueryParameters.routerOf, QueryParameters.routerOf, List.lookup_append, hnone,
    Option.or_none]

/-- A built URL reads back. Behind its last question mark stand letters, digits and a few marks
alone, which decode to the shown parameters in ascending order of their names, followed by one
pair per cutoff in the order of the cutoffs; the path before it names the router of these
pairs. -/
theorem build_reads_back (p : QueryParameters) (c : Cutoffs) :
    ∃ (path query : List Char) (pairs : List (String × String)),
      (build p c).toString.toList = path ++ '?' :: query ∧ '?' ∉ query ∧
      (∀ x ∈ query, x.isAlphanum ∨ x ∈ "*-._+%=&".toList) ∧
      Form.decode? query = some pairs ∧
      pairs = p.toList.map (fun entry => (entry.1, entry.2.display)) ++
        c.toList.map (fun seconds => ("cutoffSec", seconds.toNat.repr)) ∧
      (p.toList.map Prod.fst).Pairwise (· < ·) ∧
      path = ("/otp/routers/" ++ QueryParameters.routerOf pairs ++ "/isochrone").toList := by
  refine ⟨pathOf p, queryOf p c, _, toList_build p c, question_not_mem_queryOf p c, ?_,
    decode?_queryOf p c, rfl, p.names_ascending, ?_⟩
  · intro x hx
    rcases mem_queryOf hx with hw | rfl | rfl
    · rcases Form.alphanum_or_mark_of_isWritten hw with ha | hm
      · exact Or.inl ha
      · exact Or.inr (List.mem_append_left _ hm)
    · exact Or.inr (by decide)
    · exact Or.inr (by decide)
  · rw [routerOf_append_cutoffs, ← p.router_eq_routerOf]
    rfl

end RequestUrl

end Isochrone
