import Isochrone.Proofs.Json.Distinct
import Isochrone.Proofs.Number.Shortest
import Isochrone.Proofs.RequestUrl.CutoffPairs

/-!
# Integers among the parameters

A parameter is read from the value of its member alone, and the query gives its name just the text
of that. An integer that fits 64 bits with a sign keeps its digits; a larger one is held as the
nearest float, whose text spells another integer unless it is the one with the most zeros.
-/

namespace Isochrone

open Json (Value)

namespace Reading

open Json (Document)

variable {α : Type} {decode : Decoder α} {R : Value → α → Prop}
  (hdecode : ∀ d v a, d.read = .ok v → decode d = .ok a → R v a)
include hdecode

theorem forall₂_of_pairs {members : List (Except Json.Fault String × Document)}
    {values : List (String × Value)} {as : List (String × α)}
    (hread : Document.MembersRead members values) (h : pairs decode members = .ok as) :
    List.Forall₂ (fun value a => value.1 = a.1 ∧ R value.2 a.2) values as := by
  induction hread generalizing as with
  | nil =>
    cases h
    exact .nil
  | @cons member value members values hmember _ ih =>
    simp only [pairs, hmember.1, bind_eq_ok] at h
    obtain ⟨key, hkey, a, ha, rest, hrest, heq⟩ := h
    cases hkey
    cases heq
    exact .cons ⟨rfl, hdecode _ _ _ hmember.2 ha⟩ (ih hrest)

/-- Each entry of a map is read from the member that is left of its name, the last one. -/
theorem rel_of_map {d : Document} {m : SortedMap String Value} {s : SortedMap String α}
    (hread : d.read = .ok (.ofMap m)) (h : map decode d = .ok s) (key : String) :
    Option.Rel R (m.get? key) (s.get? key) := by
  generalize hv : Value.ofMap m = v at hread
  cases Document.reads_of_read hread with
  | null | bool _ | number _ | string _ | array _ _ _ => cases hv
  | @object brackets members values henter hleave hmembers =>
    have hm : m = .ofList values := SortedMap.ext_entries (Value.object.inj hv)
    simp only [map, bind_eq_ok] at h
    obtain ⟨-, -, as, has, -, -, heq⟩ := h
    cases heq
    rw [hm, SortedMap.get?_ofList, SortedMap.get?_ofList]
    exact SortedMap.rel_lookupEntry
      (List.forall₂_reverse_iff.mpr (forall₂_of_pairs hdecode hmembers has)) key

end Reading

/-- An integer that fits 64 bits with a sign is shown as it is, and a larger one as its float. -/
theorem ParamValue.display_of_integer {n : ℤ} {fits : Json.Fits64 n} {w : ParamValue}
    (h : ofJson? (.number (.integer n fits)) = some w) :
    w.display = if n < 2 ^ 63 then toString n else (Binary64.ofInt n).text := by
  have hsigned : FitsSigned64 n ↔ n < 2 ^ 63 := by
    unfold Json.Fits64 at fits
    unfold FitsSigned64
    omega
  simp only [ofJson?, List.findSome?, bool?, integer?, float?] at h
  by_cases hn : n < 2 ^ 63
  · rw [dif_pos (hsigned.mpr hn)] at h
    cases h
    rw [if_pos hn]
    rfl
  · rw [dif_neg (hsigned.not.mpr hn)] at h
    cases h
    rw [if_neg hn]
    rfl

namespace QueryParameters

variable {d : Json.Document} {m : SortedMap String Value} {p : QueryParameters} {key : String}

/-- A parameter is what the value of its member stands for. -/
theorem get?_of_decode (hread : d.read = .ok (.ofMap m)) (h : decode d = .ok p) {v : Value}
    (hmember : m.get? key = some v) : ∃ w, ParamValue.ofJson? v = some w ∧ p.get? key = some w := by
  obtain ⟨s, hs, rfl⟩ := map_eq_ok.mp h
  have hdecode : ∀ (d : Json.Document) (v : Value) (w : ParamValue), d.read = .ok v →
      ParamValue.decode d = .ok w → ParamValue.ofJson? v = some w :=
    fun d v w hread => (ParamValue.decode_eq_ok_iff hread).mp
  have hrel := Reading.rel_of_map hdecode hread hs key
  rw [hmember] at hrel
  cases hget : s.get? key with
  | none =>
    rw [hget] at hrel
    cases hrel
  | some w =>
    rw [hget] at hrel
    cases hrel with
    | some hw => exact ⟨w, hw, hget⟩

/-- The query gives a name the text of its parameter. -/
theorem exists_decoded (p : QueryParameters) (key : String) :
    Form.decode? p.query.toList = some p.pairs ∧
      Form.valuesOf key p.pairs = ((p.get? key).map ParamValue.display).toList := by
  refine ⟨?_, p.valuesOf_pairs key⟩
  have hmore : Form.encodeMore [] = [] := rfl
  have hdecode := Form.decode?_encode_append p.pairs []
  rw [hmore, List.append_nil, List.append_nil] at hdecode
  exact hdecode

/-- Parameters are read from an object, of a text or of a value. A member of it whose value is an
integer gives its name one text in the decoded query. This is the decimal form of the integer just
if that is below `2 ^ 63` or spells the binary64 number that is nearest to it; so from there on it
is never the decimal form of an integer that does not end in three zeros, and always that of one
that ends in four. -/
theorem forwards_integer_iff {n : ℤ} {fits : Json.Fits64 n} (hread : d.read = .ok (.ofMap m))
    (hp : decode d = .ok p) (hmember : m.get? key = some (.number (.integer n fits))) :
    ∃ pairs text, Form.decode? p.query.toList = some pairs ∧ Form.valuesOf key pairs = [text] ∧
      (text = toString n ↔ n < 2 ^ 63 ∨ ∃ x, Binary64.Finite.Spells n x) ∧
      (2 ^ 63 ≤ n → text = toString n → 1000 ∣ n) ∧ (10000 ∣ n → text = toString n) := by
  obtain ⟨w, hw, hget⟩ := get?_of_decode hread hp hmember
  obtain ⟨hdecode, hvalues⟩ := p.exists_decoded key
  rw [hget] at hvalues
  refine ⟨p.pairs, _, hdecode, hvalues, ?_⟩
  rw [ParamValue.display_of_integer hw]
  by_cases hn : n < 2 ^ 63
  · rw [if_pos hn]
    have hsmall : ¬ 2 ^ 63 ≤ n := Int.not_le.mpr hn
    exact ⟨iff_of_true rfl (Or.inl hn), fun hlarge => absurd hlarge hsmall, fun _ => rfl⟩
  · rw [if_neg hn]
    unfold Json.Fits64 at fits
    obtain ⟨n, rfl⟩ := Int.eq_ofNat_of_zero_le (show 0 ≤ n by omega)
    obtain ⟨x, v, hx, hsurrounds⟩ := Binary64.exists_ofInt_surrounds (n := n) (by omega) (by omega)
    have htext : (Binary64.ofInt n).text = toString (n : ℤ) ↔ Binary64.Finite.Spells n x := by
      rw [hx]
      exact hsurrounds.text_eq_iff
    rw [htext]
    refine ⟨⟨fun hspells => Or.inr ⟨x, hspells⟩, ?_⟩, fun _ => hsurrounds.thousand_dvd,
      fun hdvd => hsurrounds.spells_of_dvd hx (by exact_mod_cast hdvd)⟩
    rintro (hsmall | ⟨y, hspells⟩)
    · exact absurd hsmall hn
    · have hy : x = y := Binary64.finite.inj (hx.symm.trans hspells.rounds)
      exact hy ▸ hspells

/-- Two integers beyond the signed range, the second of which ends in four zeros. -/
def largeMembers : SortedMap String Value :=
  ⟨[("a", .number (.integer 9223372036854775809 (by decide))),
    ("b", .number (.integer 9223372036854780000 (by decide)))], by decide⟩

/-- The floats that they are held as. -/
def largeFloats : QueryParameters :=
  ⟨⟨[("a", .float (.ofInt 9223372036854775809)), ("b", .float (.ofInt 9223372036854780000))],
    by decide⟩⟩

/-- The integer with the zeros keeps its digits, and the other one does not. -/
theorem forwards_integer_iff_large : ∃ pairs, Form.decode? largeFloats.query.toList = some pairs ∧
    Form.valuesOf "a" pairs ≠ ["9223372036854775809"] ∧
    Form.valuesOf "b" pairs = ["9223372036854780000"] := by
  have hread : (Json.Document.ofValue (.ofMap largeMembers)).read = .ok (.ofMap largeMembers) := rfl
  have hp : decode (.ofValue (.ofMap largeMembers)) = .ok largeFloats := rfl
  have hmember : largeMembers.get? "a" = some (.number (.integer 9223372036854775809 _)) := rfl
  have hmember' : largeMembers.get? "b" = some (.number (.integer 9223372036854780000 _)) := rfl
  obtain ⟨pairs, text, hpairs, hvalues, -, hrounded, -⟩ := forwards_integer_iff hread hp hmember
  obtain ⟨pairs', text', hpairs', hvalues', -, -, hkept⟩ := forwards_integer_iff hread hp hmember'
  obtain rfl : pairs = pairs' := Option.some.inj (hpairs.symm.trans hpairs')
  refine ⟨pairs, hpairs, ?_, ?_⟩
  · rw [hvalues]
    intro heq
    have hdvd := hrounded (by decide) (List.singleton_inj.mp heq)
    exact absurd hdvd (by decide)
  · rw [hvalues', hkept (by decide)]
    rfl

/-- An integer just beyond the signed range is given by digits that are not its own. -/
theorem respells_large_integer :
    ((Reading.ofText decode "\x7b\"n\": 9223372036854775809\x7d").toOption.bind fun p =>
      Form.decode? p.query.toList) = some [("n", "9223372036854776000")] ∧
    toString (9223372036854775809 : ℤ) = "9223372036854775809" := by
  decide +kernel

end QueryParameters

end Isochrone
