import Isochrone.Proofs.Json.Written
import Isochrone.Proofs.Parameters
import Isochrone.Proofs.Reading

/-!
# Parameters as JSON

Parameters are written as an object of scalars, and a scalar has the kind of the value that it
stands for: an integer stays one over the whole signed range, and a text stays a text whatever
it spells. Only a float without a JSON form is lost, since it is written as null, which no
parameter is read from.
-/

namespace Isochrone

open Json (Value)

namespace ParamValue

/-- Whether a value has a JSON form of its own, which infinities and `nan` have not. -/
def Writable : ParamValue → Prop
  | .float x => x.isFinite = true
  | _ => True

theorem writable_iff {v : ParamValue} :
    v.Writable ↔ ∀ x, v = .float x → x.isFinite = true := by
  cases v <;> simp [Writable]

/-- An integer that fits 64 bits with a sign is read as it is. -/
theorem ofJson?_of_fitsSigned64 {n : Int} (h : Json.Fits64 n) (fits : FitsSigned64 n) :
    ofJson? (.number (.integer n h)) = some (.integer n fits) := by
  have hinteger : integer? (.number (.integer n h)) = some (.integer n fits) := dif_pos fits
  simp only [ofJson?, List.findSome?, bool?, hinteger]

/-- A value with a JSON form is read back, in its kind. -/
theorem decode_toJson {v : ParamValue} (h : v.Writable) : decode (.ofValue v.toJson) = .ok v := by
  cases v with
  | bool b => rfl
  | integer n fits =>
    exact (decode_eq_ok_iff rfl).mpr (ofJson?_of_fitsSigned64 _ fits)
  | float x =>
    cases x with
    | finite x => rfl
    | infinite negative => cases h
    | nan => cases h
  | text s => rfl

/-- Nothing is read from the null of a value without a JSON form. -/
theorem decode_toJson_error {v : ParamValue} (h : ¬ v.Writable) :
    decode (.ofValue v.toJson) = .error (.unsuitable .noParameterValue) := by
  cases v with
  | float x =>
    cases x with
    | finite x => exact absurd rfl h
    | infinite negative => rfl
    | nan => rfl
  | _ => exact absurd trivial h

/-- A value that is no float is written without a point. -/
theorem whole_toJson {v : ParamValue} (h : ∀ x, v ≠ .float x) (depth : Nat) :
    v.toJson.Whole depth := by
  cases v with
  | bool b => exact .bool depth b
  | integer n fits => exact .integer depth _
  | float x => exact absurd rfl (h x)
  | text s => exact .string depth s

end ParamValue

namespace QueryParameters

/-- Parameters with JSON forms are read back from their object. -/
theorem ofValue_toJson {p : QueryParameters} (h : ∀ entry ∈ p.toList, entry.2.Writable) :
    Reading.ofValue decode p.toJson = .ok p := by
  rw [Reading.ofValue, decode, toJson, toList,
    Reading.map_ofEntries fun entry hentry => ParamValue.decode_toJson (h entry hentry)]
  rfl

/-- One parameter without a JSON form leaves nothing to be read. -/
theorem ofValue_toJson_error {p : QueryParameters} (h : ∃ entry ∈ p.toList, ¬ entry.2.Writable) :
    Reading.ofValue decode p.toJson = .error (.unsuitable .noParameterValue) := by
  obtain ⟨entry, hentry, hvalue⟩ := h
  have hall : ∀ entry ∈ p.toMap.entries,
      ParamValue.decode (.ofValue entry.2.toJson) = .ok entry.2 ∨
        ParamValue.decode (.ofValue entry.2.toJson) = .error (.unsuitable .noParameterValue) :=
    fun entry _ => (em entry.2.Writable).imp ParamValue.decode_toJson
      ParamValue.decode_toJson_error
  rw [Reading.ofValue, decode, toJson, toList,
    Reading.map_ofEntries_error hall ⟨entry, hentry, ParamValue.decode_toJson_error hvalue⟩]
  rfl

/-- Parameters without floats are read back from their text. -/
theorem ofText_toJson {p : QueryParameters} (h : ∀ key x, (key, .float x) ∉ p.toList) :
    Reading.ofText decode p.toJson.text = .ok p := by
  have hvalue : ∀ entry ∈ p.toList, ∀ x, entry.2 ≠ .float x := by
    rintro ⟨key, v⟩ hentry x rfl
    exact h key x hentry
  have hwhole : p.toJson.Whole 1 := by
    refine .object fun member hmember => ?_
    obtain ⟨entry, hentry, rfl⟩ := List.mem_map.mp hmember
    exact ParamValue.whole_toJson (hvalue entry hentry) 0
  refine Reading.ofText_of_ofValue hwhole (by decide) (ofValue_toJson fun entry hentry => ?_)
  exact ParamValue.writable_iff.mpr fun x hx => absurd hx (hvalue entry hentry x)

/-- Parameters survive their JSON form: in a text if none of them is a float, as a value just if
every float is finite. Otherwise nothing is read. -/
theorem survives_serialisation (p : QueryParameters) :
    ((∀ key x, (key, .float x) ∉ p.toList) →
      Reading.ofText decode p.toJson.text = .ok p) ∧
    (Reading.ofValue decode p.toJson = .ok p ↔
      ∀ key x, (key, .float x) ∈ p.toList → x.isFinite = true) ∧
    ((∃ key x, (key, .float x) ∈ p.toList ∧ x.isFinite = false) →
      Reading.ofValue decode p.toJson = .error (.unsuitable .noParameterValue)) := by
  have hfails : (∃ key x, (key, .float x) ∈ p.toList ∧ x.isFinite = false) →
      Reading.ofValue decode p.toJson = .error (.unsuitable .noParameterValue) := by
    rintro ⟨key, x, hentry, hx⟩
    exact ofValue_toJson_error ⟨_, hentry, by simp [ParamValue.Writable, hx]⟩
  refine ⟨ofText_toJson, ⟨fun hread key x hentry => ?_, fun h => ?_⟩, hfails⟩
  · by_contra hx
    rw [hfails ⟨key, x, hentry, Bool.eq_false_iff.mpr hx⟩] at hread
    cases hread
  · refine ofValue_toJson ?_
    rintro ⟨key, v⟩ hentry
    refine ParamValue.writable_iff.mpr ?_
    rintro x rfl
    exact h key x hentry

/-- Texts that spell values of other kinds, and the ends of the range of an integer. -/
def lookalikes : QueryParameters :=
  ⟨⟨[("\x01\"", .text "true"), ("a", .text "12"), ("b", .text "null"),
    ("c", .integer (-0x8000000000000000) (by decide)),
    ("d", .integer 0x7fffffffffffffff (by decide)), ("e", .bool true)], by decide⟩⟩

/-- The float two: `2 ^ 52` times `2 ^ 1023` units. -/
def two : Binary64.Finite :=
  ⟨false, 0x10000000000000, 1023, by decide, Or.inr (by decide), by decide⟩

/-- A float that equals an integer. -/
def wholeFloat : QueryParameters := empty.insert "x" (.float (.finite two))

/-- Texts stay texts and a float stays a float, but beside `nan` nothing is read. -/
theorem survives_serialisation_lookalikes :
    Reading.ofText decode lookalikes.toJson.text = .ok lookalikes ∧
    Reading.ofValue decode wholeFloat.toJson = .ok wholeFloat ∧
    Reading.ofValue decode (wholeFloat.insert "y" (.float .nan)).toJson =
      .error (.unsuitable .noParameterValue) := by
  refine ⟨(survives_serialisation lookalikes).1 ?_, (survives_serialisation wholeFloat).2.1.mpr ?_,
    (survives_serialisation _).2.2 ⟨"y", .nan, ?_, rfl⟩⟩
  · simp [lookalikes, toList]
  · intro key x hentry
    have hentries : wholeFloat.toList = [("x", .float (.finite two))] := rfl
    rw [hentries, List.mem_singleton] at hentry
    cases hentry
    rfl
  · have hentries : (wholeFloat.insert "y" (.float .nan)).toList =
        [("x", .float (.finite two)), ("y", .float .nan)] := rfl
    rw [hentries]
    exact List.mem_cons_of_mem _ List.mem_cons_self

end QueryParameters

end Isochrone
