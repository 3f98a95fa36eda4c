import Isochrone.Cutoffs
import Isochrone.Proofs.Json.Written
import Isochrone.Proofs.Reading.Fields

/-!
# Cutoffs as JSON

Cutoffs are written as an array of integers and read back as they were. No other value is read as
cutoffs: what is read is an array of integers of 32 bits, it gives these integers in their order,
and the cutoffs are written as it again.
-/

namespace Isochrone

open Json (Value)

namespace Json.Value

/-- An array that holds nothing but integers lists these integers. -/
inductive Lists : Value → List Int → Prop where
  | array {items : List Value} {ns : List Int}
    (h : List.Forall₂ (fun item n => ∃ fits, item = .number (.integer n fits)) items ns) :
    Lists (.array items) ns

/-- An integer of 32 bits is written as the number that it is. -/
theorem integer_eq_ofUInt32 {n : Int} (fits : Fits64 n) (h : 0 ≤ n ∧ n < 0x100000000) :
    number (.integer n fits) = ofUInt32 (UInt32.ofNat n.toNat) := by
  have hlt : n.toNat < 0x100000000 := by omega
  have hvalue : ((UInt32.ofNat n.toNat).toNat : Int) = n := by
    rw [UInt32.toNat_ofNat_of_lt' hlt]
    omega
  simp only [ofUInt32, Number.ofUInt32, hvalue]

end Json.Value

namespace Reading

/-- A 32-bit number is read from the integer that it is, and from nothing else. -/
theorem number32_eq_ok_iff {v : Value} {seconds : UInt32} :
    number32 (.ofValue v) = .ok seconds ↔ v = .ofUInt32 seconds := by
  constructor
  · intro h
    cases v with
    | number number =>
      cases number with
      | integer n fits =>
        simp only [Json.Document.ofValue, number32] at h
        split at h
        · rename_i hrange
          obtain rfl := Except.ok.inj h
          exact Value.integer_eq_ofUInt32 fits hrange
        · cases h
      | real x => cases h
    | _ => cases h
  · rintro rfl
    have hlt : seconds.toNat < 0x100000000 := seconds.toNat_lt
    have hrange : (0 : Int) ≤ seconds.toNat ∧ (seconds.toNat : Int) < 0x100000000 := by omega
    simp only [Value.ofUInt32, Json.Number.ofUInt32, Json.Document.ofValue, number32, if_pos hrange,
      Int.toNat_natCast, UInt32.ofNat_toNat]

/-- A list is read from arrays only. -/
theorem exists_array_of_list {α : Type} {decode : Decoder α} {v : Value} {as : List α}
    (h : list decode (.ofValue v) = .ok as) : ∃ items, v = .array items := by
  cases v with
  | array items => exact ⟨items, rfl⟩
  | _ => exact absurd h (refuse_ne_ok _ _ _)

end Reading

namespace Cutoffs

/-- Cutoffs are read from what they are written as, and from no other value. -/
theorem ofValue_eq_ok_iff {v : Value} {c : Cutoffs} :
    Reading.ofValue decode v = .ok c ↔ v = c.toJson := by
  constructor
  · intro h
    obtain ⟨seconds, hlist, rfl⟩ := map_eq_ok.mp h
    obtain ⟨items, rfl⟩ := Reading.exists_array_of_list hlist
    have hitems : List.Forall₂ Eq items (seconds.map .ofUInt32) :=
      List.forall₂_map_right_iff.mpr
        ((Reading.forall₂_of_list hlist).imp fun _ _ => Reading.number32_eq_ok_iff.mp)
    rw [List.forall₂_eq_eq_eq] at hitems
    exact congrArg Value.array hitems
  · rintro rfl
    have hlist : Reading.list Reading.number32 (.ofValue c.toJson) = .ok (c.toList.map id) :=
      Reading.list_ofItems fun seconds _ => Reading.number32_eq_ok_iff.mpr rfl
    rw [List.map_id] at hlist
    rw [Reading.ofValue, decode, hlist]
    rfl

/-- The text of cutoffs is read back. -/
theorem ofText_toJson (c : Cutoffs) : Reading.ofText decode c.toJson.text = .ok c := by
  have hwhole : c.toJson.Whole 1 := by
    refine .array fun item hitem => ?_
    obtain ⟨seconds, -, rfl⟩ := List.mem_map.mp hitem
    exact .integer 0 _
  exact Reading.ofText_of_ofValue hwhole (by decide) (ofValue_eq_ok_iff.mpr rfl)

/-- Cutoffs are written as an array of their numbers. -/
theorem lists_toJson (c : Cutoffs) :
    c.toJson.Lists (c.toList.map fun seconds => (seconds.toNat : Int)) := by
  refine .array ?_
  rw [List.forall₂_map_left_iff, List.forall₂_map_right_iff, List.forall₂_same]
  exact fun seconds _ => ⟨_, rfl⟩

/-- An array of integers of 32 bits is what cutoffs are written as. -/
theorem exists_eq_toJson {v : Value} {ns : List Int} (h : v.Lists ns)
    (hrange : ∀ n ∈ ns, 0 ≤ n ∧ n ≤ 4294967295) : ∃ c : Cutoffs, v = c.toJson := by
  obtain ⟨h⟩ := h
  induction h with
  | nil => exact ⟨empty, rfl⟩
  | @cons item n items ns hitem _ ih =>
    obtain ⟨hn, hns⟩ := List.forall_mem_cons.mp hrange
    obtain ⟨fits, rfl⟩ := hitem
    obtain ⟨c, hitems⟩ := ih hns
    refine ⟨⟨UInt32.ofNat n.toNat :: c.toList⟩, ?_⟩
    rw [Value.integer_eq_ofUInt32 fits (by omega), Value.array.inj hitems]
    rfl

/-- Cutoffs are read back from the text that they are written as, in their order and with what is
repeated. A value is read as cutoffs just if it is an array of integers from 0 to `2 ^ 32 - 1`; the
cutoffs are then these integers in their order, and what they are written as is the value. -/
theorem reads_integers_alone :
    (∀ c : Cutoffs, Reading.ofText decode c.toJson.text = .ok c) ∧
    ∀ v : Value,
      ((∃ c, Reading.ofValue decode v = .ok c) ↔
        ∃ ns, v.Lists ns ∧ ∀ n ∈ ns, 0 ≤ n ∧ n ≤ 4294967295) ∧
      ∀ c, Reading.ofValue decode v = .ok c →
        v.Lists (c.toList.map fun seconds => (seconds.toNat : Int)) ∧ c.toJson = v := by
  refine ⟨ofText_toJson, fun v => ⟨⟨?_, ?_⟩, ?_⟩⟩
  · rintro ⟨c, hc⟩
    obtain rfl := ofValue_eq_ok_iff.mp hc
    refine ⟨_, c.lists_toJson, List.forall_mem_map.mpr fun seconds _ => ?_⟩
    have hlt : seconds.toNat < 0x100000000 := seconds.toNat_lt
    omega
  · rintro ⟨ns, hlists, hrange⟩
    obtain ⟨c, hv⟩ := exists_eq_toJson hlists hrange
    exact ⟨c, ofValue_eq_ok_iff.mpr hv⟩
  · intro c hc
    obtain rfl := ofValue_eq_ok_iff.mp hc
    exact ⟨c.lists_toJson, rfl⟩

/-- The greatest cutoff is read, but neither minus zero nor the integer behind it. -/
example : (Reading.ofText decode "[0, 4294967295]").toOption = some ⟨[0, 4294967295]⟩ ∧
    (Reading.ofText decode "[-0]").toOption = none ∧
    (Reading.ofText decode "[4294967296]").toOption = none := by decide +kernel

end Cutoffs

end Isochrone
