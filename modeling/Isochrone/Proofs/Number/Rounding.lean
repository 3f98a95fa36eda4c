import Isochrone.Number.Shortest
import Isochrone.Proofs.Number.Exact

/-!
# The ratios that round to a number

A ratio of units is rounded to the whole number of significant units that is at most a half away,
at two such numbers to the even one. So the ratios that round to a binary64 number are those of its
interval: the bounds lie half way to its neighbours, also where the spacing of the numbers changes,
and they belong to the interval of an even significand.
-/

namespace Isochrone.Binary64

/-- A ratio is at most a half away from a whole number, and less if the number is odd. -/
structure RoundsTo (num den n : Nat) : Prop where
  below : 2 * (n * den) ≤ 2 * num + den
  above : 2 * num ≤ 2 * (n * den) + den
  odd : n % 2 = 1 → 2 * (n * den) ≠ 2 * num + den ∧ 2 * num ≠ 2 * (n * den) + den

section Whole

variable {num den m n : Nat}

/-- A ratio rounds to the number that it is rounded to. -/
theorem roundsTo_roundHalfEven (hden : 0 < den) : RoundsTo num den (roundHalfEven num den) := by
  have hsplit : den * (num / den) + num % den = num := Nat.div_add_mod num den
  have hrest : num % den < den := Nat.mod_lt num hden
  have hfloor : num / den * den = den * (num / den) := Nat.mul_comm _ _
  have hceil : (num / den + 1) * den = den * (num / den) + den := by
    rw [Nat.add_mul, hfloor, Nat.one_mul]
  rw [roundHalfEven]
  split
  · exact ⟨by omega, by omega, by omega⟩
  split
  · exact ⟨by omega, by omega, by omega⟩
  · -- a tie goes up from an odd floor only
    rcases Nat.mod_two_eq_zero_or_one (num / den) with heven | hodd
    · rw [heven, Nat.add_zero]
      exact ⟨by omega, by omega, by omega⟩
    · rw [hodd]
      exact ⟨by omega, by omega, by omega⟩

/-- No ratio rounds to two numbers, the greater of which comes second. -/
theorem RoundsTo.le (hden : 0 < den) (hm : RoundsTo num den m) (hn : RoundsTo num den n) :
    n ≤ m := by
  by_contra hlt
  have hstep : (m + 1) * den ≤ n * den := Nat.mul_le_mul_right den (by omega)
  have hnext : (m + 1) * den = m * den + den := by rw [Nat.add_mul, Nat.one_mul]
  obtain ⟨hbelow, -, hodd⟩ := hn
  obtain ⟨-, habove, hodd'⟩ := hm
  -- the two numbers would be neighbours with the ratio half way between them
  have hn : n = m + 1 := Nat.eq_of_mul_eq_mul_right hden (by omega)
  rcases Nat.mod_two_eq_zero_or_one m with heven | hm
  · exact (hodd (by omega)).1 (by omega)
  · exact (hodd' hm).2 (by omega)

/-- A ratio is rounded to the one whole number that it rounds to. -/
theorem roundHalfEven_eq_iff (hden : 0 < den) :
    roundHalfEven num den = n ↔ RoundsTo num den n := by
  have hround : RoundsTo num den (roundHalfEven num den) := roundsTo_roundHalfEven hden
  constructor
  · rintro rfl
    exact hround
  · intro h
    exact Nat.le_antisymm (h.le hden hround) (hround.le hden h)

end Whole

/-- What a shift by the exponent makes of 53 bits. -/
theorem shiftLeft_mul (den bits e : Nat) : 2 ^ bits * (den <<< e) = 2 ^ (bits + e) * den := by
  rw [Nat.shiftLeft_eq, Nat.pow_add, Nat.mul_assoc, Nat.mul_comm den]

/-- The exponent of a ratio leaves at most 53 bits before the point, and just 53 if it is not the
smallest. -/
theorem exponent_eq_iff {num den e : Nat} (hden : 0 < den) :
    (num / den).log2 - 52 = e ↔
      num < 2 ^ 53 * (den <<< e) ∧ (e ≠ 0 → 2 ^ 52 * (den <<< e) ≤ num) := by
  have habove : num < 2 ^ 53 * (den <<< e) ↔ num / den < 2 ^ (53 + e) := by
    rw [shiftLeft_mul, Nat.div_lt_iff_lt_mul hden]
  have hbelow : 2 ^ 52 * (den <<< e) ≤ num ↔ 2 ^ (52 + e) ≤ num / den := by
    rw [shiftLeft_mul, Nat.le_div_iff_mul_le hden]
  rw [habove, hbelow]
  by_cases hzero : num / den = 0
  · have hlog : (num / den).log2 = 0 := by rw [hzero, Nat.log2_zero]
    have hpos : 0 < 2 ^ (52 + e) := Nat.two_pow_pos _
    have hpos' : 0 < 2 ^ (53 + e) := Nat.two_pow_pos _
    omega
  · rw [← Nat.log2_lt hzero, ← Nat.le_log2 hzero]
    omega

namespace Finite

/-- An interval contains what is between its bounds, and the bounds themselves if it is closed. -/
theorem Interval.contains_iff {i : Interval} {k : Nat} :
    i.contains k = true ↔ i.low ≤ k ∧ k ≤ i.high ∧ (i.closed = false → i.low ≠ k ∧ k ≠ i.high) := by
  rw [contains]
  cases i.closed with
  | false =>
    simp only [Bool.false_eq_true, if_false, Bool.and_eq_true, decide_eq_true_eq, forall_const]
    omega
  | true => simp

/-- Whether a number has the smallest significand of its exponent, so that its lower neighbour is
nearer than the upper one. -/
def IsPower (x : Finite) : Prop := x.significand = 2 ^ 52 ∧ 0 < x.exponent

section Interval

variable (x : Finite) (num den : Nat)

/-- The units of a number over a denominator are its significand at its exponent. -/
theorem units_mul : x.units * den = x.significand * (den <<< x.exponent) := by
  rw [units, Nat.shiftLeft_eq, Nat.shiftLeft_eq, Nat.mul_assoc, Nat.mul_comm den]

theorem unit_mul (e : Nat) : (1 <<< e) * den = den <<< e := by
  rw [Nat.shiftLeft_eq, Nat.shiftLeft_eq, Nat.one_mul, Nat.mul_comm]

/-- The bounds of the interval, times a denominator. -/
theorem interval_times_high :
    (x.interval.times den).high =
      4 * (x.significand * (den <<< x.exponent)) + 2 * (den <<< x.exponent) := by
  simp only [interval, Interval.times]
  rw [Nat.add_mul, Nat.mul_assoc, Nat.mul_assoc, units_mul, unit_mul]

/-- The lower bound is half way down to the neighbour of the same spacing. -/
theorem interval_times_low (h : ¬ x.IsPower) :
    (x.interval.times den).low =
      4 * (x.significand * (den <<< x.exponent)) - 2 * (den <<< x.exponent) := by
  have hbelow : ¬ (x.significand = 0x10000000000000 ∧ 0 < x.exponent) := h
  simp only [interval, Interval.times, if_neg hbelow]
  rw [Nat.sub_mul, Nat.mul_assoc, Nat.mul_assoc, units_mul, unit_mul]

/-- Below a power of two the neighbour is half as far away. -/
theorem interval_times_low_of_isPower (h : x.IsPower) :
    (x.interval.times den).low =
      4 * (x.significand * (den <<< x.exponent)) - den <<< x.exponent := by
  have hbelow : x.significand = 0x10000000000000 ∧ 0 < x.exponent := h
  simp only [interval, Interval.times, if_pos hbelow]
  rw [Nat.sub_mul, Nat.mul_assoc, units_mul, unit_mul]

/-- Between neighbours with the same spacing a ratio lies in an interval just if it rounds to the
significand. -/
theorem contains_iff_roundsTo (h : ¬ x.IsPower) :
    (x.interval.times den).contains (4 * num) = true ↔
      RoundsTo num (den <<< x.exponent) x.significand := by
  have hclosed : (x.interval.times den).closed = decide (x.significand % 2 = 0) := rfl
  have hodd : x.significand % 2 = 1 → den <<< x.exponent ≤ x.significand * (den <<< x.exponent) :=
    fun hodd => Nat.le_mul_of_pos_left _ (by omega)
  rw [Interval.contains_iff, interval_times_high, interval_times_low x den h, hclosed,
    decide_eq_false_iff_not]
  generalize den <<< x.exponent = unit at hodd ⊢
  constructor
  · rintro ⟨hlow, hhigh, hopen⟩
    exact ⟨by omega, by omega, by omega⟩
  · rintro ⟨hbelow, habove, hends⟩
    exact ⟨by omega, by omega, by omega⟩

/-- Below a power of two the spacing halves: a ratio lies in the interval of the power just if it
rounds to its significand from there on, or in the finer spacing to the end of the range below. -/
theorem contains_iff_of_isPower (h : x.IsPower) :
    (x.interval.times den).contains (4 * num) = true ↔
      2 ^ 54 * (den <<< (x.exponent - 1)) ≤ 2 * num + den <<< (x.exponent - 1) ∧
        2 * num ≤ 2 ^ 53 * (den <<< x.exponent) + den <<< x.exponent := by
  have hclosed : (x.interval.times den).closed = true :=
    decide_eq_true (by rw [h.1]; decide : x.significand % 2 = 0)
  have hdouble : den <<< x.exponent = 2 * (den <<< (x.exponent - 1)) := by
    obtain ⟨e, he⟩ := Nat.exists_eq_succ_of_ne_zero h.2.ne'
    rw [he, Nat.succ_sub_one, Nat.shiftLeft_succ]
  rw [Interval.contains_iff, interval_times_high, interval_times_low_of_isPower x den h, hclosed,
    h.1, hdouble]
  generalize den <<< (x.exponent - 1) = unit
  simp only [reduceCtorEq, false_implies, and_true]
  omega

end Interval

end Finite

/-- A ratio has an exponent, and a significand that it rounds to there; rounding up may have made
it `2 ^ 53`. -/
structure Splits (num den e significand : Nat) : Prop where
  lt : num < 2 ^ 53 * (den <<< e)
  le : e ≠ 0 → 2 ^ 52 * (den <<< e) ≤ num
  roundsTo : RoundsTo num (den <<< e) significand

section Splits

variable {negative : Bool} {num den : Nat} (hden : 0 < den)
include hden

theorem shiftLeft_pos (e : Nat) : 0 < den <<< e := by
  rw [Nat.shiftLeft_eq]
  exact Nat.mul_pos hden (Nat.two_pow_pos e)

/-- Every ratio has an exponent and a significand. -/
theorem exists_splits (num : Nat) : ∃ e significand, Splits num den e significand := by
  obtain ⟨e, he⟩ : ∃ e, (num / den).log2 - 52 = e := ⟨_, rfl⟩
  obtain ⟨hlt, hle⟩ := (exponent_eq_iff hden).mp he
  exact ⟨e, _, hlt, hle, roundsTo_roundHalfEven (shiftLeft_pos hden e)⟩

/-- The exponent and the significand of a ratio are what its number is made of. -/
theorem Splits.ofUnits_eq {e significand : Nat} (h : Splits num den e significand) :
    ofUnits negative num den =
      if significand = 2 ^ 53 then assemble negative (2 ^ 52) (e + 1)
      else assemble negative significand e := by
  have hexponent : (num / den).log2 - 52 = e := (exponent_eq_iff hden).mpr ⟨h.lt, h.le⟩
  have hround : roundHalfEven num (den <<< e) = significand :=
    (roundHalfEven_eq_iff (shiftLeft_pos hden e)).mpr h.roundsTo
  simp only [ofUnits, hexponent, hround, Nat.reducePow]

/-- A ratio of units is rounded to a number only if it lies in the interval of that number. -/
theorem contains_of_ofUnits_eq {x : Finite} (h : ofUnits negative num den = .finite x) :
    x.negative = negative ∧ (x.interval.times den).contains (4 * num) = true := by
  obtain ⟨e, significand, hsplits⟩ := exists_splits hden num
  have hround := hsplits.roundsTo
  rw [hsplits.ofUnits_eq hden] at h
  split at h
  · rename_i hcarry
    obtain ⟨hsign, hsignificand, hexponent⟩ := assemble_eq_finite_iff.mp h
    refine ⟨hsign, ?_⟩
    rw [Finite.contains_iff_of_isPower x num den ⟨hsignificand, by omega⟩, hexponent,
      Nat.add_sub_cancel, Nat.shiftLeft_succ]
    have hbelow := hround.below
    have hlt := hsplits.lt
    rw [hcarry] at hbelow
    omega
  · obtain ⟨hsign, hsignificand, hexponent⟩ := assemble_eq_finite_iff.mp h
    refine ⟨hsign, ?_⟩
    rw [← hsignificand, ← hexponent] at hround
    by_cases hpower : x.IsPower
    · obtain ⟨e', he'⟩ := Nat.exists_eq_succ_of_ne_zero hpower.2.ne'
      have hle := hsplits.le (by omega)
      have habove := hround.above
      rw [Finite.contains_iff_of_isPower x num den hpower]
      rw [hpower.1] at habove
      rw [← hexponent, he', Nat.shiftLeft_succ] at hle
      rw [he', Nat.shiftLeft_succ] at habove ⊢
      rw [Nat.succ_sub_one]
      omega
    · exact (Finite.contains_iff_roundsTo x num den hpower).mpr hround

/-- The significand and the exponent of a number, where it is not rounded up to them from the
range below. -/
theorem Splits.ofUnits_eq_finite {x : Finite} (h : Splits num den x.exponent x.significand) :
    ofUnits x.negative num den = .finite x := by
  have hfits : x.significand ≠ 2 ^ 53 := Nat.ne_of_lt x.significand_lt
  rw [h.ofUnits_eq hden, if_neg hfits, assemble_eq_finite_iff]
  exact ⟨rfl, rfl, rfl⟩

/-- A ratio in the interval of a number is rounded to it. -/
theorem ofUnits_eq_of_contains {x : Finite}
    (h : (x.interval.times den).contains (4 * num) = true) :
    ofUnits x.negative num den = .finite x := by
  by_cases hpower : x.IsPower
  · have hends := (Finite.contains_iff_of_isPower x num den hpower).mp h
    obtain ⟨hsignificand, hexponent⟩ := hpower
    obtain ⟨e, he⟩ := Nat.exists_eq_succ_of_ne_zero hexponent.ne'
    rw [he, Nat.succ_sub_one, Nat.shiftLeft_succ] at hends
    have hunit : 0 < den <<< e := shiftLeft_pos hden e
    by_cases hreached : 2 ^ 52 * (den <<< x.exponent) ≤ num
    · refine Splits.ofUnits_eq_finite hden ⟨?_, fun _ => hreached, ?_⟩
      · rw [he, Nat.shiftLeft_succ]
        omega
      · rw [he, Nat.shiftLeft_succ] at hreached
        rw [hsignificand, he, Nat.shiftLeft_succ]
        exact ⟨by omega, by omega, by omega⟩
    · -- the ratio is below the power and rounded up to it
      rw [he, Nat.shiftLeft_succ] at hreached
      have hsplits : Splits num den e (2 ^ 53) :=
        ⟨by omega, fun _ => by omega, ⟨by omega, by omega, by omega⟩⟩
      rw [hsplits.ofUnits_eq hden, if_pos rfl, assemble_eq_finite_iff]
      exact ⟨rfl, hsignificand, he⟩
  · have hround := (Finite.contains_iff_roundsTo x num den hpower).mp h
    have hunit : 0 < den <<< x.exponent := shiftLeft_pos hden x.exponent
    refine Splits.ofUnits_eq_finite hden ⟨?_, fun hexponent => ?_, hround⟩
    · have hmul : (x.significand + 1) * (den <<< x.exponent) ≤ 2 ^ 53 * (den <<< x.exponent) :=
        Nat.mul_le_mul_right _ x.significand_lt
      rw [Nat.add_mul] at hmul
      have habove := hround.above
      omega
    · have hnormal : 2 ^ 52 ≤ x.significand := x.normal.resolve_left hexponent
      have hne : x.significand ≠ 2 ^ 52 := fun h => hpower ⟨h, by omega⟩
      have hmul : (2 ^ 52 + 1) * (den <<< x.exponent) ≤ x.significand * (den <<< x.exponent) :=
        Nat.mul_le_mul_right _ (by omega)
      rw [Nat.add_mul] at hmul
      have hbelow := hround.below
      omega

end Splits

/-- A ratio of units is rounded to a number just if it lies in the interval of that number. -/
theorem ofUnits_eq_finite_iff {negative : Bool} {num den : Nat} (hden : 0 < den) {x : Finite} :
    ofUnits negative num den = .finite x ↔
      x.negative = negative ∧ (x.interval.times den).contains (4 * num) = true := by
  constructor
  · exact contains_of_ofUnits_eq hden
  · rintro ⟨rfl, h⟩
    exact ofUnits_eq_of_contains hden h

/-- What is below `2 ^ 1023` is rounded to a number, and not to infinity. -/
theorem exists_ofRatio_eq {negative : Bool} {num den bits : Nat} (hden : 0 < den)
    (h : num < 2 ^ bits * den) (hbits : bits ≤ 1023) :
    ∃ x, ofRatio negative num den = .finite x := by
  obtain ⟨e, significand, hsplits⟩ := exists_splits hden (num * one)
  have hunit : 0 < den <<< e := shiftLeft_pos hden e
  have hbelow := hsplits.roundsTo.below
  have hlt := hsplits.lt
  have hfits : significand < 2 ^ 53 + 1 := by
    by_contra hge
    have hmul : (2 ^ 53 + 1) * (den <<< e) ≤ significand * (den <<< e) :=
      Nat.mul_le_mul_right _ (by omega)
    rw [Nat.add_mul] at hmul
    omega
  have hnormal : e ≠ 0 → 2 ^ 52 ≤ significand := by
    intro he
    have hle := hsplits.le he
    have habove := hsplits.roundsTo.above
    by_contra hlt
    have hmul : (significand + 1) * (den <<< e) ≤ 2 ^ 52 * (den <<< e) :=
      Nat.mul_le_mul_right _ (by omega)
    rw [Nat.add_mul] at hmul
    omega
  have hexponent : e ≤ 2044 := by
    by_contra hgt
    have hle := hsplits.le (by omega)
    rw [shiftLeft_mul] at hle
    have hbound : num * one < 2 ^ (52 + e) * den :=
      calc num * one < 2 ^ bits * den * one := Nat.mul_lt_mul_of_pos_right h one_pos
        _ = 2 ^ (bits + 1074) * den := by
          rw [one, Nat.one_shiftLeft, Nat.pow_add, Nat.mul_right_comm]
        _ ≤ 2 ^ (52 + e) * den :=
          Nat.mul_le_mul_right den (Nat.pow_le_pow_right Nat.two_pos (by omega))
    omega
  rw [ofRatio, hsplits.ofUnits_eq hden]
  split
  · exact ⟨⟨negative, 2 ^ 52, e + 1, by decide, Or.inr (by decide), by omega⟩,
      assemble_eq_finite_iff.mpr ⟨rfl, rfl, rfl⟩⟩
  · have hsubnormal : e = 0 ∨ 2 ^ 52 ≤ significand := Decidable.or_iff_not_imp_left.mpr hnormal
    exact ⟨⟨negative, significand, e, by omega, hsubnormal, by omega⟩,
      assemble_eq_finite_iff.mpr ⟨rfl, rfl, rfl⟩⟩

/-- A natural number is rounded as so many ones. -/
theorem ofInt_natCast (n : Nat) : ofInt n = ofUnits false (n * one) 1 := by
  have hsign : decide ((n : Int) < 0) = false := by simp
  rw [ofInt, ofRatio, hsign, Int.natAbs_natCast]

/-- No negative integer is rounded to a number without a sign. -/
theorem nonneg_of_ofInt {n : Int} {x : Finite} (h : ofInt n = .finite x)
    (hpositive : x.negative = false) : 0 ≤ n := by
  have hsign : x.negative = decide (n < 0) := ((ofUnits_eq_finite_iff Nat.one_pos).mp h).1
  rw [hpositive, eq_comm, decide_eq_false_iff_not] at hsign
  exact Int.not_lt.mp hsign

/-- A whole number is rounded to a number just if it lies in the interval of that number. -/
theorem ofInt_eq_finite_iff {n : Nat} {x : Finite} :
    ofInt n = .finite x ↔
      x.negative = false ∧ x.interval.contains (n * x.interval.scale) = true := by
  have htimes : x.interval.times 1 = x.interval := by simp [Finite.Interval.times]
  have hscale : n * x.interval.scale = 4 * (n * one) := Nat.mul_left_comm n 4 one
  rw [ofInt_natCast, ofUnits_eq_finite_iff Nat.one_pos, htimes, hscale]

end Isochrone.Binary64
