import Isochrone.Number.Binary64
import Mathlib.Algebra.Order.Ring.Rat
import Mathlib.Tactic.Linarith
import Mathlib.Tactic.Positivity

/-!
# Exact values of binary64 numbers

A finite binary64 number has a rational value. The tests of a whole number in a range hold just
where this is a natural number of the range, and a natural number below `2 ^ 53` is a binary64
number exactly: no bit is rounded away.
-/

namespace Isochrone.Binary64

theorem one_pos : 0 < one :=
  Nat.pos_of_ne_zero fun h => Nat.one_ne_zero (Nat.shiftLeft_eq_zero_iff.mp h)

/-- As many units as make `n` ones are worth `n`. -/
theorem div_one_eq_iff {units n : ℕ} : (units : ℚ) / one = n ↔ units = n * one := by
  have hone : (one : ℚ) ≠ 0 := Nat.cast_ne_zero.mpr one_pos.ne'
  rw [div_eq_iff hone]
  exact_mod_cast Iff.rfl

namespace Finite

/-- The exact value. -/
def value (x : Finite) : ℚ :=
  (if x.negative then -1 else 1) * (x.significand * 2 ^ x.exponent) / 2 ^ 1074

/-- The value counts units. -/
theorem value_eq (x : Finite) : x.value = (if x.negative then -1 else 1) * x.units / one := by
  simp only [value, units, one, Nat.shiftLeft_eq, one_mul, Nat.cast_mul, Nat.cast_pow,
    Nat.cast_ofNat]

/-- Without a minus sign the value is the units over one. -/
theorem value_of_not_negative {x : Finite} (h : x.negative = false) : x.value = x.units / one := by
  rw [value_eq, h, if_neg Bool.false_ne_true, one_mul]

/-- With a minus sign the value is below zero by the units over one. -/
theorem value_of_negative {x : Finite} (h : x.negative = true) : x.value = -(x.units / one) := by
  rw [value_eq, h, if_pos rfl, neg_one_mul, neg_div]

/-- Zero is the number without units. -/
theorem isZero_iff {x : Finite} : x.isZero = true ↔ x.units = 0 := by
  simp [isZero, units, Nat.shiftLeft_eq]

/-- A negative number has no value but zero among the natural numbers. -/
theorem value_eq_natCast_iff_of_negative {x : Finite} (h : x.negative = true) {n : ℕ} :
    x.value = n ↔ x.units = 0 ∧ n = 0 := by
  have hunits : (0 : ℚ) ≤ x.units / one := by positivity
  rw [value_of_negative h]
  constructor
  · intro hvalue
    have hn : (0 : ℚ) ≤ n := Nat.cast_nonneg n
    have hnone : (n : ℚ) = 0 := by linarith
    have hdiv : (x.units : ℚ) / one = (0 : ℕ) := by
      rw [Nat.cast_zero]
      linarith
    rw [div_one_eq_iff, Nat.zero_mul] at hdiv
    exact ⟨hdiv, Nat.cast_eq_zero.mp hnone⟩
  · rintro ⟨hnone, rfl⟩
    rw [hnone, Nat.cast_zero, zero_div, neg_zero]

/-- As many units as make `n` ones are worth `n`, unless a minus sign stands before some of them. -/
theorem value_eq_natCast_iff {x : Finite} {n : ℕ} :
    x.value = n ↔ x.units = n * one ∧ (x.negative = false ∨ x.isZero = true) := by
  cases hsign : x.negative with
  | false => rw [value_of_not_negative hsign, div_one_eq_iff, and_iff_left (Or.inl rfl)]
  | true =>
    rw [value_eq_natCast_iff_of_negative hsign, isZero_iff]
    constructor
    · rintro ⟨hunits, rfl⟩
      rw [hunits, Nat.zero_mul]
      exact ⟨rfl, Or.inr rfl⟩
    · rintro ⟨hunits, hnone | hnone⟩
      · cases hnone
      · refine ⟨hnone, ?_⟩
        rw [hnone, eq_comm, Nat.mul_eq_zero] at hunits
        exact hunits.resolve_right one_pos.ne'

/-- A number that is whole and in a range has a natural number of the range as its value, and only
such a one is. -/
theorem isWhole_isUpTo_iff {x : Finite} {last : ℕ} :
    (x.isWhole && x.isUpTo last) = true ↔ ∃ n ≤ last, x.value = (n : ℕ) := by
  have htests : (x.isWhole && x.isUpTo last) = true ↔ x.units % one = 0 ∧
      (x.negative = false ∨ x.isZero = true) ∧ x.units ≤ last * one := by
    simp [isWhole, isUpTo]
  rw [htests]
  constructor
  · rintro ⟨hwhole, hsign, hlast⟩
    obtain ⟨n, hn⟩ := Nat.dvd_of_mod_eq_zero hwhole
    rw [Nat.mul_comm] at hn
    rw [hn] at hlast
    exact ⟨n, Nat.le_of_mul_le_mul_right hlast one_pos, value_eq_natCast_iff.mpr ⟨hn, hsign⟩⟩
  · rintro ⟨n, hle, hvalue⟩
    obtain ⟨hunits, hsign⟩ := value_eq_natCast_iff.mp hvalue
    rw [hunits]
    exact ⟨Nat.mul_mod_left n one, hsign, Nat.mul_le_mul_right one hle⟩

/-- A number of 32 bits is left as it is. -/
theorem toUInt32_of_value {x : Finite} {n : UInt32} (h : x.value = n.toNat) : x.toUInt32 = n := by
  have hn : n.toNat < 2 ^ 32 := n.toNat_lt
  obtain ⟨hunits, hsign⟩ := value_eq_natCast_iff.mp h
  rw [toUInt32, hunits, Nat.mul_div_cancel _ one_pos, Nat.min_eq_left (by omega)]
  cases hnegative : x.negative with
  | false => rw [if_neg Bool.false_ne_true, UInt32.ofNat_toNat]
  | true =>
    -- minus zero
    have hzero : x.units = 0 := isZero_iff.mp (by simpa [hnegative] using hsign)
    have hnone : n.toNat = 0 := by
      rw [hzero, eq_comm, Nat.mul_eq_zero] at hunits
      exact hunits.resolve_right one_pos.ne'
    rw [if_pos rfl]
    exact UInt32.toNat_inj.mp hnone.symm

end Finite

/-- What a denominator divides is not rounded. -/
theorem roundHalfEven_mul_left {den : ℕ} (h : 0 < den) (n : ℕ) :
    roundHalfEven (den * n) den = n := by
  simp [roundHalfEven, Nat.mul_mod_right, Nat.mul_div_cancel_left n h, h]

/-- The bits beyond 53 are among those that a shift has put there. -/
theorem log2_shiftLeft_sub_le {n : ℕ} (h : n < 2 ^ 53) (shift : ℕ) :
    (n <<< shift).log2 - 52 ≤ shift := by
  by_cases hzero : n <<< shift = 0
  · simp [hzero]
  · have hlt : n <<< shift < 2 ^ (53 + shift) := by
      rw [Nat.shiftLeft_eq, Nat.pow_add]
      exact Nat.mul_lt_mul_of_pos_right h (Nat.two_pow_pos shift)
    have hlog : (n <<< shift).log2 < 53 + shift := (Nat.log2_lt hzero).mpr hlt
    omega

section Split

variable {units significand : ℕ} (h : units = 2 ^ (units.log2 - 52) * significand)

include h

/-- The bits that are left are at most 53. -/
theorem significand_lt_of_split : significand < 2 ^ 53 := by
  have hpow : 2 ^ (units.log2 + 1) ≤ 2 ^ (units.log2 - 52) * 2 ^ 53 := by
    rw [← Nat.pow_add]
    exact Nat.pow_le_pow_right (by decide) (by omega)
  have hlt : units < 2 ^ (units.log2 - 52) * 2 ^ 53 := Nat.lt_log2_self.trans_le hpow
  refine Nat.lt_of_mul_lt_mul_left (a := 2 ^ (units.log2 - 52)) ?_
  rwa [← h]

/-- The bits that are left are 53, unless none was split off. -/
theorem le_significand_of_split (hexponent : units.log2 - 52 ≠ 0) : 2 ^ 52 ≤ significand := by
  have hlog : units.log2 = units.log2 - 52 + 52 := by omega
  have hne : units ≠ 0 := by
    intro hzero
    rw [hzero, Nat.log2_zero] at hexponent
    exact hexponent rfl
  refine Nat.le_of_mul_le_mul_left ?_ (Nat.two_pow_pos (units.log2 - 52))
  rw [← Nat.pow_add, ← hlog, ← h]
  exact Nat.log2_self_le hne

end Split

/-- A number of units with at most 53 significant bits is held exactly. -/
theorem ofUnits_exact (negative : Bool) {n shift : ℕ} (hn : n < 2 ^ 53) (hshift : shift ≤ 2045) :
    ∃ x, ofUnits negative (n <<< shift) 1 = .finite x ∧ x.negative = negative ∧
      x.units = n <<< shift := by
  have hle := log2_shiftLeft_sub_le hn shift
  have hunits : n <<< shift = n * 2 ^ shift := Nat.shiftLeft_eq n shift
  generalize n <<< shift = units at hle hunits ⊢
  -- the bits that the exponent cuts off are zeros
  obtain ⟨significand, hsplit⟩ : 2 ^ (units.log2 - 52) ∣ units :=
    (Nat.pow_dvd_pow 2 hle).trans (Dvd.intro_left n hunits.symm)
  have hfits := significand_lt_of_split hsplit
  have hnormal : units.log2 - 52 = 0 ∨ 2 ^ 52 ≤ significand :=
    Decidable.or_iff_not_imp_left.mpr (le_significand_of_split hsplit)
  have hround : roundHalfEven units (1 <<< (units.log2 - 52)) = significand := by
    rw [Nat.one_shiftLeft]
    nth_rewrite 1 [hsplit]
    exact roundHalfEven_mul_left (Nat.two_pow_pos _) significand
  have hparts : significand < 0x20000000000000 ∧
      (units.log2 - 52 = 0 ∨ 0x10000000000000 ≤ significand) ∧ units.log2 - 52 ≤ 2045 :=
    ⟨hfits, hnormal, hle.trans hshift⟩
  refine ⟨⟨negative, significand, units.log2 - 52, hparts.1, hparts.2.1, hparts.2.2⟩, ?_, rfl, ?_⟩
  · simp only [ofUnits, Nat.div_one, hround, if_neg (Nat.ne_of_lt hparts.1), assemble,
      dif_pos hparts]
  · rw [Finite.units, Nat.shiftLeft_eq, Nat.mul_comm, ← hsplit]

/-- Rounding does not go below the number before the point. -/
theorem div_le_roundHalfEven (num den : ℕ) : num / den ≤ roundHalfEven num den := by
  rw [roundHalfEven]
  split
  · exact Nat.le_refl _
  split
  · exact Nat.le_succ _
  · exact Nat.le_add_right _ _

/-- The parts of a number are what makes it. -/
theorem assemble_eq_finite_iff {negative : Bool} {significand exponent : Nat} {x : Finite} :
    assemble negative significand exponent = .finite x ↔
      x.negative = negative ∧ x.significand = significand ∧ x.exponent = exponent := by
  obtain ⟨sign, significand', exponent', hlt, hnormal, hle⟩ := x
  rw [assemble]
  split
  · simp only [Binary64.finite.injEq, Finite.mk.injEq, eq_comm]
  · rename_i hparts
    simp only [reduceCtorEq, false_iff]
    rintro ⟨-, rfl, rfl⟩
    exact hparts ⟨hlt, hnormal, hle⟩

/-- Units keep their sign when they are rounded, and some of them are left. -/
theorem sign_of_ofUnits {negative : Bool} {num : ℕ} {x : Finite} (hnum : num ≠ 0)
    (h : ofUnits negative num 1 = .finite x) : x.negative = negative ∧ x.isZero = false := by
  have hfloor : 0 < num / (1 <<< (num.log2 - 52)) := by
    rw [Nat.one_shiftLeft]
    refine Nat.div_pos ?_ (Nat.two_pow_pos _)
    exact (Nat.pow_le_pow_right (by decide) (Nat.sub_le _ _)).trans (Nat.log2_self_le hnum)
  have hround := hfloor.trans_le (div_le_roundHalfEven num (1 <<< (num.log2 - 52)))
  simp only [ofUnits, Nat.div_one] at h
  split at h
  · obtain ⟨hsign, hsignificand, -⟩ := assemble_eq_finite_iff.mp h
    exact ⟨hsign, by rw [Finite.isZero, hsignificand]; decide⟩
  · obtain ⟨hsign, hsignificand, -⟩ := assemble_eq_finite_iff.mp h
    exact ⟨hsign, by rw [Finite.isZero, hsignificand]; exact decide_eq_false hround.ne'⟩

/-- A natural number below `2 ^ 53` is a binary64 number exactly. -/
theorem ofInt_exact {n : ℕ} (h : n < 2 ^ 53) : ∃ x, ofInt n = .finite x ∧ x.value = n := by
  obtain ⟨x, hx, hsign, hunits⟩ := ofUnits_exact false h (show 1074 ≤ 2045 by decide)
  have hone : n <<< 1074 = n * one := by rw [one, Nat.shiftLeft_eq, Nat.one_shiftLeft]
  rw [hone] at hx hunits
  refine ⟨x, ?_, ?_⟩
  · have hpos : decide ((n : ℤ) < 0) = false := by simp
    rw [ofInt, hpos, Int.natAbs_natCast, ofRatio, hx]
  · rw [Finite.value_of_not_negative hsign, div_one_eq_iff, hunits]

/-- A negative integer stays below zero when it is rounded. -/
theorem not_isUpTo_of_ofInt {n : ℤ} {x : Finite} (hn : n < 0) (h : ofInt n = .finite x)
    (last : ℕ) : x.isUpTo last = false := by
  have hnum : n.natAbs * one ≠ 0 := Nat.mul_ne_zero (by omega) one_pos.ne'
  rw [ofInt, decide_eq_true hn, ofRatio] at h
  obtain ⟨hsign, hzero⟩ := sign_of_ofUnits hnum h
  simp [Finite.isUpTo, hsign, hzero]

end Isochrone.Binary64
