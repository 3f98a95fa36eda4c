import Isochrone.Number.Layout
import Isochrone.Proofs.Number.Rounding
import Mathlib.Algebra.Order.Ring.Abs
import Mathlib.Data.Nat.Dist
import Mathlib.Data.Nat.Find

/-!
# Shortest spellings of large integers

From `2 ^ 63` on not every integer is a binary64 number, so many of them are rounded to the same
one, and its plain text spells just one of these: the one that ends in the most zeros, and of those
the nearest.
-/

namespace Isochrone.Binary64.Finite

namespace Interval

variable {i : Interval}

/-- An interval contains what lies between two of its points. -/
theorem contains_between {low point high : ℕ} (hlow : i.contains low = true)
    (hhigh : i.contains high = true) (hle : low ≤ point) (hle' : point ≤ high) :
    i.contains point = true := by
  obtain ⟨hlow, -, hopen⟩ := contains_iff.mp hlow
  obtain ⟨-, hhigh, hopen'⟩ := contains_iff.mp hhigh
  refine contains_iff.mpr ⟨by omega, by omega, fun hclosed => ?_⟩
  have := (hopen hclosed).1
  have := (hopen' hclosed).2
  omega

/-- A point of an interval on the grid of `step` that is nearer to the value than any other, or as
near as one below it. -/
structure IsNearest (i : Interval) (step point : ℕ) : Prop where
  dvd : step ∣ point
  contains : i.contains point = true
  nearest : ∀ other, step ∣ other → i.contains other = true →
    point.dist i.value < other.dist i.value ∨
      point.dist i.value = other.dist i.value ∧ other ≤ point

/-- The grid point taken is the one below the value or the one above it; the other one is not in
the interval or farther away. -/
theorem multiple?_cases {step c : ℕ} (h : i.multiple? .up step = some c) :
    (c = i.value / step ∧ i.contains (i.value / step * step) = true ∧
      (i.contains ((i.value / step + 1) * step) = true → 2 * (i.value % step) < step)) ∨
    (c = i.value / step + 1 ∧ i.contains ((i.value / step + 1) * step) = true ∧
      (i.contains (i.value / step * step) = true → step ≤ 2 * (i.value % step))) := by
  simp only [multiple?] at h
  cases hfloor : i.contains (i.value / step * step) with
  | false =>
    cases hceil : i.contains ((i.value / step + 1) * step) with
    | false =>
      rw [hfloor, hceil] at h
      cases h
    | true =>
      rw [hfloor, hceil] at h
      exact Or.inr ⟨(Option.some.inj h).symm, rfl, fun hin => absurd hin Bool.false_ne_true⟩
  | true =>
    cases hceil : i.contains ((i.value / step + 1) * step) with
    | false =>
      rw [hfloor, hceil] at h
      exact Or.inl ⟨(Option.some.inj h).symm, rfl, fun hin => absurd hin Bool.false_ne_true⟩
    | true =>
      rw [hfloor, hceil] at h
      by_cases hnearer : 2 * (i.value % step) < step
      · rw [if_pos hnearer] at h
        exact Or.inl ⟨(Option.some.inj h).symm, rfl, fun _ => hnearer⟩
      · rw [if_neg hnearer, ite_self] at h
        exact Or.inr ⟨(Option.some.inj h).symm, rfl, fun _ => Nat.le_of_not_lt hnearer⟩

/-- No grid point is taken only where the two next to the value are both outside. -/
theorem multiple?_none {tie : Tie} {step : ℕ} (h : i.multiple? tie step = none) :
    i.contains (i.value / step * step) = false ∧
      i.contains ((i.value / step + 1) * step) = false := by
  simp only [multiple?] at h
  cases hfloor : i.contains (i.value / step * step) with
  | false =>
    cases hceil : i.contains ((i.value / step + 1) * step) with
    | false => exact ⟨rfl, rfl⟩
    | true =>
      rw [hfloor, hceil] at h
      cases h
  | true =>
    cases hceil : i.contains ((i.value / step + 1) * step) with
    | false =>
      rw [hfloor, hceil] at h
      cases h
    | true =>
      rw [hfloor, hceil] at h
      simp only at h
      split at h
      · cases h
      · split at h
        · cases h
        · cases tie <;> cases h

section Multiple

variable {step : ℕ} (hvalue : i.contains i.value = true) (hstep : 0 < step)
include hvalue hstep

/-- With a point of a grid, the one next to the value on the same side is in the interval too. -/
theorem contains_neighbour {other : ℕ} (hdvd : step ∣ other) (hother : i.contains other = true) :
    (other ≤ i.value / step * step ∧ i.contains (i.value / step * step) = true) ∨
      ((i.value / step + 1) * step ≤ other ∧ i.contains ((i.value / step + 1) * step) = true) := by
  obtain ⟨k, rfl⟩ := hdvd
  rw [Nat.mul_comm step k] at hother ⊢
  by_cases hk : k ≤ i.value / step
  · have hle : k * step ≤ i.value / step * step := Nat.mul_le_mul_right step hk
    exact Or.inl ⟨hle, contains_between hother hvalue hle (Nat.div_mul_le_self _ _)⟩
  · have hle : (i.value / step + 1) * step ≤ k * step := Nat.mul_le_mul_right step (by omega)
    have habove : i.value < (i.value / step + 1) * step :=
      (Nat.div_lt_iff_lt_mul hstep).mp (Nat.lt_succ_self _)
    exact Or.inr ⟨hle, contains_between hvalue hother habove.le hle⟩

/-- Where no multiple is found the interval contains none. -/
theorem multiple?_eq_none {tie : Tie} (h : i.multiple? tie step = none) {other : ℕ}
    (hdvd : step ∣ other) : i.contains other = false := by
  by_contra hother
  rw [Bool.not_eq_false] at hother
  obtain ⟨hfloor, hceil⟩ := multiple?_none h
  rcases contains_neighbour hvalue hstep hdvd hother with ⟨-, hin⟩ | ⟨-, hin⟩
  · exact Bool.false_ne_true (hfloor.symm.trans hin)
  · exact Bool.false_ne_true (hceil.symm.trans hin)

/-- The multiple that is found is the nearest one. -/
theorem isNearest_of_multiple? {c : ℕ} (h : i.multiple? .up step = some c) :
    i.IsNearest step (c * step) := by
  have hsplit : i.value / step * step + i.value % step = i.value := Nat.div_add_mod' _ _
  have hrest : i.value % step < step := Nat.mod_lt _ hstep
  have hnext : (i.value / step + 1) * step = i.value / step * step + step := by
    rw [Nat.add_mul, Nat.one_mul]
  rcases multiple?_cases h with ⟨rfl, hfloor, hnearer⟩ | ⟨rfl, hceil, hnearer⟩
  · refine ⟨Nat.dvd_mul_left _ _, hfloor, fun other hdvd hother => ?_⟩
    unfold Nat.dist
    rcases contains_neighbour hvalue hstep hdvd hother with ⟨hle, -⟩ | ⟨hle, hceil⟩
    · omega
    · have := hnearer hceil
      omega
  · refine ⟨Nat.dvd_mul_left _ _, hceil, fun other hdvd hother => ?_⟩
    unfold Nat.dist
    rcases contains_neighbour hvalue hstep hdvd hother with ⟨hle, hfloor⟩ | ⟨hle, -⟩
    · have := hnearer hfloor
      omega
    · omega

end Multiple

end Interval

section Grids

variable {x : Finite}

/-- A number lies in its own interval. -/
theorem contains_value (x : Finite) : x.interval.contains x.interval.value = true := by
  have hunit : 0 < 1 <<< x.exponent := shiftLeft_pos Nat.one_pos _
  have hunits : x.significand ≤ x.units := by
    rw [units, Nat.shiftLeft_eq]
    exact Nat.le_mul_of_pos_right _ (Nat.two_pow_pos _)
  rw [Interval.contains_iff]
  simp only [interval, decide_eq_false_iff_not]
  split <;> omega

theorem scale_pos (x : Finite) : 0 < x.interval.scale := Nat.mul_pos (by decide) one_pos

theorem step_pos (x : Finite) (e : ℕ) : 0 < x.interval.scale * 10 ^ e :=
  Nat.mul_pos x.scale_pos (Nat.pow_pos (by decide))

/-- The first number at which something is found is what a search by ascending numbers finds. -/
theorem findSome?_range {α : Type} {f : ℕ → Option α} {n count : ℕ} {found : α} (hn : n < count)
    (hbefore : ∀ j < n, f j = none) (h : f n = some found) :
    (List.range count).findSome? f = some found := by
  obtain ⟨more, rfl⟩ := Nat.exists_eq_add_of_lt hn
  rw [List.findSome?_eq_some_iff]
  refine ⟨List.range n, n, (List.range more).map fun j => n + (j + 1), ?_, h, ?_⟩
  · rw [Nat.add_assoc, List.range_add, List.range_succ_eq_map, List.map_cons, List.map_map]
    rfl
  · intro j hj
    exact hbefore j (List.mem_range.mp hj)

/-- On a grid without a point in the interval no integer is rounded to the number. -/
theorem ofInt_ne_of_onGrid? {tie : Tie} {e m : ℕ} (hnone : x.interval.onGrid? tie e = none)
    (hdvd : 10 ^ e ∣ m) : ofInt m ≠ .finite x := by
  intro hm
  have hmultiple : x.interval.multiple? tie (x.interval.scale * 10 ^ e) = none :=
    Option.map_eq_none_iff.mp hnone
  have hout := Interval.multiple?_eq_none x.contains_value (step_pos x e) hmultiple
    (Nat.mul_comm m _ ▸ Nat.mul_dvd_mul_left x.interval.scale hdvd)
  exact Bool.false_ne_true (hout.symm.trans (ofInt_eq_finite_iff.mp hm).2)

/-- The point of a grid that is taken is an integer with at least as many zeros as the grid. -/
theorem exists_of_onGrid? {e : ℕ} {d : Decimal} (h : x.interval.onGrid? .up e = some d) :
    ∃ c : ℕ, d = ⟨c, e⟩ ∧ x.interval.IsNearest (x.interval.scale * 10 ^ e)
      (c * 10 ^ e * x.interval.scale) := by
  obtain ⟨c, hc, rfl⟩ := Option.map_eq_some_iff.mp h
  have hpoint : c * 10 ^ e * x.interval.scale = c * (x.interval.scale * 10 ^ e) := by
    rw [Nat.mul_assoc, Nat.mul_comm (10 ^ e)]
  refine ⟨c, rfl, ?_⟩
  rw [hpoint]
  exact Interval.isNearest_of_multiple? x.contains_value (step_pos x e) hc

/-- The coarsest grid with a point in the interval gives the shortest decimal. -/
theorem shortest_of_coarsest {tie : Tie} {top e : ℕ} {d : Decimal} (hzero : x.isZero = false)
    (htop : x.coarse = top) (he : e ≤ top) (hlast : top < e + 20)
    (hcoarser : ∀ e' : ℕ, e < e' → e' ≤ top → x.interval.onGrid? tie e' = none)
    (h : x.interval.onGrid? tie e = some d) : x.shortest tie = d := by
  have hgrid : ((List.range 20).map fun n : ℕ => x.coarse - n).findSome?
      (fun e => x.interval.onGrid? tie e) = some d := by
    rw [List.findSome?_map]
    refine findSome?_range (n := top - e) (by omega) (fun j hj => ?_) ?_
    · have hexponent : x.coarse - j = ((top - j : ℕ) : ℤ) := by omega
      rw [Function.comp_apply, hexponent]
      exact hcoarser _ (by omega) (by omega)
    · have hexponent : x.coarse - (top - e : ℕ) = (e : ℤ) := by omega
      rw [Function.comp_apply, hexponent]
      exact h
  simp only [shortest, hzero, Bool.false_eq_true, if_false, hgrid, Option.getD_some]

end Grids

/-- The place of a number among the integers: it is one of those from `2 ^ 63` to `2 ^ 64`, and
the integers less than 512 away are rounded to it, but none that is more than 2048 away. -/
structure Surrounds (x : Finite) (v : ℕ) : Prop where
  positive : x.negative = false
  units : x.units = v * one
  lower : 2 ^ 63 ≤ v
  upper : v ≤ 2 ^ 64
  near : ∀ m : ℕ, v < m + 512 → m < v + 512 → ofInt m = .finite x
  far : ∀ m : ℕ, ofInt m = .finite x → m ≤ v + 2048 ∧ v ≤ m + 2048

section Surrounds

variable {n : ℕ} {x : Finite} (h : ofInt n = .finite x) (hlower : 2 ^ 63 ≤ n) (hupper : n < 2 ^ 64)
include h hlower hupper

/-- From `2 ^ 63` on the spacing is 2048, and from `2 ^ 64` on it is 4096. -/
theorem exists_spacing : ∃ spacing, 1 <<< x.exponent = spacing * one ∧
    2048 ≤ spacing ∧ spacing ≤ 4096 ∧
    2 ^ 63 ≤ x.significand * spacing ∧ x.significand * spacing ≤ 2 ^ 64 := by
  have hunit : 1 <<< 1085 = 2048 * one := by decide
  have hunit' : 1 <<< 1086 = 4096 * one := by decide
  have hexponent : (n * one / 1).log2 - 52 = 1085 := by
    rw [exponent_eq_iff Nat.one_pos, hunit]
    have hle : 2 ^ 63 * one ≤ n * one := Nat.mul_le_mul_right one hlower
    have hlt : n * one < 2 ^ 64 * one := Nat.mul_lt_mul_of_pos_right hupper one_pos
    omega
  obtain ⟨e, significand, hsplits⟩ := exists_splits Nat.one_pos (n * one)
  have he : e = 1085 := by
    rw [← hexponent, eq_comm, exponent_eq_iff Nat.one_pos]
    exact ⟨hsplits.lt, hsplits.le⟩
  rw [ofInt_natCast, hsplits.ofUnits_eq Nat.one_pos, he] at h
  split at h
  · obtain ⟨-, hsignificand, hexponent⟩ := assemble_eq_finite_iff.mp h
    rw [hsignificand, hexponent]
    exact ⟨4096, hunit', by decide⟩
  · obtain ⟨-, -, hexponent⟩ := assemble_eq_finite_iff.mp h
    have hnormal := x.normal.resolve_left (by omega)
    have hfits := x.significand_lt
    rw [hexponent]
    exact ⟨2048, hunit, by decide, by decide, by omega, by omega⟩

/-- The number that an integer of 64 bits is rounded to, from `2 ^ 63` on, is an integer. -/
theorem exists_surrounds : ∃ v, x.Surrounds v := by
  obtain ⟨spacing, hunit, hleast, hmost, hlower, hupper⟩ := exists_spacing h hlower hupper
  have hpositive : x.negative = false := (ofInt_eq_finite_iff.mp h).1
  have hunits : x.units = x.significand * spacing * one := by
    rw [Nat.mul_assoc, ← hunit, units, Nat.shiftLeft_eq, Nat.one_shiftLeft]
  have hscale : ∀ m, m * x.interval.scale = 4 * (m * one) := fun m => Nat.mul_left_comm m 4 one
  -- the bounds of the interval, counted in ones
  have hlarge : 2 ^ 63 * one ≤ x.units := by
    rw [hunits]
    exact Nat.mul_le_mul_right one hlower
  have hleast : 2048 * one ≤ spacing * one := Nat.mul_le_mul_right one hleast
  have hmost : spacing * one ≤ 4096 * one := Nat.mul_le_mul_right one hmost
  have hhigh : x.interval.high = 4 * x.units + 2 * (spacing * one) := by rw [interval, hunit]
  have hlow : x.interval.low + 2048 * one ≤ 4 * x.units ∧
      4 * x.units ≤ x.interval.low + 8192 * one := by
    simp only [interval, hunit]
    split <;> omega
  rw [hunits] at hhigh hlow
  refine ⟨x.significand * spacing, hpositive, hunits, hlower, hupper, fun m hbelow habove => ?_,
    fun m hm => ?_⟩
  · have hbelow : x.significand * spacing * one < (m + 512) * one :=
      Nat.mul_lt_mul_of_pos_right hbelow one_pos
    have habove : m * one < (x.significand * spacing + 512) * one :=
      Nat.mul_lt_mul_of_pos_right habove one_pos
    rw [Nat.add_mul] at hbelow habove
    rw [ofInt_eq_finite_iff, hscale, Interval.contains_iff]
    exact ⟨hpositive, by omega, by omega, fun _ => by omega⟩
  · rw [ofInt_eq_finite_iff, hscale, Interval.contains_iff] at hm
    obtain ⟨-, hbelow, habove, -⟩ := hm
    constructor
    · refine Nat.le_of_mul_le_mul_right ?_ one_pos
      rw [Nat.add_mul]
      omega
    · refine Nat.le_of_mul_le_mul_right ?_ one_pos
      rw [Nat.add_mul]
      omega

end Surrounds

/-- The integer that spells a number: no other that is rounded to the same number ends in more
zeros, and of those that end in as many none is nearer, nor as near and above it. -/
structure Spells (n : ℤ) (x : Finite) : Prop where
  rounds : ofInt n = .finite x
  coarsest : ∀ (m : ℤ) (k : ℕ), ofInt m = .finite x → 10 ^ k ∣ m → 10 ^ k ∣ n
  nearest : ∀ m : ℤ, ofInt m = .finite x → (∀ k : ℕ, 10 ^ k ∣ n → 10 ^ k ∣ m) →
    |(n : ℚ) - x.value| < |(m : ℚ) - x.value| ∨
      |(n : ℚ) - x.value| = |(m : ℚ) - x.value| ∧ m ≤ n

/-- A number is spelled by one integer alone. -/
theorem Spells.unique {m n : ℤ} {x : Finite} (hm : Spells m x) (hn : Spells n x) : m = n := by
  have hzeros : ∀ k : ℕ, 10 ^ k ∣ m → 10 ^ k ∣ n := fun k => hn.coarsest m k hm.rounds
  have hzeros' : ∀ k : ℕ, 10 ^ k ∣ n → 10 ^ k ∣ m := fun k => hm.coarsest n k hn.rounds
  rcases hm.nearest n hn.rounds hzeros with hlt | ⟨heq, hle⟩
  · rcases hn.nearest m hm.rounds hzeros' with hlt' | ⟨heq', -⟩
    · exact absurd hlt hlt'.not_gt
    · exact absurd heq' hlt.ne'
  · rcases hn.nearest m hm.rounds hzeros' with hlt' | ⟨-, hle'⟩
    · exact absurd heq hlt'.ne'
    · exact le_antisymm hle' hle

theorem abs_natCast_sub (m n : ℕ) : |(m : ℚ) - n| = m.dist n := by
  rcases Nat.le_total m n with hle | hle
  · rw [Nat.dist_eq_sub_of_le hle, Nat.cast_sub hle, abs_sub_comm, abs_of_nonneg]
    exact sub_nonneg.mpr (Nat.cast_le.mpr hle)
  · rw [Nat.dist_eq_sub_of_le_right hle, Nat.cast_sub hle, abs_of_nonneg]
    exact sub_nonneg.mpr (Nat.cast_le.mpr hle)

namespace Surrounds

variable {x : Finite} {v : ℕ} (h : x.Surrounds v)
include h

/-- The value of a number that is surrounded is the whole number in the middle. -/
theorem value_eq : x.value = v := by
  rw [value_of_not_negative h.positive, div_one_eq_iff, h.units]

/-- A number that is surrounded is not zero. -/
theorem isZero_eq : x.isZero = false := by
  have hpos : 0 < v * one := Nat.mul_pos (by have := h.lower; omega) one_pos
  rw [Bool.eq_false_iff, ne_eq, isZero_iff, h.units]
  omega

/-- The coarsest grid that is tried. -/
theorem exists_top : ∃ top : ℕ, x.coarse = top ∧ 19 ≤ top ∧ top ≤ 20 := by
  have hlower := h.lower
  have hupper := h.upper
  have hone : one ≤ v * one := Nat.le_mul_of_pos_left one (by omega)
  have hatLeast : ¬ (Nat.toDigits 10 v).length ≤ 18 := by
    rw [Nat.length_toDigits_le_iff (by decide) (by decide)]
    omega
  refine ⟨digitCount v, ?_, by rw [digitCount]; omega, ?_⟩
  · rw [coarse, h.units, if_pos hone, Nat.mul_div_cancel v one_pos]
  · rw [digitCount, Nat.length_toDigits_le_iff (by decide) (by decide)]
    omega

/-- Around the number there is a multiple of ten that is rounded to it. -/
theorem exists_onGrid? {tie : Tie} : x.interval.onGrid? tie (1 : ℕ) ≠ none := by
  intro hnone
  refine ofInt_ne_of_onGrid? hnone (Nat.dvd_mul_left (10 ^ 1) (v / 10)) (h.near _ ?_ ?_)
  · omega
  · omega

/-- The shortest decimal stands on the coarsest grid with a point in the interval. -/
theorem exists_shortest (tie : Tie) : ∃ e : ℕ, x.interval.onGrid? tie e = some (x.shortest tie) ∧
    ∀ (m k : ℕ), e < k → 10 ^ k ∣ m → ofInt m ≠ .finite x := by
  obtain ⟨top, htop, hleast, hmost⟩ := h.exists_top
  let hits (e : ℕ) : Prop := x.interval.onGrid? tie e ≠ none
  have hgreatest : 1 ≤ Nat.findGreatest hits top :=
    Nat.le_findGreatest (by omega) h.exists_onGrid?
  have hhits : hits (Nat.findGreatest hits top) := Nat.findGreatest_spec (by omega) h.exists_onGrid?
  obtain ⟨d, hd⟩ := Option.ne_none_iff_exists'.mp hhits
  have hcoarser : ∀ k, Nat.findGreatest hits top < k → k ≤ top →
      x.interval.onGrid? tie k = none := fun k hk hle =>
    of_not_not (Nat.findGreatest_is_greatest hk hle)
  have hshortest : x.shortest tie = d :=
    shortest_of_coarsest h.isZero_eq htop (Nat.findGreatest_le top) (by omega) hcoarser hd
  refine ⟨_, hshortest ▸ hd, fun m k hk hdvd hm => ?_⟩
  by_cases hle : k ≤ top
  · exact ofInt_ne_of_onGrid? (hcoarser k hk hle) hdvd hm
  · -- beyond the coarsest grid the first point is farther than the interval reaches
    have hlarge : 10 ^ 20 ∣ m := (Nat.pow_dvd_pow 10 (by omega)).trans hdvd
    have hfar := h.far m hm
    have hlower := h.lower
    have hupper := h.upper
    have := Nat.le_of_dvd (by omega) hlarge
    omega

/-- The nearest point of the coarsest grid spells the number. -/
theorem spells_of_isNearest {n e : ℕ}
    (hcoarser : ∀ m k : ℕ, e < k → 10 ^ k ∣ m → ofInt m ≠ .finite x) (hdvd : 10 ^ e ∣ n)
    (hnearest : x.interval.IsNearest (x.interval.scale * 10 ^ e) (n * x.interval.scale)) :
    Spells n x := by
  have hvalue : x.interval.value = v * x.interval.scale := by
    have hunits : x.interval.value = 4 * x.units := rfl
    rw [hunits, h.units]
    exact Nat.mul_left_comm 4 v one
  refine ⟨ofInt_eq_finite_iff.mpr ⟨h.positive, hnearest.contains⟩, fun m k hm hk => ?_,
    fun m hm hzeros => ?_⟩
  · obtain ⟨m, rfl⟩ := Int.eq_ofNat_of_zero_le (nonneg_of_ofInt hm h.positive)
    have hle : k ≤ e := by
      by_contra hlt
      exact hcoarser m k (by omega) (by exact_mod_cast hk) hm
    exact_mod_cast (Nat.pow_dvd_pow 10 hle).trans hdvd
  · obtain ⟨m, rfl⟩ := Int.eq_ofNat_of_zero_le (nonneg_of_ofInt hm h.positive)
    have hgrid : 10 ^ e ∣ m := by
      have := hzeros e (by exact_mod_cast hdvd)
      exact_mod_cast this
    have hother : x.interval.scale * 10 ^ e ∣ m * x.interval.scale := by
      rw [Nat.mul_comm m]
      exact Nat.mul_dvd_mul_left _ hgrid
    have hdist := hnearest.nearest _ hother (ofInt_eq_finite_iff.mp hm).2
    rw [hvalue, Nat.dist_mul_right, Nat.dist_mul_right, Nat.mul_lt_mul_right x.scale_pos,
      Nat.mul_left_inj x.scale_pos.ne', Nat.mul_le_mul_right_iff x.scale_pos] at hdist
    rw [h.value_eq, Int.cast_natCast, Int.cast_natCast, abs_natCast_sub, abs_natCast_sub]
    exact_mod_cast hdist

/-- The shortest decimal is an integer that spells the number. -/
theorem exists_spells : ∃ c e : ℕ, x.shortest .up = ⟨c, e⟩ ∧ 0 < c ∧
    Spells (c * 10 ^ e : ℕ) x := by
  obtain ⟨e, hgrid, hcoarser⟩ := h.exists_shortest .up
  obtain ⟨c, hc, hnearest⟩ := exists_of_onGrid? hgrid
  have hspells : Spells (c * 10 ^ e : ℕ) x :=
    h.spells_of_isNearest hcoarser (Nat.dvd_mul_left _ _) hnearest
  refine ⟨c, e, hc, Nat.pos_of_ne_zero ?_, hspells⟩
  rintro rfl
  have hfar := h.far _ hspells.rounds
  have hlower := h.lower
  omega

end Surrounds

end Isochrone.Binary64.Finite

namespace Isochrone

/-- A power of ten as a factor is as many zeros behind the digits. -/
theorem toDigits_mul_pow {c : ℕ} (hc : 0 < c) (e : ℕ) :
    Nat.toDigits 10 (c * 10 ^ e) = Nat.toDigits 10 c ++ List.replicate e '0' := by
  induction e with
  | zero => rw [Nat.pow_zero, Nat.mul_one, List.replicate_zero, List.append_nil]
  | succ e ih =>
    have hpos : 0 < c * 10 ^ e := Nat.mul_pos hc (Nat.pow_pos (by decide))
    have hzero : Nat.toDigits 10 0 = ['0'] := rfl
    have hnext : c * 10 ^ (e + 1) = 10 * (c * 10 ^ e) + 0 := by
      rw [Nat.pow_succ, ← Nat.mul_assoc, Nat.mul_comm, Nat.add_zero]
    rw [hnext, ← Nat.toDigits_append_toDigits (by decide) hpos (by decide), ih, hzero,
      List.append_assoc, List.replicate_succ']

/-- A decimal with no digit behind the point is written as the integer that it is. -/
theorem Layout.plain_decimal {c : ℕ} (hc : 0 < c) (e : ℕ) :
    plain.decimal ⟨c, e⟩ = Nat.toDigits 10 (c * 10 ^ e) := by
  have hwhole : ((Nat.toDigits 10 c).length : ℤ) ≤ e + (Nat.toDigits 10 c).length := by omega
  have hzeros : ((e : ℤ) + (Nat.toDigits 10 c).length - (Nat.toDigits 10 c).length).toNat = e := by
    omega
  have hpositional : plain.isPositional (e + (Nat.toDigits 10 c).length - 1) = true := rfl
  have hpoint : plain.wholePoint = false := rfl
  simp only [decimal, hpositional, if_true, pointed, if_pos hwhole, hzeros, hpoint,
    Bool.false_eq_true, if_false, List.append_nil]
  exact (toDigits_mul_pow hc e).symm

namespace Binary64

namespace Finite.Surrounds

variable {x : Finite} {v : ℕ} (h : x.Surrounds v)
include h

/-- The plain text of a number is that of the integer that spells it. -/
theorem exists_text : ∃ m : ℕ, Spells m x ∧ (finite x).text = m.repr := by
  obtain ⟨c, e, hshortest, hc, hspells⟩ := h.exists_spells
  have hchars : Layout.plain.finite x = Nat.toDigits 10 (c * 10 ^ e) := by
    have hdecimal : x.shortest Layout.plain.tie = ⟨c, e⟩ := hshortest
    rw [Layout.finite, hdecimal, h.positive, Layout.plain_decimal hc]
    rfl
  refine ⟨_, hspells, ?_⟩
  rw [text, hchars, Nat.repr_eq_ofList_toDigits]

/-- The text of a number is the decimal form of an integer just if that integer spells it. -/
theorem text_eq_iff {n : ℕ} : (finite x).text = n.repr ↔ Spells n x := by
  obtain ⟨m, hm, htext⟩ := h.exists_text
  rw [htext]
  constructor
  · intro heq
    rw [Nat.repr_eq_ofList_toDigits, Nat.repr_eq_ofList_toDigits, String.ofList_inj] at heq
    have hmn : m = n :=
      calc m = Nat.ofDigitChars 10 (Nat.toDigits 10 m) 0 :=
            (Nat.ofDigitChars_toDigits (by decide) (by decide)).symm
        _ = n := by rw [heq, Nat.ofDigitChars_toDigits (by decide) (by decide)]
    exact hmn ▸ hm
  · intro hn
    exact congrArg Nat.repr (Int.ofNat_inj.mp (hm.unique hn))

/-- The integer that spells a number ends in three zeros, since one that does is near enough. -/
theorem thousand_dvd {n : ℤ} (hn : Spells n x) : 1000 ∣ n := by
  have hnear : ofInt ((v + 500) / 1000 * 1000 : ℕ) = .finite x :=
    h.near _ (by omega) (by omega)
  exact hn.coarsest _ 3 hnear (by exact_mod_cast Nat.dvd_mul_left 1000 _)

/-- No two integers that end in four zeros are rounded to the same number. -/
theorem spells_of_dvd {n : ℕ} (hn : ofInt n = .finite x) (hdvd : 10000 ∣ n) : Spells n x := by
  obtain ⟨m, hm, -⟩ := h.exists_text
  have hzeros : (10 ^ 4 : ℤ) ∣ m := hm.coarsest n 4 hn (by exact_mod_cast hdvd)
  have hfar := h.far n hn
  have hfar' := h.far m hm.rounds
  have hmn : m = n := by omega
  exact hmn ▸ hm

end Finite.Surrounds

/-- From `2 ^ 63` on an integer of 64 bits is rounded to a number among such integers. -/
theorem exists_ofInt_surrounds {n : ℕ} (hlower : 2 ^ 63 ≤ n) (hupper : n < 2 ^ 64) :
    ∃ x v, ofInt n = .finite x ∧ x.Surrounds v := by
  have hbound : n < 2 ^ 64 * 1 := by omega
  obtain ⟨x, hx⟩ : ∃ x, ofRatio false n 1 = .finite x :=
    exists_ofRatio_eq Nat.one_pos hbound (by decide)
  have hfinite : ofInt n = .finite x := (ofInt_natCast n).trans hx
  obtain ⟨v, hv⟩ := Finite.exists_surrounds hfinite hlower hupper
  exact ⟨x, v, hfinite, hv⟩

end Binary64

end Isochrone
