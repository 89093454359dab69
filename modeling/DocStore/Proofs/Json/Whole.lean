import Mathlib.Data.Int.Order.Basic
import DocStore.Json.Coercion
import DocStore.Proofs.Json.Order

/-!
# Whole numbers

Double precision keeps an integer between `-2 ^ 53` and `2 ^ 53` apart from every other whole
number: what is rounded on the other side of the comparison stays on its side
(`Binary64.compare_units_ofInt`).  So such an integer is compared with a whole number as it is
with the integer of 64 bits that the number is taken as (`Json.compare_toInt`).
-/

namespace DocStore

/-- Whether an integer lies strictly between the first ones that double precision confuses with
others. -/
def Json.Inside53 (value : Int) : Prop := -2 ^ 53 < value ∧ value < 2 ^ 53

instance : DecidablePred Json.Inside53 := fun value =>
  inferInstanceAs (Decidable (-2 ^ 53 < value ∧ value < 2 ^ 53))

/-- Pairs of integers that lie alike are ordered alike. -/
theorem compare_int_congr {left right first second : Int} (less : left < right ↔ first < second)
    (greater : right < left ↔ second < first) :
    Ord.compare left right = Ord.compare first second := by
  rcases lt_trichotomy left right with below | same | above
  · rw [compare_lt_iff_lt.2 below, compare_lt_iff_lt.2 (less.1 below)]
  · have level : first = second := by omega
    rw [same, level, compare_eq_iff_eq.2 rfl, compare_eq_iff_eq.2 rfl]
  · rw [compare_gt_iff_gt.2 above, compare_gt_iff_gt.2 (greater.1 above)]

namespace Binary64

/-! ## Integers beyond -/

/-- Rounding to multiples of a step goes no lower than a multiple of it. -/
theorem le_roundTo {step bound numerator : Nat} (whole : step ∣ bound) (le : bound ≤ numerator) :
    bound ≤ roundTo step numerator 1 := by
  obtain ⟨count, rfl⟩ := whole
  rcases Nat.eq_zero_or_pos step with rfl | positive
  · simp
  have fits : count ≤ numerator / step := by
    rw [Nat.le_div_iff_mul_le positive, Nat.mul_comm]
    exact le
  have below : step * count ≤ numerator / step * step := by
    rw [Nat.mul_comm]
    exact Nat.mul_le_mul_right step fits
  simp only [roundTo, Nat.one_mul]
  split
  · exact Nat.le_trans below (Nat.mul_le_mul_right step (Nat.le_succ _))
  · exact below

/-- A power of two that is not above a number of units is not above what they are rounded to. -/
theorem two_pow_le_roundTo {k numerator : Nat} (le : 2 ^ k ≤ numerator) :
    2 ^ k ≤ roundTo (spacing numerator) numerator 1 := by
  have nonzero : numerator ≠ 0 := Nat.ne_of_gt (Nat.lt_of_lt_of_le (Nat.two_pow_pos k) le)
  have whole : spacing numerator ∣ 2 ^ Nat.log2 numerator := by
    rw [spacing_eq]
    exact Nat.pow_dvd_pow 2 (by omega)
  have power : 2 ^ k ≤ 2 ^ Nat.log2 numerator :=
    Nat.pow_le_pow_right (by decide) ((Nat.le_log2 nonzero).2 le)
  exact Nat.le_trans power (le_roundTo whole (Nat.log2_self_le nonzero))

/-- An integer beyond `2 ^ 53` has a magnitude beyond it. -/
theorem le_magnitude_ofInt {n : Int} (beyond : 2 ^ 53 ≤ n.natAbs) :
    2 ^ 53 * unitsPerOne ≤ (ofInt n).magnitude := by
  -- The exponent stays unknown, lest the power be computed.
  obtain ⟨k, unit⟩ : ∃ k, unitsPerOne = 2 ^ k := ⟨1074, unitsPerOne_eq⟩
  have power : 2 ^ 53 * unitsPerOne = 2 ^ (53 + k) := by rw [unit, Nat.pow_add]
  have finite : 2 ^ 53 * unitsPerOne < overflow := by
    rw [unitsPerOne_eq, overflow_eq]
    exact @mul_two_pow_lt (2 ^ 53) (Nat.le_refl _) 1074 2098 (by decide)
  have units : 2 ^ 53 * unitsPerOne ≤ n.natAbs * unitsPerOne :=
    Nat.mul_le_mul_right unitsPerOne beyond
  rw [power] at finite units ⊢
  have rounded := two_pow_le_roundTo units
  simp only [ofInt, roundQuotient, Nat.div_one]
  split
  · rwa [Option.getD_some]
  · rw [Option.getD_none]
    exact Nat.le_of_lt finite

/-- The integers on one side of a small one stay on that side when they are rounded. -/
theorem compare_units_ofInt {small : Int} (inside : Json.Inside53 small) (n : Int) :
    Ord.compare (ofInt small).units (ofInt n).units = Ord.compare small n := by
  obtain ⟨low, high⟩ := inside
  have positive : (0 : Int) < unitsPerOne := Int.natCast_pos.2 unitsPerOne_pos
  rw [units_ofInt ⟨Int.le_of_lt low, Int.le_of_lt high⟩]
  by_cases fits : n.natAbs ≤ 2 ^ 53
  · rw [units_ofInt ⟨by omega, by omega⟩]
    exact compare_int_congr (Int.mul_lt_mul_right positive) (Int.mul_lt_mul_right positive)
  have least := Int.ofNat_le.2 (le_magnitude_ofInt (Nat.le_of_not_le fits))
  rw [Int.natCast_mul] at least
  have above := Int.mul_lt_mul_of_pos_right high positive
  have below := Int.mul_lt_mul_of_pos_right low positive
  by_cases negative : n < 0
  · have units : (ofInt n).units = -((ofInt n).magnitude : Int) := by
      rw [Binary64.units, if_pos (by simpa [ofInt] using negative)]
    rw [units]
    exact compare_int_congr (by omega) (by omega)
  · have units : (ofInt n).units = (ofInt n).magnitude := by
      rw [Binary64.units, if_neg (by simpa [ofInt] using negative)]
    rw [units]
    exact compare_int_congr (by omega) (by omega)

/-- What a number without a fraction is without its fraction. -/
theorem units_of_whole {x : Binary64} (whole : x.magnitude % unitsPerOne = 0) :
    x.units = x.truncate * unitsPerOne := by
  have magnitude : (x.magnitude : Int) = (x.magnitude / unitsPerOne : Nat) * unitsPerOne := by
    rw [← Int.natCast_mul, Nat.div_mul_cancel (Nat.dvd_of_mod_eq_zero whole)]
  unfold units truncate
  split
  · rw [Int.neg_mul, ← magnitude]
  · exact magnitude

theorem compare_units_of_whole {small : Int} (inside : Json.Inside53 small) {x : Binary64}
    (whole : x.magnitude % unitsPerOne = 0) :
    Ord.compare (ofInt small).units x.units = Ord.compare small x.truncate := by
  obtain ⟨low, high⟩ := inside
  have positive : (0 : Int) < unitsPerOne := Int.natCast_pos.2 unitsPerOne_pos
  rw [units_ofInt ⟨Int.le_of_lt low, Int.le_of_lt high⟩, units_of_whole whole]
  exact compare_int_congr (Int.mul_lt_mul_right positive) (Int.mul_lt_mul_right positive)

end Binary64

namespace Json

/-- Whether a value is a number without a fraction. -/
def isWhole : Json → Bool
  | int _ => true
  | float x => x.magnitude % Binary64.unitsPerOne == 0
  | _ => false

variable {small : Int} (inside : Inside53 small)
include inside

theorem compare_clampInt64 (n : Int) :
    Ord.compare small (Number.Extended.clampInt64 n) = Ord.compare small n := by
  obtain ⟨low, high⟩ := inside
  unfold Number.Extended.clampInt64 Number.Extended.leastInt64 Number.Extended.greatestInt64
  exact compare_int_congr (by omega) (by omega)

theorem compare_int (n : Int) :
    compare (some (int small)) (some (int n)) = Ord.compare small n :=
  Binary64.compare_units_ofInt inside n

/-- A small integer is compared with a whole number as with what the number is taken as. -/
theorem compare_whole {value : Json} (whole : value.isWhole = true) :
    compare (some (int small)) (some value) = Ord.compare small value.toInt := by
  cases value with
  | int n => rw [toInt, compare_clampInt64 inside, compare_int inside]
  | float x =>
    rw [toInt, Number.Extended.toInt64, compare_clampInt64 inside]
    exact Binary64.compare_units_of_whole inside (by simpa [isWhole] using whole)
  | _ => cases whole

omit inside in
/-- Integers are equal if neither comes before the other. -/
theorem beq_eq_compare (left right : Int) : (left == right) = (Ord.compare left right == .eq) := by
  rw [Bool.eq_iff_iff, beq_iff_eq, beq_iff_eq, compare_eq_iff_eq]

omit inside in
theorem equal_eq_compare {value : Json} (whole : value.isWhole = true) :
    equal (some (int small)) (some value) =
      (compare (some (int small)) (some value) == .eq) := by
  cases value with
  | int n => exact beq_eq_compare (Binary64.ofInt small).units (Binary64.ofInt n).units
  | float x => exact beq_eq_compare (Binary64.ofInt small).units x.units
  | _ => cases whole

theorem equal_int (n : Int) : equal (some (int small)) (some (int n)) = (small == n) := by
  rw [equal_eq_compare rfl, compare_int inside, beq_eq_compare]

/-- A small integer equals the whole numbers that are taken as it. -/
theorem equal_whole {value : Json} (whole : value.isWhole = true) :
    equal (some (int small)) (some value) = (small == value.toInt) := by
  rw [equal_eq_compare whole, compare_whole inside whole, beq_eq_compare]

end Json
end DocStore
