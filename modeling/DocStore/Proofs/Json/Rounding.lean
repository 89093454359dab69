import Mathlib.Tactic.Ring
import DocStore.Filter
import DocStore.Proofs.Json.Whole

/-!
# Integers in double precision

Double precision has the integers that are a power of two at most `2 ^ 53` times, and an integer
is taken as the nearest of these, a tie going to the even one (`Binary64.rounds_ofInt`).  So
integers are never compared the wrong way round, but two that are taken as one are found equal
(`Json.Confused`); this happens beyond `2 ^ 53` only, and between neighbours only.  All other
integers of 64 bits are compared and looked up by value (`Json.integers_by_value_iff`).
-/

namespace DocStore

namespace Binary64

/-- Whether double precision has an integer. -/
def Exact (n : Int) : Prop := ∃ count power : Nat, n.natAbs = count * 2 ^ power ∧ count ≤ 2 ^ 53

/-- The nearest integer that double precision has, a tie going to the even one: to the multiple of
twice the distance of the two. -/
structure Rounds (n nearest : Int) : Prop where
  exact : Exact nearest
  closest : ∀ other, Exact other → (n - nearest).natAbs ≤ (n - other).natAbs
  even : ∀ other, Exact other → other ≠ nearest → (n - other).natAbs = (n - nearest).natAbs →
    2 * (other - nearest) ∣ nearest

theorem Exact.neg {n : Int} (exact : Exact n) : Exact (-n) := by
  obtain ⟨count, power, absolute, few⟩ := exact
  exact ⟨count, power, by rw [Int.natAbs_neg, absolute], few⟩

theorem Rounds.neg {n nearest : Int} (rounds : Rounds n nearest) : Rounds (-n) (-nearest) where
  exact := rounds.exact.neg
  closest other exact := by
    have closest := rounds.closest (-other) exact.neg
    omega
  even other exact different tie := by
    have even := rounds.even (-other) exact.neg (by omega) (by omega)
    have same : 2 * (other - -nearest) = -(2 * (-other - nearest)) := by omega
    rw [same, Int.neg_dvd, Int.dvd_neg]
    exact even

/-- There is one nearest integer. -/
theorem Rounds.unique {n first second : Int} (one : Rounds n first) (another : Rounds n second) :
    first = second := by
  by_contra different
  have tie : (n - first).natAbs = (n - second).natAbs :=
    Nat.le_antisymm (one.closest second another.exact) (another.closest first one.exact)
  obtain ⟨p, firstEven⟩ := one.even second another.exact (Ne.symm different) tie.symm
  obtain ⟨q, secondEven⟩ := another.even first one.exact different tie
  -- The distance of the two would be a multiple of its double.
  have apart : (second - first) * (2 * (p + q) + 1) = 0 := by
    have sum : second - first = 2 * (first - second) * q - 2 * (second - first) * p := by omega
    calc (second - first) * (2 * (p + q) + 1)
        = (second - first) - (2 * (first - second) * q - 2 * (second - first) * p) := by ring
      _ = 0 := by omega
  rcases Int.mul_eq_zero.1 apart with same | odd
  · omega
  · omega

/-- Rounding keeps the order. -/
theorem Rounds.mono {n m nearest other : Int} (lower : Rounds n nearest) (upper : Rounds m other)
    (le : n ≤ m) : nearest ≤ other := by
  rcases Int.lt_or_eq_of_le le with less | rfl
  · have closest := lower.closest other upper.exact
    have stillClosest := upper.closest nearest lower.exact
    omega
  · exact Int.le_of_eq (lower.unique upper)

theorem rounds_of_exact {n : Int} (exact : Exact n) : Rounds n n where
  exact := exact
  closest _ _ := by simp
  even other _ different tie := by omega

/-! ## The integers around -/

/-- Between two neighbouring multiples of a power of two, the lower one at least `2 ^ 52` times
it, there is no integer that double precision has. -/
theorem beside_steps {count power quotient digits : Nat} (few : count ≤ 2 ^ 53)
    (many : 2 ^ 52 ≤ quotient) :
    count * 2 ^ power ≤ quotient * 2 ^ digits ∨
      quotient * 2 ^ digits + 2 ^ digits ≤ count * 2 ^ power := by
  rcases Nat.le_total digits power with coarse | fine
  · obtain ⟨more, rfl⟩ := Nat.exists_eq_add_of_le coarse
    have multiple : count * 2 ^ (digits + more) = count * 2 ^ more * 2 ^ digits := by
      rw [Nat.pow_add, Nat.mul_comm (2 ^ digits), Nat.mul_assoc]
    rw [multiple, ← Nat.succ_mul]
    rcases Nat.lt_or_ge quotient (count * 2 ^ more) with above | below
    · exact .inr (Nat.mul_le_mul_right _ above)
    · exact .inl (Nat.mul_le_mul_right _ below)
  · rcases Nat.eq_or_lt_of_le fine with rfl | finer
    · rw [← Nat.succ_mul]
      rcases Nat.lt_or_ge quotient count with above | below
      · exact .inr (Nat.mul_le_mul_right _ above)
      · exact .inl (Nat.mul_le_mul_right _ below)
    · obtain ⟨more, rfl⟩ := Nat.exists_eq_add_of_lt finer
      refine .inl ?_
      calc count * 2 ^ power ≤ 2 ^ 53 * 2 ^ power := Nat.mul_le_mul_right _ few
        _ = 2 ^ 52 * 2 ^ (power + 1) := by rw [Nat.pow_succ 2 power]; omega
        _ ≤ quotient * 2 ^ (power + more + 1) :=
          Nat.mul_le_mul many (Nat.pow_le_pow_right (by decide) (by omega))

/-- Rounding to multiples of the power of two that leaves 53 digits gives the nearest integer. -/
theorem rounds_roundTo {n digits : Nat} (many : 2 ^ 52 ≤ n / 2 ^ digits)
    (few : n / 2 ^ digits < 2 ^ 53) : Rounds n (roundTo (2 ^ digits) n 1 : Nat) := by
  have positive := Nat.two_pow_pos digits
  have whole : n / 2 ^ digits * 2 ^ digits + n % 2 ^ digits = n := by
    rw [Nat.mul_comm]
    exact Nat.div_add_mod n _
  have short := Nat.mod_lt n positive
  have beside {other : Int} (exact : Exact other) :
      other.natAbs ≤ n / 2 ^ digits * 2 ^ digits ∨
        n / 2 ^ digits * 2 ^ digits + 2 ^ digits ≤ other.natAbs := by
    obtain ⟨count, power, absolute, bounded⟩ := exact
    rw [absolute]
    exact beside_steps bounded many
  simp only [roundTo, Nat.one_mul]
  generalize quotient_eq : n / 2 ^ digits = quotient at *
  generalize n % 2 ^ digits = rest at *
  split
  · rename_i up
    refine ⟨⟨quotient + 1, digits, rfl, few⟩, fun other exact => ?_,
      fun other exact different tie => ?_⟩
    · have side := beside exact
      rw [Nat.succ_mul]
      omega
    · have side := beside exact
      rw [Nat.succ_mul] at different tie
      have lower : other = (quotient * 2 ^ digits : Nat) := by omega
      have distance : 2 * (other - ((quotient + 1) * 2 ^ digits : Nat)) =
          -(2 * 2 ^ digits : Nat) := by
        rw [lower, Nat.succ_mul]
        omega
      rw [distance, Int.neg_dvd]
      exact Int.natCast_dvd_natCast.2 (Nat.mul_dvd_mul_right (by omega) _)
  · rename_i down
    refine ⟨⟨quotient, digits, rfl, Nat.le_of_lt few⟩, fun other exact => ?_,
      fun other exact different tie => ?_⟩
    · have side := beside exact
      omega
    · have side := beside exact
      have upper : other = (quotient * 2 ^ digits + 2 ^ digits : Nat) := by omega
      have distance : 2 * (other - (quotient * 2 ^ digits : Nat)) = (2 * 2 ^ digits : Nat) := by
        rw [upper]
        omega
      rw [distance]
      exact Int.natCast_dvd_natCast.2 (Nat.mul_dvd_mul_right (by omega) _)

/-! ## What integers are taken as -/

/-- Rounding is the same in any unit. -/
theorem roundTo_mul {unit : Nat} (positive : 0 < unit) (step n : Nat) :
    roundTo (step * unit) (n * unit) 1 = roundTo step n 1 * unit := by
  have above : step * unit < 2 * (n % step * unit) ↔ step < 2 * (n % step) := by
    rw [← Nat.mul_assoc]
    exact Nat.mul_lt_mul_right positive
  have level : 2 * (n % step * unit) = step * unit ↔ 2 * (n % step) = step := by
    rw [← Nat.mul_assoc]
    exact Nat.mul_left_inj (Nat.ne_of_gt positive)
  simp only [roundTo, Nat.one_mul, Nat.mul_div_mul_right _ _ positive, Nat.mul_mod_mul_right,
    gt_iff_lt, above, level]
  split <;> rw [Nat.mul_assoc]

/-- The spacing around an integer of more than 53 digits leaves 53 of them, whatever the unit. -/
theorem spacing_mul_two_pow {n digits : Nat} (nonzero : n ≠ 0) (length : Nat.log2 n = 52 + digits)
    (k : Nat) : spacing (n * 2 ^ k) = 2 ^ digits * 2 ^ k := by
  have positive := Nat.two_pow_pos k
  have long : Nat.log2 (n * 2 ^ k) = 52 + digits + k := by
    rw [Nat.log2_eq_iff (Nat.mul_ne_zero nonzero (Nat.ne_of_gt positive)), ← length, Nat.pow_add,
      Nat.add_right_comm, Nat.pow_add]
    exact ⟨Nat.mul_le_mul_right _ (Nat.log2_self_le nonzero),
      Nat.mul_lt_mul_of_pos_right Nat.lt_log2_self positive⟩
  rw [spacing_eq, long, ← Nat.pow_add]
  congr 1
  omega

/-- The magnitude of an integer of 65 bits is the nearest integer. -/
theorem exists_rounds_magnitude {n : Nat} (bounded : n < 2 ^ 65) :
    ∃ nearest : Nat, Rounds n nearest ∧
      roundQuotient (n * unitsPerOne) 1 = some (nearest * unitsPerOne) := by
  rcases Nat.lt_or_ge n (2 ^ 53) with small | large
  · refine ⟨n, rounds_of_exact ⟨n, 0, by simp, Nat.le_of_lt small⟩, ?_⟩
    exact roundQuotient_mul_unitsPerOne (Nat.le_of_lt small)
  have nonzero : n ≠ 0 := by omega
  obtain ⟨digits, length⟩ : ∃ digits, Nat.log2 n = 52 + digits :=
    Nat.exists_eq_add_of_le (Nat.le_trans (by decide) ((Nat.le_log2 nonzero).2 large))
  have least : 2 ^ 52 ≤ n / 2 ^ digits := by
    rw [Nat.le_div_iff_mul_le (Nat.two_pow_pos digits), ← Nat.pow_add, ← length]
    exact Nat.log2_self_le nonzero
  have greatest : n / 2 ^ digits < 2 ^ 53 := by
    rw [Nat.div_lt_iff_lt_mul (Nat.two_pow_pos digits), ← Nat.pow_add]
    exact (Nat.log2_lt nonzero).1 (by omega)
  have rounds := rounds_roundTo least greatest
  refine ⟨_, rounds, ?_⟩
  have closest := rounds.closest 0 ⟨0, 0, rfl, by decide⟩
  have twice : roundTo (2 ^ digits) n 1 < 2 ^ 66 := by omega
  -- The exponents stay unknown, lest the powers be computed.
  have short {k bound : Nat} (room : 66 + k ≤ bound) :
      roundTo (2 ^ digits) n 1 * 2 ^ k < 2 ^ bound := by
    refine Nat.lt_of_lt_of_le (Nat.mul_lt_mul_of_pos_right twice (Nat.two_pow_pos k)) ?_
    rw [← Nat.pow_add]
    exact Nat.pow_le_pow_right Nat.two_pos room
  have finite : roundTo (2 ^ digits) n 1 * unitsPerOne < overflow := by
    rw [unitsPerOne_eq, overflow_eq]
    exact @short 1074 2098 (by decide)
  have step : spacing (n * unitsPerOne) = 2 ^ digits * unitsPerOne := by
    rw [unitsPerOne_eq]
    exact spacing_mul_two_pow nonzero length 1074
  simp only [roundQuotient, Nat.div_one, step, roundTo_mul unitsPerOne_pos, if_pos finite]

/-- An integer is taken as the nearest one that double precision has. -/
theorem rounds_ofInt {n : Int} (fits : Json.Fits64 n) :
    ∃ nearest, Rounds n nearest ∧ (ofInt n).units = nearest * unitsPerOne := by
  obtain ⟨low, high⟩ := fits
  obtain ⟨nearest, rounds, magnitude⟩ := @exists_rounds_magnitude n.natAbs (by omega)
  unfold ofInt units
  rw [magnitude, Option.getD_some]
  by_cases negative : n < 0
  · have opposite : n = -(n.natAbs : Int) := by omega
    refine ⟨-nearest, ?_, ?_⟩
    · rw [opposite]
      exact rounds.neg
    · rw [if_pos (decide_eq_true negative), Int.natCast_mul, Int.neg_mul]
  · have same : n = (n.natAbs : Int) := by omega
    refine ⟨nearest, ?_, ?_⟩
    · rw [same]
      exact rounds
    · rw [if_neg (by simpa using negative), Int.natCast_mul]

end Binary64

namespace Json

open Binary64 (Exact Rounds)

/-! ## Comparisons of integers -/

/-- Whether two integers are taken as one. -/
def Confused (left right : Int) : Prop :=
  left ≠ right ∧ ∃ nearest, Rounds left nearest ∧ Rounds right nearest

theorem Confused.symm {left right : Int} (confused : Confused left right) :
    Confused right left := by
  obtain ⟨different, nearest, leftRounds, rightRounds⟩ := confused
  exact ⟨different.symm, nearest, rightRounds, leftRounds⟩

/-- An integer of 64 bits lies close to one that double precision has. -/
theorem exists_exact_near {n : Int} (fits : Fits64 n) :
    ∃ near, Exact near ∧ (n - near).natAbs ≤ 2 ^ 10 := by
  obtain ⟨low, high⟩ := fits
  have count : (n.natAbs + 2 ^ 10) / 2 ^ 11 ≤ 2 ^ 53 := by omega
  by_cases negative : n < 0
  · exact ⟨-((n.natAbs + 2 ^ 10) / 2 ^ 11 * 2 ^ 11 : Nat), ⟨_, 11, Int.natAbs_neg _, count⟩,
      by omega⟩
  · exact ⟨((n.natAbs + 2 ^ 10) / 2 ^ 11 * 2 ^ 11 : Nat), ⟨_, 11, rfl, count⟩, by omega⟩

section Fits

variable {left right : Int} (leftFits : Fits64 left) (rightFits : Fits64 right)
include leftFits rightFits

/-- Integers are compared as the nearest ones that double precision has. -/
theorem exists_compare_rounds : ∃ leftNearest rightNearest,
    Rounds left leftNearest ∧ Rounds right rightNearest ∧
      compare (some (.int left)) (some (.int right)) = Ord.compare leftNearest rightNearest := by
  obtain ⟨leftNearest, leftRounds, leftUnits⟩ := Binary64.rounds_ofInt leftFits
  obtain ⟨rightNearest, rightRounds, rightUnits⟩ := Binary64.rounds_ofInt rightFits
  refine ⟨leftNearest, rightNearest, leftRounds, rightRounds, ?_⟩
  have positive : (0 : Int) < Binary64.unitsPerOne := Int.natCast_pos.2 Binary64.unitsPerOne_pos
  have units : compare (some (.int left)) (some (.int right)) =
      Ord.compare (Binary64.ofInt left).units (Binary64.ofInt right).units := rfl
  rw [units, leftUnits, rightUnits]
  exact compare_int_congr (Int.mul_lt_mul_right positive) (Int.mul_lt_mul_right positive)

/-- Integers that are taken as one are level. -/
theorem compare_of_confused (confused : Confused left right) :
    compare (some (.int left)) (some (.int right)) = .eq := by
  obtain ⟨_, nearest, leftRounds, rightRounds⟩ := confused
  obtain ⟨first, second, firstRounds, secondRounds, order⟩ :=
    exists_compare_rounds leftFits rightFits
  rw [order, firstRounds.unique leftRounds, secondRounds.unique rightRounds]
  exact Std.ReflOrd.compare_self

/-- All others are compared by value. -/
theorem compare_of_not_confused (apart : ¬Confused left right) :
    compare (some (.int left)) (some (.int right)) = Ord.compare left right := by
  obtain ⟨first, second, firstRounds, secondRounds, order⟩ :=
    exists_compare_rounds leftFits rightFits
  have distinct (different : left ≠ right) : first ≠ second := fun same =>
    apart ⟨different, first, firstRounds, same ▸ secondRounds⟩
  rw [order]
  rcases Int.lt_trichotomy left right with less | rfl | greater
  · have le := firstRounds.mono secondRounds (Int.le_of_lt less)
    have lt := lt_of_le_of_ne le (distinct (Int.ne_of_lt less))
    exact compare_int_congr (iff_of_true lt less) (by omega)
  · rw [firstRounds.unique secondRounds]
    simp only [Std.ReflOrd.compare_self]
  · have le := secondRounds.mono firstRounds (Int.le_of_lt greater)
    have lt := lt_of_le_of_ne le (distinct (Int.ne_of_gt greater)).symm
    exact compare_int_congr (by omega) (iff_of_true lt greater)

theorem equal_iff_confused :
    equal (some (.int left)) (some (.int right)) = true ↔ left = right ∨ Confused left right := by
  rw [equal_eq_compare rfl, beq_iff_eq]
  by_cases confused : Confused left right
  · simp [compare_of_confused leftFits rightFits confused, confused]
  · simp [compare_of_not_confused leftFits rightFits confused, confused]

/-- Integers that are taken as one lie beyond `2 ^ 53`. -/
theorem Confused.beyond (confused : Confused left right) : 2 ^ 53 ≤ left.natAbs := by
  by_contra inside
  have byValue := @compare_int left ⟨by omega, by omega⟩ right
  rw [compare_of_confused leftFits rightFits confused] at byValue
  exact confused.1 (Std.compare_eq_iff_eq.1 byValue.symm)

/-- Integers that are taken as one are neighbours. -/
theorem Confused.near (confused : Confused left right) : (left - right).natAbs ≤ 2 ^ 11 := by
  obtain ⟨_, nearest, leftRounds, rightRounds⟩ := confused
  obtain ⟨first, firstExact, firstNear⟩ := exists_exact_near leftFits
  obtain ⟨second, secondExact, secondNear⟩ := exists_exact_near rightFits
  have leftClosest := leftRounds.closest first firstExact
  have rightClosest := rightRounds.closest second secondExact
  omega

end Fits

/-- Integers of 64 bits are compared by value, and no filter takes one for another, exactly if they
are not taken as one number of double precision.  That happens to neighbours beyond `2 ^ 53`
only. -/
theorem integers_by_value_iff {left right : Int} (leftFits : Fits64 left)
    (rightFits : Fits64 right) :
    (compare (some (.int left)) (some (.int right)) = Ord.compare left right ↔
        ¬Confused left right) ∧
      (equal (some (.int left)) (some (.int right)) = true ↔
        left = right ∨ Confused left right) ∧
      (Confused left right → 2 ^ 53 ≤ left.natAbs ∧ 2 ^ 53 ≤ right.natAbs ∧
        (left - right).natAbs ≤ 2 ^ 11) ∧
      ∀ (document : Document) (field : String), document.get? field = some (.int left) →
        ((⟨field, .equal, [.int right]⟩ : Filter).admits document = true ↔
          left = right ∨ Confused left right) ∧
        ((⟨field, .notEqual, [.int right]⟩ : Filter).admits document = true ↔
          left ≠ right ∧ ¬Confused left right) ∧
        ∀ others : List Int, (∀ other ∈ others, Fits64 other) →
          ((⟨field, .oneOf, others.map .int⟩ : Filter).admits document = true ↔
            ∃ other ∈ others, left = other ∨ Confused left other) ∧
          ((⟨field, .noneOf, others.map .int⟩ : Filter).admits document = true ↔
            ∀ other ∈ others, left ≠ other ∧ ¬Confused left other) := by
  refine ⟨⟨fun byValue confused => ?_, compare_of_not_confused leftFits rightFits⟩,
    equal_iff_confused leftFits rightFits, fun confused => ⟨confused.beyond leftFits rightFits,
      confused.symm.beyond rightFits leftFits, confused.near leftFits rightFits⟩, ?_⟩
  · rw [compare_of_confused leftFits rightFits confused] at byValue
    exact confused.1 (Std.compare_eq_iff_eq.1 byValue.symm)
  intro document field held
  have single := equal_iff_confused leftFits rightFits
  refine ⟨?_, ?_, fun others othersFit => ?_⟩
  · rw [Filter.admits, held]
    exact single
  · rw [Filter.admits, held, ← not_or, ← single]
    simp [Filter.accepts, Filter.value]
  · have listed :
        ((others.map .int).any fun value => equal (some (.int left)) (some value)) = true ↔
          ∃ other ∈ others, left = other ∨ Confused left other := by
      rw [List.any_map, List.any_eq_true]
      exact exists_congr fun other => and_congr_right fun member =>
        equal_iff_confused leftFits (othersFit other member)
    refine ⟨?_, ?_⟩
    · rw [Filter.admits, held]
      exact listed
    · simp only [← not_or]
      rw [Filter.admits, held]
      have none := not_congr listed
      simpa [Filter.accepts] using none

/-- Of the integers around `2 ^ 53`, some are told apart and some are not. -/
theorem integers_by_value_iff_wide :
    let document : Document := ⟨"a", ⟨5⟩, false, [("owner", .int 9007199254740993)]⟩
    ¬Confused 9007199254740993 9007199254740995 ∧ Confused 9007199254740993 9007199254740992 ∧
      (⟨"owner", .notEqual, [.int 9007199254740995]⟩ : Filter).admits document = true ∧
      (⟨"owner", .oneOf, [-1, 9007199254740992].map .int⟩ : Filter).admits document = true := by
  intro document
  have fits : ∀ n ∈ [9007199254740992, 9007199254740993, 9007199254740995, -1], Fits64 n := by
    decide
  obtain ⟨odd, -, -, oddFilters⟩ := @integers_by_value_iff 9007199254740993 9007199254740995
    (fits _ (by decide)) (fits _ (by decide))
  obtain ⟨-, even, -, -⟩ := @integers_by_value_iff 9007199254740993 9007199254740992
    (fits _ (by decide)) (fits _ (by decide))
  have apart : ¬Confused 9007199254740993 9007199254740995 := odd.1 (by decide +kernel)
  have confused : Confused 9007199254740993 9007199254740992 :=
    (even.1 (by decide +kernel)).resolve_left (by decide)
  obtain ⟨-, others, listed⟩ := oddFilters document "owner" (by rfl)
  refine ⟨apart, confused, others.2 ⟨by decide, apart⟩, ?_⟩
  have few : ∀ n ∈ [-1, 9007199254740992], Fits64 n := by decide
  exact (listed _ few).1.2 ⟨9007199254740992, by decide, .inr confused⟩

/-- Two identifiers that differ in their last digit are found equal, and a filter on one of them
admits the document that has the other. -/
theorem wide_identifiers_level :
    let document : Document := ⟨"a", ⟨5⟩, false, [("owner", .int 9007199254740993)]⟩
    Fits64 9007199254740993 ∧ Fits64 9007199254740992 ∧
      Ord.compare (9007199254740993 : Int) 9007199254740992 = .gt ∧
      compare (some (.int 9007199254740993)) (some (.int 9007199254740992)) = .eq ∧
      equal (some (.int 9007199254740993)) (some (.int 9007199254740992)) = true ∧
      (⟨"owner", .equal, [.int 9007199254740992]⟩ : Filter).admits document = true := by
  decide +kernel

end Json
end DocStore
