import Mathlib.Algebra.Group.Nat.Defs
import DocStore.Json.Order
import DocStore.Proofs.Json.RoundTrip

/-!
# The order of fields

Fields are ordered by three weights in a row: the rank, a text and a number
(`compare_eq_compareLex`).  So the order is a total preorder, and on values without floats,
whose integers double precision tells apart, it finds equal what equality does
(`compare_eq_iff`, `equal_iff`).
-/

namespace DocStore

namespace Binary64

/-! ## Small integers are exact -/

theorem unitsPerOne_eq : unitsPerOne = 2 ^ 1074 := Nat.one_shiftLeft _

theorem overflow_eq : overflow = 2 ^ 2098 := Nat.one_shiftLeft _

theorem spacing_eq (units : Nat) : spacing units = 2 ^ (Nat.log2 units + 1 - 53) :=
  Nat.one_shiftLeft _

theorem unitsPerOne_pos : 0 < unitsPerOne := by
  rw [unitsPerOne_eq]
  apply Nat.two_pow_pos

theorem roundTo_of_dvd {step numerator : Nat} (whole : step ∣ numerator) :
    roundTo step numerator 1 = numerator := by
  have clear : numerator % step = 0 := Nat.mod_eq_zero_of_dvd whole
  simp only [roundTo, Nat.one_mul, clear, Nat.div_mul_cancel whole]
  rw [if_neg]
  rintro (above | ⟨half, odd⟩)
  · omega
  · have nothing : step = 0 := by omega
    rw [nothing, Nat.div_zero] at odd
    cases odd

/-- The representable magnitudes around an integer up to `2 ^ 53`, counted in units of any
power of two, lie so close that the integer is one of them. -/
theorem spacing_dvd {n : Nat} (small : n ≤ 2 ^ 53) (k : Nat) :
    spacing (n * 2 ^ k) ∣ n * 2 ^ k := by
  rcases Nat.eq_zero_or_pos n with rfl | positive
  · rw [Nat.zero_mul]
    exact Nat.dvd_zero _
  have nonzero : n * 2 ^ k ≠ 0 :=
    Nat.mul_ne_zero (Nat.ne_of_gt positive) (Nat.ne_of_gt (Nat.two_pow_pos k))
  rw [spacing_eq]
  rcases Nat.lt_or_eq_of_le small with less | rfl
  · have few : Nat.log2 (n * 2 ^ k) < 53 + k := by
      rw [Nat.log2_lt nonzero, Nat.pow_add]
      exact Nat.mul_lt_mul_of_pos_right less (Nat.two_pow_pos k)
    refine Nat.dvd_trans (Nat.pow_dvd_pow 2 ?_) (Nat.dvd_mul_left (2 ^ k) n)
    omega
  · have few : Nat.log2 (2 ^ 53 * 2 ^ k) < 54 + k := by
      rw [Nat.log2_lt nonzero, Nat.pow_add]
      exact Nat.mul_lt_mul_of_pos_right (by decide) (Nat.two_pow_pos k)
    rw [← Nat.pow_add] at few ⊢
    refine Nat.pow_dvd_pow 2 ?_
    omega

theorem mul_two_pow_lt {n : Nat} (small : n ≤ 2 ^ 53) {k bound : Nat} (room : 53 + k < bound) :
    n * 2 ^ k < 2 ^ bound := by
  refine Nat.lt_of_le_of_lt (Nat.mul_le_mul_right (2 ^ k) small) ?_
  rw [← Nat.pow_add]
  exact Nat.pow_lt_pow_right (by decide) room

theorem roundQuotient_mul_unitsPerOne {n : Nat} (small : n ≤ 2 ^ 53) :
    roundQuotient (n * unitsPerOne) 1 = some (n * unitsPerOne) := by
  have close : spacing (n * unitsPerOne) ∣ n * unitsPerOne := by
    rw [unitsPerOne_eq]
    exact spacing_dvd small 1074
  have finite : n * unitsPerOne < overflow := by
    rw [unitsPerOne_eq, overflow_eq]
    exact @mul_two_pow_lt n small 1074 2098 (by decide)
  simp only [roundQuotient, Nat.div_one, roundTo_of_dvd close, if_pos finite]

theorem units_ofInt {n : Int} (fits : Json.Fits53 n) : (ofInt n).units = n * unitsPerOne := by
  obtain ⟨low, high⟩ := fits
  unfold ofInt units
  rw [roundQuotient_mul_unitsPerOne (by omega), Option.getD_some]
  by_cases negative : n < 0
  · have absolute : (n.natAbs : Int) = -n := by omega
    rw [if_pos (decide_eq_true negative), Int.natCast_mul, absolute, Int.neg_mul, Int.neg_neg]
  · have absolute : (n.natAbs : Int) = n := by omega
    rw [if_neg (by simpa using negative), Int.natCast_mul, absolute]

theorem units_ofInt_inj {left right : Int} (leftFits : Json.Fits53 left)
    (rightFits : Json.Fits53 right) (same : (ofInt left).units = (ofInt right).units) :
    left = right := by
  rw [units_ofInt leftFits, units_ofInt rightFits] at same
  have nonzero : (unitsPerOne : Int) ≠ 0 :=
    Int.natCast_ne_zero.2 (Nat.ne_of_gt unitsPerOne_pos)
  exact Int.eq_of_mul_eq_mul_right nonzero same

end Binary64

namespace Json

/-! ## The order as a lexicographic one -/

/-- The text that a field is compared by among fields of its rank. -/
def textWeight : Option Json → String
  | some (str text) => text
  | some (arr items) => (arr items).render
  | some (obj members) => (obj members).render
  | _ => ""

/-- The number that a field is compared by among fields of its rank. -/
def unitWeight : Option Json → Int
  | some (int value) => (Binary64.ofInt value).units
  | some (float value) => value.units
  | _ => 0

theorem compareWithin_eq {left right : Json} (same : rank (some left) = rank (some right)) :
    compareWithin left right =
      (Ord.compare (textWeight (some left)) (textWeight (some right))).then
        (Ord.compare (unitWeight (some left)) (unitWeight (some right))) := by
  rcases left with _ | (_ | _) | _ | _ | _ | _ | _ <;>
    rcases right with _ | (_ | _) | _ | _ | _ | _ | _ <;>
    simp_all [rank, compareWithin, textWeight, unitWeight, toBinary64?, Binary64.compare]

theorem compare_eq_compareLex :
    compare = compareLex (compareOn rank)
      (compareLex (compareOn textWeight) (compareOn unitWeight)) := by
  funext left right
  unfold compare compareLex compareOn
  by_cases same : rank left = rank right
  · rw [if_pos same, same, Std.ReflOrd.compare_self, Ordering.eq_then]
    cases left with
    | none => rcases right with _ | _ | (_ | _) | _ | _ | _ | _ | _ <;> cases same <;> rfl
    | some left =>
      cases right with
      | none => rcases left with _ | (_ | _) | _ | _ | _ | _ | _ <;> cases same <;> rfl
      | some right => exact compareWithin_eq same
  · rw [if_neg same]
    have apart : Ord.compare (rank left) (rank right) ≠ .eq :=
      fun equal => same (Std.LawfulEqOrd.eq_of_compare equal)
    cases order : Ord.compare (rank left) (rank right) with
    | eq => exact absurd order apart
    | lt => rfl
    | gt => rfl

/-- The order of fields is a total preorder. -/
instance : Std.TransCmp compare := by
  rw [compare_eq_compareLex]
  infer_instance

theorem compare_eq_eq_iff (left right : Option Json) :
    compare left right = .eq ↔ rank left = rank right ∧ textWeight left = textWeight right ∧
      unitWeight left = unitWeight right := by
  rw [compare_eq_compareLex]
  simp only [compareLex, compareOn, Ordering.then_eq_eq, Std.compare_eq_iff_eq]

/-! ## A missing field is null -/

theorem rank_getD (field : Option Json) : rank (some (field.getD null)) = rank field := by
  cases field <;> rfl

theorem textWeight_getD (field : Option Json) :
    textWeight (some (field.getD null)) = textWeight field := by
  cases field <;> rfl

theorem unitWeight_getD (field : Option Json) :
    unitWeight (some (field.getD null)) = unitWeight field := by
  cases field <;> rfl

theorem compare_getD_right (left right : Option Json) :
    compare left (some (right.getD null)) = compare left right := by
  rw [compare_eq_compareLex]
  simp only [compareLex, compareOn, rank_getD, textWeight_getD, unitWeight_getD]

/-! ## Equality -/

theorem sameItems_iff {items : List Json}
    (each : ∀ item ∈ items, ∀ other, item.same other = true ↔ item = other)
    (others : List Json) : sameItems items others = true ↔ items = others := by
  induction items generalizing others with
  | nil => cases others <;> simp [sameItems]
  | cons item rest ih =>
    cases others with
    | nil => simp [sameItems]
    | cons other others =>
      have head := each item List.mem_cons_self other
      have tail := ih (fun inner member => each inner (List.mem_cons_of_mem item member)) others
      simp [sameItems, head, tail]

theorem sameMembers_iff {members : List (String × Json)}
    (each : ∀ member ∈ members, ∀ other, member.2.same other = true ↔ member.2 = other)
    (others : List (String × Json)) : sameMembers members others = true ↔ members = others := by
  induction members generalizing others with
  | nil => cases others <;> simp [sameMembers]
  | cons member rest ih =>
    obtain ⟨name, value⟩ := member
    cases others with
    | nil => simp [sameMembers]
    | cons second others =>
      obtain ⟨other, found⟩ := second
      have head := each (name, value) List.mem_cons_self found
      have tail := ih (fun inner inside => each inner (List.mem_cons_of_mem _ inside)) others
      simp [sameMembers, head, tail]

/-- Equality of values without floats is equality. -/
theorem same_iff {fits : Int → Prop} {left : Json} (integral : Integral fits left)
    (right : Json) : left.same right = true ↔ left = right := by
  induction left generalizing right with
  | null => cases right <;> simp [same]
  | bool value => cases right <;> simp [same]
  | int value => cases right <;> simp [same]
  | float value => cases integral
  | str text => cases right <;> simp [same]
  | arr items ih =>
    cases right with
    | arr others =>
      rw [Integral, integralItems_iff] at integral
      rw [same, sameItems_iff (fun item member => ih item member (integral item member)),
        arr.injEq]
    | _ => simp [same]
  | obj members ih =>
    cases right with
    | obj others =>
      rw [Integral, integralMembers_iff] at integral
      rw [same, sameMembers_iff (fun entry member => ih entry member (integral entry member)),
        obj.injEq]
    | _ => simp [same]

/-- A field that order and equality treat alike: what it holds has no floats, and double
precision tells its integers apart. -/
def Discrete (field : Option Json) : Prop :=
  Integral Fits53 (field.getD null) ∧ Ordered (field.getD null)

instance : DecidablePred Discrete := fun field =>
  inferInstanceAs (Decidable (Integral Fits53 (field.getD null) ∧ Ordered (field.getD null)))

theorem eq_of_weights {left right : Json} (leftIntegral : Integral Fits53 left)
    (rightIntegral : Integral Fits53 right) (leftOrdered : Ordered left)
    (rightOrdered : Ordered right) (ranks : rank (some left) = rank (some right))
    (texts : textWeight (some left) = textWeight (some right))
    (units : unitWeight (some left) = unitWeight (some right)) : left = right := by
  have wide : ∀ {value : Json}, Integral Fits53 value → Integral Fits64 value :=
    Integral.mono fun _ => Fits53.fits64
  rcases left with _ | (_ | _) | _ | _ | _ | _ | _ <;>
    rcases right with _ | (_ | _) | _ | _ | _ | _ | _ <;> cases ranks <;> try rfl
  · exact congrArg int (Binary64.units_ofInt_inj leftIntegral rightIntegral units)
  · exact absurd rightIntegral id
  · exact absurd leftIntegral id
  · exact absurd leftIntegral id
  · exact congrArg str texts
  all_goals
    exact render_inj (wide leftIntegral) (wide rightIntegral) leftOrdered rightOrdered texts

/-- The order finds fields equal that are, a missing one being null. -/
theorem compare_eq_iff {left right : Option Json} (leftDiscrete : Discrete left)
    (rightDiscrete : Discrete right) :
    compare left right = .eq ↔ left.getD null = right.getD null := by
  rw [compare_eq_eq_iff, ← rank_getD left, ← rank_getD right, ← textWeight_getD left,
    ← textWeight_getD right, ← unitWeight_getD left, ← unitWeight_getD right]
  constructor
  · rintro ⟨ranks, texts, units⟩
    exact eq_of_weights leftDiscrete.1 rightDiscrete.1 leftDiscrete.2 rightDiscrete.2 ranks texts
      units
  · intro same
    rw [same]
    exact ⟨rfl, rfl, rfl⟩

/-- Equality finds fields equal that are, a missing one being null. -/
theorem equal_iff {left right : Option Json} (leftDiscrete : Discrete left)
    (rightDiscrete : Discrete right) :
    equal left right = true ↔ left.getD null = right.getD null := by
  have leftIntegral := leftDiscrete.1
  have rightIntegral := rightDiscrete.1
  cases left with
  | none =>
    cases right with
    | none => simp [equal]
    | some right => cases right <;> simp [equal, isNull]
  | some left =>
    cases right with
    | none => cases left <;> simp [equal, isNull]
    | some right =>
      rw [Option.getD_some] at leftIntegral rightIntegral
      simp only [equal, Option.getD_some]
      split
      · rename_i leftNumber rightNumber leftFound rightFound
        cases left with
        | int leftValue =>
          cases right with
          | int rightValue =>
            cases leftFound
            cases rightFound
            rw [Binary64.same, beq_iff_eq, int.injEq]
            constructor
            · exact Binary64.units_ofInt_inj leftIntegral rightIntegral
            · exact fun same => by rw [same]
          | float _ => exact absurd rightIntegral id
          | _ => cases rightFound
        | float _ => exact absurd leftIntegral id
        | _ => cases leftFound
      · exact same_iff leftIntegral right

end Json
end DocStore
