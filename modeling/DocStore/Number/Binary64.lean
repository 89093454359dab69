/-!
# Finite double-precision numbers

A finite double-precision number is a sign and a multiple of `2 ^ -1074`, the
least positive one.  Arithmetic is exact rational arithmetic followed by one
rounding to the nearest such number with 53 significant bits, ties to the even
neighbour; a result beyond the greatest finite number is none.
-/

namespace DocStore

/-- A finite double-precision number. -/
structure Binary64 where
  /-- Whether the sign is minus; zero has both signs. -/
  negative : Bool
  /-- The absolute value, counted in units of `2 ^ -1074`. -/
  magnitude : Nat
  deriving DecidableEq, Inhabited

namespace Binary64

/-- How many units make one. -/
def unitsPerOne : Nat := 1 <<< 1074

/-- The first magnitude beyond the finite numbers. -/
def overflow : Nat := 1 <<< 2098

/-- The distance of the representable magnitudes around a number of units: one
below `2 ^ 53`, and twice as much for every further binary digit. -/
def spacing (units : Nat) : Nat := 1 <<< (Nat.log2 units + 1 - 53)

/-- The multiple of `step` nearest to `numerator / denominator`, a tie going to
the even multiple. -/
def roundTo (step numerator denominator : Nat) : Nat :=
  let cell := denominator * step
  let below := numerator / cell
  let remainder := numerator % cell
  if 2 * remainder > cell ∨ (2 * remainder = cell ∧ below % 2 = 1) then (below + 1) * step
  else below * step

/-- The representable magnitude nearest to a quotient of units, if it is finite. -/
def roundQuotient (numerator denominator : Nat) : Option Nat :=
  let rounded := roundTo (spacing (numerator / denominator)) numerator denominator
  if rounded < overflow then some rounded else none

/-- Positive zero. -/
def zero : Binary64 := ⟨false, 0⟩

/-- The number nearest to a natural number. -/
def ofNat? (n : Nat) : Option Binary64 :=
  (roundQuotient (n * unitsPerOne) 1).map (Binary64.mk false)

/-- The number nearest to an integer; integers of 64 bits are never beyond. -/
def ofInt (n : Int) : Binary64 :=
  ⟨n < 0, (roundQuotient (n.natAbs * unitsPerOne) 1).getD overflow⟩

/-- The opposite number. -/
def neg (x : Binary64) : Binary64 := ⟨!x.negative, x.magnitude⟩

/-- The rounded product, if it is finite. -/
def mul? (x y : Binary64) : Option Binary64 :=
  (roundQuotient (x.magnitude * y.magnitude) unitsPerOne).map
    (Binary64.mk (x.negative != y.negative))

/-- The rounded quotient by a number other than zero, if it is finite. -/
def div? (x y : Binary64) : Option Binary64 :=
  (roundQuotient (x.magnitude * unitsPerOne) y.magnitude).map
    (Binary64.mk (x.negative != y.negative))

/-- The value in units, without the sign of zero. -/
def units (x : Binary64) : Int :=
  if x.negative then -(x.magnitude : Int) else x.magnitude

/-- Whether the value is zero. -/
def isZero (x : Binary64) : Bool := x.magnitude == 0

/-- Equality of values: the two zeros are equal. -/
def same (x y : Binary64) : Bool := x.units == y.units

/-- The order of values. -/
def compare (x y : Binary64) : Ordering := Ord.compare x.units y.units

/-- The value without its fraction. -/
def truncate (x : Binary64) : Int :=
  let whole := x.magnitude / unitsPerOne
  if x.negative then -(whole : Int) else whole

/-- The nearest integer, a half going away from zero. -/
def roundHalfAway (x : Binary64) : Int :=
  let whole := (2 * x.magnitude + unitsPerOne) / (2 * unitsPerOne)
  if x.negative then -(whole : Int) else whole

/-- The number nearest to `digits * 10 ^ exponent`, if it is finite. -/
def ofDecimal? (digits : Nat) (exponent : Int) : Option Binary64 :=
  (match exponent with
    | .ofNat e => roundQuotient (digits * Nat.pow 10 e * unitsPerOne) 1
    | .negSucc e => roundQuotient (digits * unitsPerOne) (Nat.pow 10 (e + 1))).map (Binary64.mk false)

end Binary64
end DocStore
