import DocStore.Number.Binary64
import DocStore.Text.Numeral

/-!
# The shortest decimal of a double-precision number

Every decimal strictly between the midpoints to the two neighbours of a number
reads back as the number, and so do the midpoints when its last bit is even.
Among the decimals with the fewest digits that read back, the nearest is chosen,
and of two at the same distance the one with the even last digit.
-/

namespace DocStore
namespace Number

/-- A positive decimal `digits * 10 ^ exponent`. -/
structure Decimal where
  /-- The digits as a number. -/
  digits : Nat
  /-- The power of ten of the last digit. -/
  exponent : Int
  deriving DecidableEq

/-- The reals that read as one number, in half units. -/
structure Basin where
  /-- Twice the magnitude of the number. -/
  center : Nat
  /-- The lower midpoint. -/
  low : Nat
  /-- The upper midpoint. -/
  high : Nat
  /-- Whether the midpoints belong to the number. -/
  closed : Bool

/-- The basin of a positive magnitude.  Below a power of two the neighbours lie
half as far apart. -/
def Basin.of (magnitude : Nat) : Basin :=
  let step := Binary64.spacing magnitude
  let below := if step > 1 ∧ magnitude = 1 <<< Nat.log2 magnitude then step / 2 else step
  ⟨2 * magnitude, 2 * magnitude - below, 2 * magnitude + step, magnitude / step % 2 = 0⟩

/-- Whether `numerator / denominator` half units lie in the basin. -/
def Basin.holds (basin : Basin) (numerator denominator : Nat) : Bool :=
  if basin.closed then basin.low * denominator ≤ numerator ∧ numerator ≤ basin.high * denominator
  else basin.low * denominator < numerator ∧ numerator < basin.high * denominator

/-- A power of ten in half units, as a fraction. -/
def gridCell (exponent : Int) : Nat × Nat :=
  match exponent with
  | .ofNat e => (Nat.pow 10 e * (2 * Binary64.unitsPerOne), 1)
  | .negSucc e => (2 * Binary64.unitsPerOne, Nat.pow 10 (e + 1))

/-- The better of the two neighbours of the basin's center on the multiples of
`10 ^ exponent` that lie in the basin. -/
def onGrid? (basin : Basin) (exponent : Int) : Option Nat :=
  let (cell, denominator) := gridCell exponent
  let scaled := basin.center * denominator
  let below := scaled / cell
  let remainder := scaled % cell
  let lower := basin.holds (below * cell) denominator
  let upper := basin.holds ((below + 1) * cell) denominator
  let preferLower := 2 * remainder < cell ∨ (2 * remainder = cell ∧ below % 2 = 0)
  if lower ∧ (preferLower ∨ ¬ upper) then some below
  else if upper then some (below + 1)
  else none

/-- The power of ten of the first digit of a positive magnitude. -/
def leadingExponent (magnitude : Nat) : Int :=
  let whole := magnitude / Binary64.unitsPerOne
  if whole > 0 then ((Text.Numeral.showNat whole).length : Int) - 1
  else
    -- the quotient of the unit by the magnitude tells how far the first digit lies behind the point
    let inverse := (Binary64.unitsPerOne + magnitude - 1) / magnitude
    Int.negOfNat (Text.Numeral.showNat (inverse - 1)).length

/-- The first of the grids from coarse to fine that has a point in the basin. -/
def firstGrid (basin : Basin) : List Int → Option Decimal
  | [] => none
  | exponent :: finer =>
    match onGrid? basin exponent with
    | some digits => some ⟨digits, exponent⟩
    | none => firstGrid basin finer

/-- The shortest decimal of a positive magnitude.  The grid of the unit itself,
which holds the magnitude, ends the search where seventeen digits do not. -/
def shortest (magnitude : Nat) : Decimal :=
  let leading := leadingExponent magnitude
  let grids := (List.range 17).map fun (n : Nat) => leading - (n : Int)
  (firstGrid (Basin.of magnitude) grids).getD ⟨magnitude * Nat.pow 5 1074, -1074⟩

end Number
end DocStore
