import DocStore.Json.Basic
import DocStore.Text.Numeral

/-!
# Reading JSON numbers

A numeral without fraction and exponent that fits 64 bits is an integer.  Every
other numeral is a float: its digits count as long as they fit 64 bits, the number
they make is rounded, and a rounded power of ten scales it.  A float beyond the
finite numbers is refused.
-/

namespace DocStore
namespace Json

/-- The parts of a numeral, digits as numbers. -/
structure Numeral where
  /-- Whether it starts with a minus sign. -/
  negative : Bool
  /-- The digits before the point. -/
  whole : List Nat
  /-- The digits after the point, if there is one. -/
  fraction : Option (List Nat)
  /-- Whether the power of ten is negative, and its digits. -/
  exponent : Option (Bool × List Nat)

namespace Numeral

/-- Appends digits to a number while it fits 64 bits, and tells how many digits
did not fit. -/
def gather (value : Nat) : List Nat → Nat × Nat
  | [] => (value, 0)
  | digit :: rest =>
    if value * 10 + digit ≤ Text.Numeral.max64 then gather (value * 10 + digit) rest
    else (value, rest.length + 1)

/-- The rounded power of ten, up to the greatest finite one. -/
def powerOfTen (exponent : Nat) : Binary64 :=
  Binary64.ofInt (Nat.pow 10 exponent)

/-- The greatest power of ten that is finite. -/
def greatestPower : Nat := 308

/-- Divides by a power of ten, in steps of the greatest finite one. -/
def divideByPower (x : Binary64) (exponent : Nat) : Option Binary64 :=
  if exponent ≤ greatestPower then x.div? (powerOfTen exponent)
  else if x.isZero then some x
  else do
    let lower ← x.div? (powerOfTen greatestPower)
    divideByPower lower (exponent - greatestPower)
termination_by exponent
decreasing_by simp only [greatestPower] at *; omega

/-- Scales by a power of ten. -/
def scale? (x : Binary64) : Int → Option Binary64
  | .ofNat exponent =>
    if exponent ≤ greatestPower then x.mul? (powerOfTen exponent)
    else if x.isZero then some x
    else none
  | .negSucc exponent => divideByPower x (exponent + 1)

/-- The digits that count, as a number, and the power of ten of the last one. -/
def significand (numeral : Numeral) : Nat × Int :=
  let fraction := numeral.fraction.getD []
  let (whole, left) := gather 0 numeral.whole
  let (value, unread) := gather whole fraction
  (value, (left : Int) - ((fraction.length - unread : Nat) : Int))

/-- The number that decimal digits make. -/
def ofDigits (digits : List Nat) : Nat :=
  digits.foldl (fun value digit => value * 10 + digit) 0

/-- The greatest exponent that is read as a number. -/
def greatestExponent : Nat := 1 <<< 31 - 1

/-- The numeral as a positive float. -/
def magnitude? (numeral : Numeral) : Option Binary64 := do
  let (value, shift) := significand numeral
  let start ← Binary64.ofNat? value
  match numeral.exponent with
  | none => scale? start shift
  | some (lower, digits) =>
    let power := ofDigits digits
    if power > greatestExponent then
      if value ≠ 0 ∧ !lower then none else some Binary64.zero
    else scale? start (if lower then shift - power else shift + power)

/-- The numeral as a float. -/
def float? (numeral : Numeral) : Option Json :=
  numeral.magnitude?.map fun x => .float (if numeral.negative then x.neg else x)

/-- The value of a numeral. -/
def value? (numeral : Numeral) : Option Json :=
  match numeral.fraction, numeral.exponent, gather 0 numeral.whole with
  | none, none, (value, 0) =>
    if numeral.negative then
      if value = 0 ∨ value > 1 <<< 63 then numeral.float? else some (.int (-(value : Int)))
    else some (.int value)
  | _, _, _ => numeral.float?

end Numeral
end Json
end DocStore
