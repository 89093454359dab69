/-!
# Decimal numerals of bounded integers

A numeral is an optional sign and at least one ASCII digit.  Digits are read from
the left, so whichever comes first, a character that is no digit or the digit
that leaves the range, names the error.
-/

namespace DocStore.Text.Numeral

/-- Why a text is no numeral of the range. -/
inductive Failure where
  | empty
  | invalidDigit
  | tooLarge
  | tooSmall
  deriving DecidableEq, Repr

/-- The wording of a failure. -/
def Failure.message : Failure → String
  | .empty => "cannot parse integer from empty string"
  | .invalidDigit => "invalid digit found in string"
  | .tooLarge => "number too large to fit in target type"
  | .tooSmall => "number too small to fit in target type"

/-- The value of an ASCII digit. -/
def digit? (c : Char) : Option Nat :=
  if '0' ≤ c ∧ c ≤ '9' then some (c.toNat - '0'.toNat) else none

/-- Reads digits on top of a number; `beyond` is the failure of leaving the limit. -/
def digits (limit : Nat) (beyond : Failure) (value : Nat) : List Char → Except Failure Nat
  | [] => .ok value
  | c :: rest =>
    match digit? c with
    | none => .error .invalidDigit
    | some d =>
      if value * 10 + d ≤ limit then digits limit beyond (value * 10 + d) rest
      else .error beyond

/-- Reads a numeral of an integer from `-low` to `high`. -/
def readInt (low high : Nat) : List Char → Except Failure Int
  | [] => .error .empty
  | [c] => (digits high .tooLarge 0 [c]).map Int.ofNat
  | '+' :: rest => (digits high .tooLarge 0 rest).map Int.ofNat
  | '-' :: rest => (digits low .tooSmall 0 rest).map fun value => -Int.ofNat value
  | chars => (digits high .tooLarge 0 chars).map Int.ofNat

/-- Reads a numeral of a natural number up to `high`, which has no minus sign. -/
def readNat (high : Nat) : List Char → Except Failure Nat
  | [] => .error .empty
  | [c] => digits high .tooLarge 0 [c]
  | '+' :: rest => digits high .tooLarge 0 rest
  | chars => digits high .tooLarge 0 chars

/-- The greatest natural number of 32 bits. -/
def max32 : Nat := 1 <<< 32 - 1

/-- The greatest natural number of 64 bits. -/
def max64 : Nat := 1 <<< 64 - 1

/-- Reads a signed integer of 64 bits. -/
def readInt64 (chars : List Char) : Except Failure Int :=
  readInt (1 <<< 63) (1 <<< 63 - 1) chars

/-- The decimal digits of a natural number. -/
def showNat (n : Nat) : List Char := Nat.toDigits 10 n

/-- The decimal numeral of an integer. -/
def showInt : Int → List Char
  | .ofNat n => showNat n
  | .negSucc n => '-' :: showNat (n + 1)

example : (readInt64 "+05".toList).toOption = some 5 := by decide +kernel
example : (readInt64 "9223372036854775808".toList).toOption = none := by decide +kernel
example : (readInt64 "-9223372036854775808".toList).toOption = some (-9223372036854775808) := by
  decide +kernel

end DocStore.Text.Numeral
