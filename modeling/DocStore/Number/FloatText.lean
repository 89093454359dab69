import DocStore.Number.Binary64
import DocStore.Text.Numeral

/-!
# Decimal text of double-precision numbers

An optional sign, then a word for infinity or not-a-number in any case, or digits
with an optional point somewhere among them and an optional power of ten.  The
number is the nearest one to the exact decimal value.
-/

namespace DocStore
namespace Number

/-- A double-precision number, the infinite ones and not-a-number included. -/
inductive Extended where
  | finite (x : Binary64)
  | infinite (negative : Bool)
  | notANumber

namespace Extended

/-- The greatest integer of 64 bits. -/
def greatestInt64 : Int := 0x7fffffffffffffff

/-- The least integer of 64 bits. -/
def leastInt64 : Int := -0x8000000000000000

/-- The nearest integer of 64 bits. -/
def clampInt64 (n : Int) : Int := max leastInt64 (min greatestInt64 n)

/-- The value without its fraction as an integer of 64 bits: values beyond the
range go to its ends, and not-a-number to zero. -/
def toInt64 : Extended → Int
  | finite x => clampInt64 x.truncate
  | infinite true => leastInt64
  | infinite false => greatestInt64
  | notANumber => 0

/-- The opposite number. -/
def neg : Extended → Extended
  | finite x => finite x.neg
  | infinite negative => infinite !negative
  | notANumber => notANumber

end Extended

namespace FloatText

/-- The number nearest to `digits * 10 ^ exponent`.  Powers of ten far beyond the
finite numbers are not computed. -/
def nearest (digits : Nat) (exponent : Int) : Extended :=
  let leading := exponent + (Text.Numeral.showNat digits).length
  if digits = 0 ∨ leading < -400 then .finite Binary64.zero
  else if leading > 400 then .infinite false
  else
    match Binary64.ofDecimal? digits exponent with
    | some x => .finite x
    | none => .infinite false

/-- The digits at the start of a text, and what follows. -/
def spanDigits (chars : List Char) : List Char × List Char :=
  chars.span fun c => (Text.Numeral.digit? c).isSome

/-- The number that digits make. -/
def ofDigits (digits : List Char) : Nat :=
  digits.foldl (fun value c => value * 10 + (Text.Numeral.digit? c).getD 0) 0

/-- The power of ten after the digits; nothing else may follow it. -/
def exponent? : List Char → Option Int
  | [] => some 0
  | mark :: rest =>
    if mark = 'e' ∨ mark = 'E' then
      let (lower, digits) := match rest with
        | '+' :: digits => (false, digits)
        | '-' :: digits => (true, digits)
        | digits => (false, digits)
      match spanDigits digits with
      | ([], _) => none
      | (digits, []) => some (if lower then -(ofDigits digits : Int) else ofDigits digits)
      | _ => none
    else none

/-- Reads digits with an optional point and power of ten. -/
def decimal? (chars : List Char) : Option Extended :=
  let (whole, rest) := spanDigits chars
  let (fraction, rest) := match rest with
    | '.' :: rest => spanDigits rest
    | rest => ([], rest)
  if whole.isEmpty ∧ fraction.isEmpty then none
  else (exponent? rest).map fun exponent =>
    nearest (ofDigits (whole ++ fraction)) (exponent - fraction.length)

/-- Reads a text without its sign. -/
def unsigned? (chars : List Char) : Option Extended :=
  let word := String.ofList (chars.map Char.toLower)
  if word = "inf" ∨ word = "infinity" then some (.infinite false)
  else if word = "nan" then some .notANumber
  else decimal? chars

/-- Reads a text. -/
def read? : List Char → Option Extended
  | '-' :: rest => (unsigned? rest).map Extended.neg
  | '+' :: rest => unsigned? rest
  | chars => unsigned? chars

end FloatText
end Number
end DocStore
