import DocStore.Json.Basic
import DocStore.Number.Shortest
import DocStore.Text.Hex

/-!
# JSON text

Values are written without blanks, members in the order they are kept in.  Text
escapes the quote, the backslash and the controls; everything else stays raw.
A float has the fewest digits that read back.
-/

namespace DocStore
namespace Json

/-! ## Floats -/

/-- How floats are laid out. -/
structure FloatLayout where
  /-- The least decimal exponent written positionally. -/
  leastPositional : Int
  /-- The greatest decimal exponent written positionally. -/
  greatestPositional : Int

/-- Floats from `0.00001` to below `1e16` are written positionally. -/
def floatLayout : FloatLayout := ⟨-5, 15⟩

/-- The digits of a decimal without zeros at the end, and the power of ten of the
first one. -/
def significand (decimal : Number.Decimal) : List Char × Int :=
  let digits := Text.Numeral.showNat decimal.digits
  ((digits.reverse.dropWhile (· = '0')).reverse, decimal.exponent + digits.length - 1)

/-- Writes a decimal with a point before its end and at least one digit on both
sides. -/
def positional (digits : List Char) (exponent : Int) : List Char :=
  match exponent with
  | .ofNat e =>
    let whole := digits.take (e + 1) ++ List.replicate (e + 1 - digits.length) '0'
    let fraction := digits.drop (e + 1)
    whole ++ '.' :: (if fraction.isEmpty then ['0'] else fraction)
  | .negSucc e => ['0', '.'] ++ List.replicate e '0' ++ digits

/-- Writes a decimal with one digit before the point and a power of ten; a sign
stands on positive powers. -/
def scientific (digits : List Char) (exponent : Int) : List Char :=
  let fraction := digits.drop 1
  digits.take 1 ++ (if fraction.isEmpty then [] else '.' :: fraction) ++
    'e' :: (if exponent < 0 then [] else ['+']) ++ Text.Numeral.showInt exponent

/-- Writes a float. -/
def floatChars (x : Binary64) : List Char :=
  let sign := if x.negative then ['-'] else []
  if x.isZero then sign ++ ['0', '.', '0']
  else
    let (digits, exponent) := significand (Number.shortest x.magnitude)
    let positionally :=
      floatLayout.leastPositional ≤ exponent ∧ exponent ≤ floatLayout.greatestPositional
    sign ++ (if positionally then positional digits exponent else scientific digits exponent)

/-! ## Text -/

/-- How a character is written inside a string. -/
def escapeChar (c : Char) : List Char :=
  if c = '"' then ['\\', '"']
  else if c = '\\' then ['\\', '\\']
  else if c = '\x08' then ['\\', 'b']
  else if c = '\x0c' then ['\\', 'f']
  else if c = '\n' then ['\\', 'n']
  else if c = '\r' then ['\\', 'r']
  else if c = '\t' then ['\\', 't']
  else if c.toNat < 0x20 then
    ['\\', 'u', '0', '0', Text.lowerHexDigit (c.toNat / 16), Text.lowerHexDigit (c.toNat % 16)]
  else [c]

/-- Writes a string. -/
def stringChars (text : String) : List Char :=
  '"' :: (text.toList.flatMap escapeChar ++ ['"'])

/-! ## Values -/

mutual

/-- Writes a value. -/
def chars : Json → List Char
  | null => ['n', 'u', 'l', 'l']
  | bool true => ['t', 'r', 'u', 'e']
  | bool false => ['f', 'a', 'l', 's', 'e']
  | int value => Text.Numeral.showInt value
  | float value => floatChars value
  | str text => stringChars text
  | arr [] => ['[', ']']
  | arr (item :: rest) => '[' :: (chars item ++ itemChars rest)
  | obj [] => ['\x7b', '\x7d']
  | obj ((name, value) :: rest) =>
    '\x7b' :: (stringChars name ++ ':' :: (chars value ++ memberChars rest))

/-- Writes the items after the first, and the closing bracket. -/
def itemChars : List Json → List Char
  | [] => [']']
  | item :: rest => ',' :: (chars item ++ itemChars rest)

/-- Writes the members after the first, and the closing brace. -/
def memberChars : List (String × Json) → List Char
  | [] => ['\x7d']
  | (name, value) :: rest =>
    ',' :: (stringChars name ++ ':' :: (chars value ++ memberChars rest))

end

/-- The text of a value. -/
def render (value : Json) : String := String.ofList (chars value)

example : floatChars ⟨false, 66 <<< 1074⟩ = "66.0".toList := by decide +kernel
example : floatChars ⟨true, 1 <<< 1073⟩ = "-0.5".toList := by decide +kernel
example : floatChars ⟨false, 1⟩ = "5e-324".toList := by decide +kernel
example : floatChars ⟨false, Nat.pow 10 16 <<< 1074⟩ = "1e+16".toList := by decide +kernel

end Json
end DocStore
