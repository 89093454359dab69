import DocStore.Text.Hex
import DocStore.Text.Split

/-!
# Ranges of code points

Properties of characters are kept as ranges of code points.  A list of ranges is written
in hexadecimal, `first-last` or a single code point, between blanks or line ends.
-/

namespace DocStore.Unicode

/-- The code points from `first` to `last`. -/
structure CodeRange where
  /-- The first code point. -/
  first : Nat
  /-- The last code point. -/
  last : Nat
  deriving DecidableEq

/-- Whether a character lies in a range. -/
def CodeRange.contains (range : CodeRange) (c : Char) : Bool :=
  range.first ≤ c.toNat && c.toNat ≤ range.last

/-- Whether a character lies in one of some ranges. -/
def inRanges (ranges : List CodeRange) (c : Char) : Bool := ranges.any (·.contains c)

/-- The number that hexadecimal digits make. -/
def hexNumber (digits : List Char) : Nat :=
  digits.foldl (fun value c => value * 16 + (Text.hexDigit? c).getD 0) 0

/-- The character whose code point hexadecimal digits make. -/
def hexChar (digits : List Char) : Char := Char.ofNat (hexNumber digits)

/-- Reads `first-last` or a single code point. -/
def readRange (entry : List Char) : CodeRange :=
  let (first, last) := entry.span (· ≠ '-')
  ⟨hexNumber first, hexNumber (if last.isEmpty then first else last.drop 1)⟩

/-- The pieces of a text between its blanks and line ends. -/
def entries (text : String) : List (List Char) :=
  let pieces := Text.splitOn ' ' (text.toList.map fun c => if c = '\n' then ' ' else c)
  pieces.filter (!·.isEmpty)

/-- Reads a list of ranges. -/
def readRanges (text : String) : List CodeRange := (entries text).map readRange

example : readRanges "41-5A 5F" = [⟨0x41, 0x5A⟩, ⟨0x5F, 0x5F⟩] := by decide +kernel

end DocStore.Unicode
