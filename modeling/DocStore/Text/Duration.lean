import DocStore.Text.Numeral

/-!
# Spans of time as text

A span is written in the greatest unit that it reaches, with a fraction of as few
digits as needed: `30s`, `1.5s`, `10ms`, `0ns`.
-/

namespace DocStore.Text.Duration

/-- The digits of thousandths without zeros at the end, behind a point. -/
def fraction (thousandths : Nat) : List Char :=
  let digits := Numeral.showNat thousandths
  let padded := List.replicate (3 - digits.length) '0' ++ digits
  let short := (padded.reverse.dropWhile (· = '0')).reverse
  if short.isEmpty then [] else '.' :: short

/-- Writes a number of milliseconds. -/
def showMillis (millis : Nat) : String :=
  String.ofList <|
    if millis ≥ 1000 then Numeral.showNat (millis / 1000) ++ fraction (millis % 1000) ++ ['s']
    else if millis > 0 then Numeral.showNat millis ++ ['m', 's']
    else ['0', 'n', 's']

example : showMillis 1500 = "1.5s" := by decide +kernel
example : showMillis 60001 = "60.001s" := by decide +kernel

end DocStore.Text.Duration
