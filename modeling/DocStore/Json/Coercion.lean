import DocStore.Json.Printer
import DocStore.Json.Reader
import DocStore.Number.FloatText
import DocStore.Text.Blank

/-!
# Coercions

How a value is taken as a truth value, a text or an integer, and how the raw text
of a request parameter is taken as a value.
-/

namespace DocStore
namespace Json

/-- The texts that count as true. -/
def trueWords : List String := ["1", "t", "T", "true", "TRUE", "True"]

/-- Whether a value counts as true: true itself, numbers other than zero and a few
words. -/
def truthy : Json → Bool
  | bool value => value
  | int value => value != 0
  | float value => !value.isZero
  | str text => trueWords.contains text
  | _ => false

/-- A value as text: strings without quotes, null as nothing, everything else as
JSON text. -/
def toText : Json → String
  | null => ""
  | str text => text
  | value => value.render

/-- A trimmed text as an integer of 64 bits: an integer, else a decimal without its
fraction, else zero. -/
def textToInt (text : String) : Int :=
  let chars := Text.trim text.toList
  match Text.Numeral.readInt64 chars with
  | .ok value => value
  | .error _ =>
    match Number.FloatText.read? chars with
    | some x => x.toInt64
    | none => 0

/-- A value as an integer of 64 bits: numbers lose their fraction and stay in
range, texts are read, true is one, and everything else is zero. -/
def toInt : Json → Int
  | bool true => 1
  | int value => Number.Extended.clampInt64 value
  | float value => (Number.Extended.finite value).toInt64
  | str text => textToInt text
  | _ => 0

/-- The value of a raw text: nothing is null, JSON text is its value, and any other
text is a string. -/
def ofRaw (raw : String) : Json :=
  if raw.isEmpty then null else (parse? raw).getD (str raw)

end Json
end DocStore
