import DocStore.Number.Binary64
import DocStore.Number.FloatText
import DocStore.Number.Shortest
import DocStore.Settings.Basic

/-!
# Settings from values

Sections of settings are tables by name or lists in the order of their fields; what is
not given keeps its standard value.  JSON from a program is read strictly, while files
and variables also write numbers and truth values as words.
-/

namespace DocStore

/-- How the values of settings are read. -/
structure SettingsReader where
  /-- Reads a text. -/
  text : Json → Option String
  /-- Reads a natural number of 32 bits. -/
  count32 : Json → Option Nat
  /-- Reads a natural number of 64 bits. -/
  count64 : Json → Option Nat
  /-- Reads a truth value. -/
  truth : Json → Option Bool
  /-- Whether a list may be longer than its section. -/
  surplus : Bool

namespace SettingsReader

/-- The value of a field: by its name in a table, by its place in a list. -/
def find? (name : String) (place : Nat) : Json → Option Json
  | .obj members => Assoc.find? name members
  | .arr items => items[place]?
  | _ => none

/-- Reads a field, if it is given. -/
def field {α : Type} (value : Json) (name : String) (place : Nat) (read : Json → Option α)
    (standard : α) : Option α :=
  match find? name place value with
  | some found => read found
  | none => some standard

/-- Whether a value can be a section with so many fields. -/
def isSection (reader : SettingsReader) (size : Nat) : Json → Bool
  | .obj _ => true
  | .arr items => reader.surplus || items.length ≤ size
  | _ => false

variable (reader : SettingsReader)

/-- Reads the settings of a store. -/
def backend (value : Json) : Option BackendSettings := do
  guard (reader.isSection 4 value)
  return {
    url := ← field value "url" 0 reader.text BackendSettings.standard.url
    maxConnections := ← field value "max_connections" 1 reader.count32
      BackendSettings.standard.maxConnections
    connectTimeout := ← field value "connect_timeout_secs" 2 reader.count64
      BackendSettings.standard.connectTimeout
    queryTimeout := ← field value "query_timeout_secs" 3 reader.count64
      BackendSettings.standard.queryTimeout }

/-- Reads the settings of a cache. -/
def cache (value : Json) : Option CacheSettings := do
  guard (reader.isSection 1 value)
  return { url := ← field value "url" 0 reader.text CacheSettings.standard.url }

/-- Reads how listings are paged. -/
def paging (value : Json) : Option PagingSettings := do
  guard (reader.isSection 2 value)
  return {
    maxLimit := ← field value "max_limit" 0 reader.count64 PagingSettings.standard.maxLimit
    tokenValidity := ← field value "token_validity_secs" 1 reader.count64
      PagingSettings.standard.tokenValidity }

/-- Reads what is logged. -/
def logging (value : Json) : Option LoggingSettings := do
  guard (reader.isSection 3 value)
  return {
    level := ← field value "level" 0 reader.text LoggingSettings.standard.level
    json := ← field value "json" 1 reader.truth LoggingSettings.standard.json
    spans := ← field value "spans" 2 reader.truth LoggingSettings.standard.spans }

/-- Reads all settings. -/
def server (value : Json) : Option ServerSettings := do
  guard (reader.isSection 5 value)
  return {
    storage := ← field value "storage" 0 reader.backend BackendSettings.standard
    permission := ← field value "permission" 1 reader.backend BackendSettings.standard
    cache := ← field value "cache" 2 reader.cache CacheSettings.standard
    paging := ← field value "pagination" 3 reader.paging PagingSettings.standard
    logging := ← field value "logging" 4 reader.logging LoggingSettings.standard }

/-! ## Strict reading -/

/-- A natural number that is not too great. -/
def exactCount (greatest : Nat) : Json → Option Nat
  | .int (.ofNat n) => if n ≤ greatest then some n else none
  | _ => none

/-- A text that is a text. -/
def exactText : Json → Option String
  | .str text => some text
  | _ => none

/-- A truth value that is a truth value. -/
def exactTruth : Json → Option Bool
  | .bool value => some value
  | _ => none

/-- Reads values of exactly the right type. -/
def strict : SettingsReader where
  text := exactText
  count32 := exactCount Text.Numeral.max32
  count64 := exactCount Text.Numeral.max64
  truth := exactTruth
  surplus := false

/-! ## Loose reading -/

/-- The words of truth, besides the numeral one. -/
def yesWords : List String := ["true", "on", "yes"]

/-- The words of falsehood, besides the numeral zero. -/
def noWords : List String := ["false", "off", "no"]

/-- A word without regard to the case of its ASCII letters. -/
def lowered (text : String) : String := String.ofList (text.toList.map Char.toLower)

/-- A natural number, from a number that is rounded, a numeral or a word of truth. -/
def looseCount : Json → Option Nat
  | .int (.ofNat n) => some n
  | .str text =>
    if yesWords.contains (lowered text) then some 1
    else if noWords.contains (lowered text) then some 0
    else (Text.Numeral.readNat Text.Numeral.max64 text.toList).toOption
  | .bool value => some value.toNat
  | .float x => some (min Text.Numeral.max64 x.roundHalfAway.toNat)
  | _ => none

/-- A truth value, from a number other than zero or a word. -/
def looseTruth : Json → Option Bool
  | .bool value => some value
  | .int n => some (n != 0)
  | .float x => some !x.isZero
  | .str text =>
    if lowered text = "1" ∨ yesWords.contains (lowered text) then some true
    else if lowered text = "0" ∨ noWords.contains (lowered text) then some false
    else none
  | _ => none

/-- A decimal without a power of ten, and without a point where it is whole. -/
def decimalChars (decimal : Number.Decimal) : List Char :=
  let digits := Text.Numeral.showNat decimal.digits
  match decimal.exponent with
  | .ofNat e => digits ++ List.replicate e '0'
  | .negSucc e =>
    let padded := List.replicate (e + 2 - digits.length) '0' ++ digits
    let cut := padded.length - (e + 1)
    let fraction := ((padded.drop cut).reverse.dropWhile (· = '0')).reverse
    padded.take cut ++ (if fraction.isEmpty then [] else '.' :: fraction)

/-- A float as text: the fewest digits that read back, none of them a power of ten.  A
magnitude beyond the finite numbers is infinite. -/
def floatText (x : Binary64) : String :=
  String.ofList ((if x.negative then ['-'] else []) ++
    if x.isZero then ['0']
    else if x.magnitude < Binary64.overflow then decimalChars (Number.shortest x.magnitude)
    else "inf".toList)

/-- A text, from any scalar. -/
def looseText : Json → Option String
  | .str text => some text
  | .bool value => some (if value then "true" else "false")
  | .int n => some (String.ofList (Text.Numeral.showInt n))
  | .float x => some (floatText x)
  | _ => none

/-- Reads values of other types too.  A count of 32 bits loses what is beyond them. -/
def loose : SettingsReader where
  text := looseText
  count32 value := (looseCount value).map (· % 1 <<< 32)
  count64 := looseCount
  truth := looseTruth
  surplus := true

end SettingsReader
end DocStore
