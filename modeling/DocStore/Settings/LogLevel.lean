import DocStore.Text.Numeral

/-!
# Log levels

A level is given by its name in any case, or by its number.
-/

namespace DocStore

/-- How much is logged. -/
inductive LogLevel where
  | error
  | warn
  | info
  | debug
  | trace
  deriving DecidableEq, Repr

namespace LogLevel

/-- Every level, the one of number one first. -/
def every : List LogLevel := [error, warn, info, debug, trace]

/-- The name of a level. -/
def name : LogLevel → String
  | error => "ERROR"
  | warn => "WARN"
  | info => "INFO"
  | debug => "DEBUG"
  | trace => "TRACE"

/-- The level of a name.  The names are ASCII, and so is the case that is ignored. -/
def ofName? (text : String) : Option LogLevel :=
  every.find? fun level => level.name.toList = text.toList.map Char.toUpper

/-- The level of a number. -/
def ofNumber? (number : Nat) : Option LogLevel :=
  if number = 0 then none else every[number - 1]?

/-- Reads a level. -/
def ofText? (text : String) : Option LogLevel :=
  match Text.Numeral.readNat Text.Numeral.max64 text.toList with
  | .ok number => ofNumber? number
  | .error _ => ofName? text

end LogLevel
end DocStore
