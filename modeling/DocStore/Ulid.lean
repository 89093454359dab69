/-!
# Sortable identifiers

An identifier is 26 letters: ten for the time, and sixteen for chance.  The letters are
in the order of their values, so identifiers sort by time.
-/

namespace DocStore
namespace Ulid

/-- The letters of the values from zero to thirty-one. -/
def alphabet : List Char := "0123456789abcdefghjkmnpqrstvwxyz".toList

/-- The letter of a value. -/
def letter (value : Nat) : Char := alphabet.getD (value % 32) '0'

/-- A number in the given count of letters; what does not fit is lost. -/
def letters : Nat → Nat → List Char
  | 0, _ => []
  | count + 1, value => letters count (value / 32) ++ [letter value]

/-- The milliseconds of an identifier: 48 bits, and none before 1970. -/
def stamp (millis : Int) : Nat := millis.toNat % 1 <<< 48

/-- The identifier of a time and a chance of 80 bits. -/
def ofParts (millis : Int) (chance : Nat) : String :=
  String.ofList (letters 10 (stamp millis) ++ letters 16 chance)

end Ulid
end DocStore
