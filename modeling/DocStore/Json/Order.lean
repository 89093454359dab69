import DocStore.Json.Printer

/-!
# Ordering and equality of fields

A field is a value that may be missing.  Fields are ranked

`array, object < string < number < false < true < null, missing`

and within a rank strings compare by their characters, numbers as
double-precision numbers, and arrays and objects by their JSON text.
-/

namespace DocStore
namespace Json

/-- The rank of a field: a missing one ranks with null. -/
def rank : Option Json → Nat
  | some (arr _) => 0
  | some (obj _) => 0
  | some (str _) => 1
  | some (int _) => 2
  | some (float _) => 2
  | some (bool false) => 3
  | some (bool true) => 4
  | some null => 5
  | none => 5

/-- The double-precision number nearest to a number. -/
def toBinary64? : Json → Option Binary64
  | int value => some (.ofInt value)
  | float value => some value
  | _ => none

/-- The order of two values of one rank. -/
def compareWithin (left right : Json) : Ordering :=
  match left, right with
  | str left, str right => Ord.compare left right
  | arr _, _ => Ord.compare left.render right.render
  | obj _, _ => Ord.compare left.render right.render
  | left, right =>
    match left.toBinary64?, right.toBinary64? with
    | some left, some right => left.compare right
    | _, _ => .eq

/-- The order of two fields. -/
def compare (left right : Option Json) : Ordering :=
  if rank left = rank right then
    match left, right with
    | some left, some right => compareWithin left right
    | _, _ => .eq
  else Ord.compare (rank left) (rank right)

/-- Equality of two fields: a missing one equals null, numbers are equal as
double-precision numbers, and numbers inside arrays and objects only if they are
of one kind. -/
def equal (left right : Option Json) : Bool :=
  match left, right with
  | none, none => true
  | none, some right => right.isNull
  | some left, none => left.isNull
  | some left, some right =>
    match left.toBinary64?, right.toBinary64? with
    | some left, some right => left.same right
    | _, _ => left.same right

end Json
end DocStore
