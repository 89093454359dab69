import DocStore.Assoc
import DocStore.Number.Binary64

/-!
# JSON values

Integers and double-precision numbers are different values even where they
denote the same number.  The members of an object are kept in increasing order of
their names; `Json.Ordered` says so for a value and everything inside it.
-/

namespace DocStore

/-- A JSON value. -/
inductive Json where
  | null
  | bool (value : Bool)
  | int (value : Int)
  | float (value : Binary64)
  | str (text : String)
  | arr (items : List Json)
  | obj (members : List (String × Json))

/-- The members of an object: values under names. -/
abbrev Members := Assoc Json

namespace Json

instance : Inhabited Json := ⟨.null⟩

/-- Whether the value is null. -/
def isNull : Json → Bool
  | null => true
  | _ => false

/-! ## Equality

Integers are equal by value and floats by value, so the two zeros are equal; an
integer and a float never are. -/

mutual

/-- Equality of two values. -/
def same : Json → Json → Bool
  | null, null => true
  | bool left, bool right => left == right
  | int left, int right => left == right
  | float left, float right => left.same right
  | str left, str right => left == right
  | arr left, arr right => sameItems left right
  | obj left, obj right => sameMembers left right
  | _, _ => false

/-- Equality of the items of two arrays, one by one. -/
def sameItems : List Json → List Json → Bool
  | [], [] => true
  | left :: lefts, right :: rights => same left right && sameItems lefts rights
  | _, _ => false

/-- Equality of the members of two objects, one by one. -/
def sameMembers : List (String × Json) → List (String × Json) → Bool
  | [], [] => true
  | (name, left) :: lefts, (other, right) :: rights =>
    name == other && same left right && sameMembers lefts rights
  | _, _ => false

end

/-! ## The order of members -/

mutual

/-- The members of every object inside the value are in order. -/
def Ordered : Json → Prop
  | arr items => OrderedItems items
  | obj members => Assoc.Sorted members ∧ OrderedMembers members
  | _ => True

/-- Every item is ordered. -/
def OrderedItems : List Json → Prop
  | [] => True
  | item :: rest => Ordered item ∧ OrderedItems rest

/-- Every member's value is ordered. -/
def OrderedMembers : List (String × Json) → Prop
  | [] => True
  | (_, value) :: rest => Ordered value ∧ OrderedMembers rest

end

/-! ## Nesting -/

mutual

/-- How many arrays and objects lie one inside the other at most. -/
def depth : Json → Nat
  | arr items => depthItems items + 1
  | obj members => depthMembers members + 1
  | _ => 0

/-- The greatest depth of the items. -/
def depthItems : List Json → Nat
  | [] => 0
  | item :: rest => max (depth item) (depthItems rest)

/-- The greatest depth of the members' values. -/
def depthMembers : List (String × Json) → Nat
  | [] => 0
  | (_, value) :: rest => max (depth value) (depthMembers rest)

end

end Json
end DocStore
