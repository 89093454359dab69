import DocStore.Json.Order

/-!
# Containment

An object contains an object whose every member it contains under the same name;
an array contains an array whose every item some item of it contains, and a value
other than an object that equals one of its items; everything else contains what
it equals.
-/

namespace DocStore
namespace Json

mutual

/-- Whether `outer` contains `inner`; the recursion follows `inner`. -/
def containedIn (inner outer : Json) : Bool :=
  match inner, outer with
  | obj wanted, obj members => membersContainedIn wanted members
  | arr wanted, arr items => itemsContainedIn wanted items
  | obj _, arr _ => false
  | inner, arr items => items.any fun item => equal (some item) (some inner)
  | inner, outer => equal (some outer) (some inner)

/-- Whether every wanted item is contained in some item. -/
def itemsContainedIn (wanted items : List Json) : Bool :=
  match wanted with
  | [] => true
  | inner :: rest => items.any (containedIn inner) && itemsContainedIn rest items

/-- Whether every wanted member is contained in the member of its name. -/
def membersContainedIn (wanted members : List (String × Json)) : Bool :=
  match wanted with
  | [] => true
  | (name, inner) :: rest =>
    (match Assoc.find? name members with
      | some outer => containedIn inner outer
      | none => false) && membersContainedIn rest members

end

/-- Whether the first value contains the second. -/
def contains (outer inner : Json) : Bool := containedIn inner outer

end Json
end DocStore
