import DocStore.Document
import DocStore.Filter.Wildcard
import DocStore.Json.Containment

/-!
# Filters

A filter compares one field with values.  Filters of a condition hold together;
of the conditions of a list at least one must hold.
-/

namespace DocStore

/-- How a filter compares. -/
inductive Operator where
  | lessThan
  | atLeast
  | atMost
  | notEqual
  | equal
  | greaterThan
  | oneOf
  | noneOf
  | like
  | present
  | containsAny
  | contains
  deriving DecidableEq, Repr

namespace Operator

/-- The beginnings of parameter names that select operators, in the order in which
they are tried: of two that fit, the longer comes first. -/
def markers : List (String × Operator) :=
  [("has_", present), ("min_", atLeast), ("max_", atMost), ("lt_", lessThan),
    ("gt_", greaterThan), ("eq_", equal), ("not_", notEqual), ("in_", oneOf), ("like_", like),
    ("exclude_", noneOf), ("contains_any_", containsAny), ("contains_", contains)]

/-- The beginning of parameter names that selects the operator. -/
def marker (operator : Operator) : String :=
  match markers.find? (·.2 = operator) with
  | some (text, _) => text
  | none => "eq_"

/-- Whether the operator takes a list of values separated by commas. -/
def takesList : Operator → Bool
  | oneOf => true
  | noneOf => true
  | containsAny => true
  | _ => false

/-- Splits the name of a parameter into its operator and the name of a field; a name
without a marker asks for equality. -/
def ofParameter (name : String) : Operator × String :=
  let selected := markers.findSome? fun entry =>
    (Text.afterStart? entry.1.toList name.toList).map fun field =>
      (entry.2, String.ofList field)
  selected.getD (equal, name)

end Operator

/-- A comparison of one field with values. -/
structure Filter where
  /-- The name of the field. -/
  field : String
  /-- How the field is compared. -/
  operator : Operator
  /-- What it is compared with. -/
  values : List Json

/-- Filters that hold together. -/
abbrev Condition := List Filter

namespace Filter

/-- The pieces of a text between commas, without an empty piece at the end. -/
def listItems (raw : String) : List String :=
  let pieces := Text.splitText ',' raw
  if pieces.getLast? = some "" then pieces.dropLast else pieces

/-- Reads a filter from the name and the raw value of a parameter. -/
def ofParameter (name raw : String) : Filter :=
  let (operator, field) := Operator.ofParameter name
  { field, operator
    values :=
      if operator.takesList then (listItems raw).map Json.ofRaw else [Json.ofRaw raw] }

/-- Whether the filter has a field name and a value. -/
def isValid (filter : Filter) : Bool := !filter.field.isEmpty && !filter.values.isEmpty

/-- The first value, null where there is none. -/
def value (filter : Filter) : Json := filter.values.headD .null

/-- Whether a field is kept beside the document's fields. -/
def isColumn (field : String) : Bool :=
  field == Document.idField || field == Document.modifiedField

/-- Whether a field is like the text of a value.  Epochs are like nothing, and so is
a field that is missing or null. -/
def matchesLike (filter : Filter) (actual : Option Json) : Bool :=
  if filter.field = Document.modifiedField then false
  else
    match actual with
    | none => false
    | some .null => false
    | some found => Wildcard.isLike filter.value.toText found.toText

/-- Whether the items of an array hold one of the values. -/
def matchesContainsAny (filter : Filter) (actual : Option Json) : Bool :=
  match actual with
  | some (.arr items) =>
    !isColumn filter.field &&
      items.any fun item => filter.values.any fun value => Json.equal (some item) (some value)
  | _ => false

/-- Whether a field with the given value passes the filter. -/
def accepts (filter : Filter) (actual : Option Json) : Bool :=
  let order := Json.compare actual (some filter.value)
  match filter.operator with
  | .greaterThan => order = .gt
  | .atLeast => order ≠ .lt
  | .lessThan => order = .lt
  | .atMost => order ≠ .gt
  | .equal => Json.equal actual (some filter.value)
  | .notEqual => !Json.equal actual (some filter.value)
  | .oneOf => filter.values.any fun value => Json.equal actual (some value)
  | .noneOf => !filter.values.any fun value => Json.equal actual (some value)
  | .present => filter.value.truthy == actual.isSome
  | .like => filter.matchesLike actual
  | .contains =>
    !isColumn filter.field && actual.any fun outer => Json.contains outer filter.value
  | .containsAny => filter.matchesContainsAny actual

/-- Whether a document passes the filter. -/
def admits (filter : Filter) (document : Document) : Bool :=
  filter.accepts (document.get? filter.field)

end Filter

namespace Condition

/-- Whether a document passes every filter. -/
def holds (condition : Condition) (document : Document) : Bool :=
  condition.all (·.admits document)

/-- The conditions that have a filter. -/
def compact (alternatives : List Condition) : List Condition :=
  alternatives.filter (!·.isEmpty)

/-- Whether a document passes one of the conditions that have a filter, or there is
no such condition. -/
def anyHolds (alternatives : List Condition) (document : Document) : Bool :=
  (compact alternatives).isEmpty || (compact alternatives).any (·.holds document)

end Condition
end DocStore
