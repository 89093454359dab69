import DocStore.Proofs.Dict
import DocStore.Proofs.Sql.Pattern
import DocStore.Sql.Documents

/-!
# What expressions mean

An expression has a value in a row, or none: `Expr.eval` says which.  Comparisons with
nothing are unknown, and `AND`, `OR` and `NOT` follow the tables of three truth values, so a
row passes a condition when the condition is true, and neither when it is false nor when it
is unknown.

Texts are ordered by their characters and integers by value.  What a server makes of JSON
values and of letters is left open (`Dialect`).
-/

namespace DocStore
namespace Sql

/-! ## Truth values -/

/-- A truth value, none where it is unknown. -/
abbrev Truth := Option Bool

namespace Truth

/-- What is true when the operand is false. -/
def not (truth : Truth) : Truth := truth.map (!·)

/-- True when both are, false when one is false. -/
def and : Truth → Truth → Truth
  | some false, _ => some false
  | _, some false => some false
  | some true, some true => some true
  | _, _ => none

/-- True when one is true, false when both are false. -/
def or : Truth → Truth → Truth
  | some true, _ => some true
  | _, some true => some true
  | some false, some false => some false
  | _, _ => none

/-- True when one of several is. -/
def any (truths : List Truth) : Truth := truths.foldr or (some false)

/-- Whether a row with the truth value passes. -/
def passes (truth : Truth) : Bool := truth.getD false

@[simp] theorem passes_some (value : Bool) : passes (some value) = value := rfl

@[simp] theorem passes_and (left right : Truth) :
    passes (and left right) = (passes left && passes right) := by
  rcases left with _ | _ | _ <;> rcases right with _ | _ | _ <;> rfl

@[simp] theorem passes_or (left right : Truth) :
    passes (or left right) = (passes left || passes right) := by
  rcases left with _ | _ | _ <;> rcases right with _ | _ | _ <;> rfl

@[simp] theorem or_some_some (left right : Bool) :
    or (some left) (some right) = some (left || right) := by
  cases left <;> cases right <;> rfl

@[simp] theorem any_cons (truth : Truth) (rest : List Truth) :
    any (truth :: rest) = or truth (any rest) := rfl

/-- As long as everything is known, one of several is true or none is. -/
theorem any_known (values : List Bool) : any (values.map some) = some (values.any id) := by
  induction values with
  | nil => rfl
  | cons value rest ih => simp [ih]

/-- Where nothing is known, no one of several is known to be true. -/
theorem any_unknown {truths : List Truth} (nonempty : truths ≠ [])
    (unknown : ∀ truth ∈ truths, truth = none) : any truths = none := by
  induction truths with
  | nil => exact absurd rfl nonempty
  | cons truth rest ih =>
    have first : truth = none := unknown truth List.mem_cons_self
    rw [any_cons, first]
    cases rest with
    | nil => rfl
    | cons next others =>
      rw [ih (by simp) fun later member => unknown later (List.mem_cons_of_mem _ member)]
      rfl

end Truth

/-! ## Comparisons -/

/-- What depends on the server: JSON values and the case of letters. -/
structure Dialect where
  /-- The value at the end of a path of names into JSON data. -/
  follow : Json → List String → Option Json
  /-- Equality of JSON values. -/
  equal : Json → Json → Bool
  /-- The order of JSON values. -/
  order : Json → Json → Ordering
  /-- Whether the first JSON value contains the second. -/
  contains : Json → Json → Bool
  /-- The letter that stands for a letter of either case. -/
  fold : Char → Char

/-- The member of an object. -/
def member? (name : String) : Json → Option Json
  | .obj members => Assoc.find? name members
  | _ => none

/-- A server that follows names through objects and compares JSON values as filters do. -/
def Dialect.plain : Dialect where
  follow data names := names.foldlM (fun value name => member? name value) data
  equal left right := Json.equal (some left) (some right)
  order left right := Json.compare (some left) (some right)
  contains := Json.contains
  fold := Char.toLower

/-- The value of an expression, none for a null. -/
abbrev Datum := Option Value

/-- A comparison of two values of one type, from whether they are equal and how they are
ordered. -/
def Comparison.test (equal : Bool) (order : Ordering) : Comparison → Truth
  | .equal => some equal
  | .notEqual => some !equal
  | .less => some (order = .lt)
  | .greater => some (order = .gt)
  | .atMost => some (order ≠ .gt)
  | .atLeast => some (order ≠ .lt)
  | _ => none

namespace Dialect

variable (dialect : Dialect)

/-- A text without the case of its letters. -/
def folded (text : String) : String := String.ofList (text.toList.map dialect.fold)

/-- Compares two texts. -/
def compareTexts (left right : String) : Comparison → Truth
  | .like => some (isLike right left)
  | .notLike => some !(isLike right left)
  | .ilike => some (isLike (dialect.folded right) (dialect.folded left))
  | comparison => comparison.test (left == right) (Ord.compare left right)

/-- Compares two JSON values. -/
def compareJson (left right : Json) : Comparison → Truth
  | .contains => some (dialect.contains left right)
  | comparison => comparison.test (dialect.equal left right) (dialect.order left right)

/-- Compares two values; those of different types do not compare. -/
def compareValues (comparison : Comparison) : Value → Value → Truth
  | .text left, .text right => dialect.compareTexts left right comparison
  | .int8 left, .int8 right => comparison.test (left == right) (Ord.compare left right)
  | .jsonb left, .jsonb right => dialect.compareJson left right comparison
  | .jsonbArray left, .jsonbArray right =>
    if comparison = .overlaps then some (left.any fun item => right.any (dialect.equal item))
    else none
  | _, _ => none

/-- Compares two data: with a null, the outcome is unknown. -/
def compareData (comparison : Comparison) : Datum → Datum → Truth
  | some left, some right => dialect.compareValues comparison left right
  | _, _ => none

/-- Whether a datum is one of several values. -/
def isOneOf (datum : Datum) (values : List Value) : Truth :=
  Truth.any (values.map fun value => dialect.compareData .equal datum (some value))

end Dialect

theorem compareData_text (dialect : Dialect) (left right : String) :
    dialect.compareData .equal (some (.text left)) (some (.text right)) =
      some (left == right) := rfl

theorem passes_like (dialect : Dialect) (text pattern : String) :
    (dialect.compareData .like (some (.text text)) (some (.text pattern))).passes =
      isLike pattern text := rfl

/-! ## Values of expressions -/

/-- The cells of a row by column.  A null is no cell. -/
abbrev Record := Dict Value

/-- Where an expression is evaluated. -/
structure Scope where
  /-- What the server makes of JSON values and of letters. -/
  dialect : Dialect
  /-- The row. -/
  row : Record
  /-- The row that could not be inserted. -/
  excluded : Record := Dict.empty
  /-- How many rows are selected. -/
  selected : Nat := 0
  /-- How many rows a table has. -/
  size : String → Nat := fun _ => 0

/-- The names along a path into the column of the data. -/
def Expr.names? : Expr → Option (List String)
  | .column name => if name = "data" then some [] else none
  | .member object name => object.names?.map (· ++ [name])
  | _ => none

/-- A datum as a truth value. -/
def Datum.truth : Datum → Truth
  | some (.bool value) => some value
  | _ => none

/-- The greater of two integers; a null does not count. -/
def Datum.greatest : Datum → Datum → Datum
  | some (.int8 left), some (.int8 right) => some (.int8 (max left right))
  | some left, none => some left
  | none, right => right
  | _, _ => none

/-- The sum of two integers. -/
def Datum.plus : Datum → Datum → Datum
  | some (.int8 left), some (.int8 right) => some (.int8 (left + right))
  | _, _ => none

/-- The value at the end of a path of names in the data of a row. -/
def Scope.data? (scope : Scope) (names : List String) : Option Json :=
  match scope.row.find? "data" with
  | some (.jsonb data) => scope.dialect.follow data names
  | _ => none

/-- A JSON value as text, none for null. -/
def jsonText? : Json → Option String
  | .null => none
  | value => some value.toText

/-- The name of a JSON value's type. -/
def jsonTypeName : Json → String
  | .null => "null"
  | .bool _ => "boolean"
  | .int _ => "number"
  | .float _ => "number"
  | .str _ => "string"
  | .arr _ => "array"
  | .obj _ => "object"

/-- The items of a JSON array, if there are any. -/
def jsonItems? : Json → Option (List Json)
  | .arr (first :: rest) => some (first :: rest)
  | _ => none

/-- The value of an expression. -/
def Expr.eval (scope : Scope) : Expr → Datum
  | column name => scope.row.find? name
  | columnOf table name =>
    if table = "EXCLUDED" then scope.excluded.find? name else scope.row.find? name
  | bound value => some value
  | truth value => some (.bool value)
  | number value => some (.int8 value)
  | word text => some (.text text)
  | jsonNull => some (.jsonb .null)
  | member object name =>
    ((object.member name).names?.bind scope.data?).map .jsonb
  | memberText object name =>
    (((object.member name).names?.bind scope.data?).bind jsonText?).map .text
  | nullIf value other =>
    if (scope.dialect.compareData .equal (value.eval scope) (other.eval scope)).passes then none
    else value.eval scope
  | greatest left right => Datum.greatest (left.eval scope) (right.eval scope)
  | plus left right => Datum.plus (left.eval scope) (right.eval scope)
  | jsonType value =>
    match value.eval scope with
    | some (.jsonb json) => some (.text (jsonTypeName json))
    | _ => none
  | jsonItems value =>
    match value.eval scope with
    | some (.jsonb json) => (jsonItems? json).map .jsonbArray
    | _ => none
  | compare comparison left right =>
    (scope.dialect.compareData comparison (left.eval scope) (right.eval scope)).map .bool
  | oneOf negated value values =>
    let found := scope.dialect.isOneOf (value.eval scope) values
    (if negated then found.not else found).map .bool
  | anyOf comparison value array =>
    match array with
    | .textArray texts =>
      (Truth.any (texts.map fun text =>
        scope.dialect.compareData comparison (value.eval scope) (some (.text text)))).map .bool
    | _ => none
  | isNull value => some (.bool (value.eval scope).isNone)
  | isNotNull value => some (.bool (value.eval scope).isSome)
  | not operand => (operand.eval scope).truth.not.map .bool
  | and left right => ((left.eval scope).truth.and (right.eval scope).truth).map .bool
  | or left right => ((left.eval scope).truth.or (right.eval scope).truth).map .bool
  | paren content => content.eval scope
  | group content => content.eval scope
  | rowCount => some (.int8 scope.selected)
  | countOf table => some (.int8 (scope.size table))

@[simp] theorem Datum.truth_map_bool (truth : Truth) :
    Datum.truth (truth.map Value.bool) = truth := by
  cases truth <;> rfl

namespace Expr

variable (scope : Scope)

/-- Whether a row passes a condition. -/
def passes (condition : Expr) : Bool := (condition.eval scope).truth.passes

@[simp] theorem passes_truth (value : Bool) : (truth value).passes scope = value := rfl

@[simp] theorem passes_isNull (value : Expr) :
    (isNull value).passes scope = (value.eval scope).isNone := rfl

@[simp] theorem passes_isNotNull (value : Expr) :
    (isNotNull value).passes scope = (value.eval scope).isSome := rfl

@[simp] theorem passes_paren (content : Expr) :
    (paren content).passes scope = content.passes scope := rfl

@[simp] theorem passes_group (content : Expr) :
    (group content).passes scope = content.passes scope := rfl

@[simp] theorem passes_and (left right : Expr) :
    (and left right).passes scope = (left.passes scope && right.passes scope) := by
  simp [passes, eval]

@[simp] theorem passes_or (left right : Expr) :
    (or left right).passes scope = (left.passes scope || right.passes scope) := by
  simp [passes, eval]

@[simp] theorem passes_compare (comparison : Comparison) (left right : Expr) :
    (compare comparison left right).passes scope =
      (scope.dialect.compareData comparison (left.eval scope) (right.eval scope)).passes := by
  simp [passes, eval]

theorem passes_oneOf (negated : Bool) (value : Expr) (values : List Value) :
    (oneOf negated value values).passes scope =
      (if negated then (scope.dialect.isOneOf (value.eval scope) values).not
        else scope.dialect.isOneOf (value.eval scope) values).passes := by
  simp [passes, eval]

/-- A row passes a conjunction when it passes every part. -/
theorem passes_all (first : Expr) (rest : List Expr) :
    (all first rest).passes scope = (first :: rest).all (passes scope) := by
  induction rest generalizing first with
  | nil => simp [all]
  | cons next others ih => simp [all, ih]

/-- A row passes a disjunction when it passes one part. -/
theorem passes_any (first : Expr) (rest : List Expr) :
    (any first rest).passes scope = (first :: rest).any (passes scope) := by
  induction rest generalizing first with
  | nil => simp [any]
  | cons next others ih => simp [any, ih]

end Expr

/-! ## Rows of documents -/

/-- The cells of a document in a collection, by column. -/
def documentCells (collection : String) (document : Document) : Assoc Value :=
  [("path", .text collection), ("id", .text document.id), ("data", .jsonb (.obj document.fields)),
    ("last_modified", .int8 document.modified.millis), ("deleted", .bool document.deleted)]

/-- The row of a document in a collection. -/
def documentRecord (collection : String) (document : Document) : Record :=
  Dict.ofList (documentCells collection document)

/-- The columns differ, so a cell is found under its column. -/
theorem find?_documentRecord (collection : String) (document : Document) (column : String) :
    (documentRecord collection document).find? column =
      Assoc.find? column (documentCells collection document).reverse :=
  Assoc.find?_ofList _ column

section

variable (collection : String) (document : Document)

@[simp] theorem documentRecord_path :
    (documentRecord collection document).find? "path" = some (.text collection) := by
  simp [find?_documentRecord, documentCells, Assoc.find?]

@[simp] theorem documentRecord_id :
    (documentRecord collection document).find? "id" = some (.text document.id) := by
  simp [find?_documentRecord, documentCells, Assoc.find?]

@[simp] theorem documentRecord_data :
    (documentRecord collection document).find? "data" =
      some (.jsonb (.obj document.fields)) := by
  simp [find?_documentRecord, documentCells, Assoc.find?]

@[simp] theorem documentRecord_modified :
    (documentRecord collection document).find? "last_modified" =
      some (.int8 document.modified.millis) := by
  simp [find?_documentRecord, documentCells, Assoc.find?]

@[simp] theorem documentRecord_deleted :
    (documentRecord collection document).find? "deleted" = some (.bool document.deleted) := by
  simp [find?_documentRecord, documentCells, Assoc.find?]

end

end Sql
end DocStore
