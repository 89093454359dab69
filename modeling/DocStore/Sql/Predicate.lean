import DocStore.Filter
import DocStore.Sql.Expr

/-!
# Filters as SQL

The identifier and the epoch are columns; every other field is a path of members
inside the column `data`.  A JSON null ranks with a missing field, which ranks above
every value, so comparisons say what becomes of rows without the field.
-/

namespace DocStore
namespace Sql

/-! ## Patterns -/

/-- A character of a pattern that stands for itself. -/
def escapePattern (chars : List Char) : List Char :=
  chars.flatMap fun c => if c = '\\' ∨ c = '%' ∨ c = '_' then ['\\', c] else [c]

/-- The pattern of a text with stars: stars are runs of characters, and a text without
one may occur anywhere. -/
def likePattern (text : String) : String :=
  let escaped := escapePattern text.toList
  String.ofList <|
    if escaped.contains '*' then escaped.map fun c => if c = '*' then '%' else c
    else '%' :: escaped ++ ['%']

/-- A text that starts a pattern and stands for itself. -/
def likeStart (text : String) : String := String.ofList (escapePattern text.toList)

/-! ## Fields -/

/-- The column that documents are kept in. -/
def dataColumn : Expr := .column "data"

/-- Follows names into an object; the last step is given. -/
def followPath (last : Expr → String → Expr) (object : Expr) : List String → Expr
  | [] => object
  | [name] => last object name
  | name :: rest => followPath last (.member object name) rest

/-- A field as JSON. -/
def jsonField (field : String) : Expr :=
  followPath Expr.member dataColumn (Document.segments field)

/-- A field as text. -/
def textField (field : String) : Expr :=
  followPath Expr.memberText dataColumn (Document.segments field)

/-- A field as JSON, nothing where it is null. -/
def rankedField (field : String) : Expr := .nullIf (jsonField field) .jsonNull

/-- A field as a filter sees it: presence and containment tell null from nothing, and
likeness looks at text. -/
def filterField (filter : Filter) : Expr :=
  if Filter.isColumn filter.field then .column filter.field
  else
    match filter.operator with
    | .like => textField filter.field
    | .present => jsonField filter.field
    | .contains => jsonField filter.field
    | .containsAny => jsonField filter.field
    | _ => rankedField filter.field

/-! ## Values -/

/-- A value as it is bound for a field. -/
def fieldValue (field : String) (value : Json) : Value :=
  if field = Document.idField then .text value.toText
  else if field = Document.modifiedField then .int8 value.toInt
  else .jsonb value

/-! ## Plans -/

/-- What becomes of a filter. -/
inductive Plan where
  /-- It holds for all rows or for none. -/
  | constant (value : Bool)
  /-- It holds where the field is missing. -/
  | absent
  /-- It holds where the field is there. -/
  | present
  /-- It compares.  Where the field is `required`, rows without it fail; otherwise they
  pass. -/
  | compare (comparison : Comparison) (required : Bool)
  /-- It looks the field up in a list. -/
  | lookup (negated : Bool) (required : Bool)
  deriving DecidableEq, Repr

/-- Plans a filter. -/
def Plan.of (filter : Filter) : Plan :=
  let null := filter.values.any Json.isNull
  let column := Filter.isColumn filter.field
  match filter.operator with
  | .present => if filter.value.truthy then .present else .absent
  | .equal => if null then .absent else .compare .equal true
  | .notEqual => if null then .present else .compare .notEqual false
  | .like =>
    if null || filter.field = Document.modifiedField then .constant false
    else .compare .ilike true
  | .greaterThan => if null then .constant false else .compare .greater false
  | .lessThan => if null then .present else .compare .less true
  | .atLeast => if null then .absent else .compare .atLeast false
  | .atMost => if null then .constant true else .compare .atMost true
  | .oneOf => if filter.values.isEmpty then .constant false else .lookup false (!null)
  | .noneOf => if filter.values.isEmpty then .constant true else .lookup true null
  | .contains => if column then .constant false else .compare .contains true
  | .containsAny => if column then .constant false else .compare .overlaps true

/-- The value that a comparison binds. -/
def comparedValue (filter : Filter) : Value :=
  match filter.operator with
  | .like => .text (likePattern filter.value.toText)
  | .containsAny => .jsonbArray filter.values
  | _ => fieldValue filter.field filter.value

/-- The comparison itself, without what becomes of rows that lack the field. -/
def bareComparison (filter : Filter) (comparison : Comparison) : Expr :=
  let field := filterField filter
  if comparison = .overlaps then
    .and (.compare .equal (.jsonType field) (.word "array"))
      (.compare .overlaps (.jsonItems field) (.bound (comparedValue filter)))
  else .compare comparison field (.bound (comparedValue filter))

/-- A comparison with what becomes of rows that lack the field.  Columns are never
lacking. -/
def settled (filter : Filter) (comparison : Expr) (required : Bool) : Expr :=
  if Filter.isColumn filter.field then comparison
  else if required then .paren (.and comparison (.isNotNull (filterField filter)))
  else .paren (.or comparison (.isNull (filterField filter)))

/-- A filter as an expression. -/
def filterExpr (filter : Filter) : Expr :=
  match Plan.of filter with
  | .constant value => .truth value
  | .absent => .isNull (filterField filter)
  | .present => .isNotNull (filterField filter)
  | .compare comparison required => settled filter (bareComparison filter comparison) required
  | .lookup negated required =>
    settled filter
      (.oneOf negated (filterField filter) (filter.values.map (fieldValue filter.field))) required

/-- The filters of a condition as one expression, none for no filters. -/
def conditionExpr? : Condition → Option Expr
  | [] => none
  | filter :: rest => some (.group (Expr.all (filterExpr filter) (rest.map filterExpr)))

/-- Conditions of which one must hold as one expression; those without filters do not
count. -/
def alternativesExpr? (alternatives : List Condition) : Option Expr :=
  match alternatives.filterMap conditionExpr? with
  | [] => none
  | first :: rest => some (.group (Expr.any first rest))

end Sql
end DocStore
