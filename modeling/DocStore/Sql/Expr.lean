import DocStore.Json.Printer

/-!
# SQL expressions

Expressions carry the values that are bound to their placeholders.  Written down, an
expression is a list of pieces: text, and values of which only the number is
written.  So no value can reach the text of a statement.
-/

namespace DocStore
namespace Sql

/-- A value that is bound to a placeholder. -/
inductive Value where
  | text (value : String)
  | int8 (value : Int)
  | bool (value : Bool)
  | jsonb (value : Json)
  | textArray (values : List String)
  | jsonbArray (values : List Json)

/-- A piece of a statement. -/
inductive Piece where
  /-- Text that is written as it is. -/
  | text (chars : String)
  /-- A value, written as a placeholder. -/
  | value (bound : Value)

/-- How two expressions are compared. -/
inductive Comparison where
  | equal
  | notEqual
  | less
  | greater
  | atMost
  | atLeast
  | like
  | notLike
  | ilike
  | contains
  | overlaps
  deriving DecidableEq, Repr

/-- The symbol of a comparison. -/
def Comparison.symbol : Comparison → String
  | .equal => "="
  | .notEqual => "!="
  | .less => "<"
  | .greater => ">"
  | .atMost => "<="
  | .atLeast => ">="
  | .like => "LIKE"
  | .notLike => "NOT LIKE"
  | .ilike => "ILIKE"
  | .contains => "@>"
  | .overlaps => "&&"

/-- An expression. -/
inductive Expr where
  /-- A column of the row. -/
  | column (name : String)
  /-- A column of a named table, or of the row that could not be inserted. -/
  | columnOf (table name : String)
  /-- A bound value. -/
  | bound (value : Value)
  /-- A truth value. -/
  | truth (value : Bool)
  /-- A number. -/
  | number (value : Nat)
  /-- A word between quotes. -/
  | word (text : String)
  /-- The null of JSON. -/
  | jsonNull
  /-- The member of an object, as JSON. -/
  | member (object : Expr) (name : String)
  /-- The member of an object, as text. -/
  | memberText (object : Expr) (name : String)
  /-- Nothing where two values are equal, the first one otherwise. -/
  | nullIf (value other : Expr)
  /-- The greater of two values. -/
  | greatest (left right : Expr)
  /-- A sum. -/
  | plus (left right : Expr)
  /-- The name of a JSON value's type. -/
  | jsonType (value : Expr)
  /-- The items of a JSON array as an array. -/
  | jsonItems (value : Expr)
  /-- A comparison. -/
  | compare (comparison : Comparison) (left right : Expr)
  /-- Whether a value is, or is not, one of several. -/
  | oneOf (negated : Bool) (value : Expr) (values : List Value)
  /-- Whether a comparison holds with an item of a bound array. -/
  | anyOf (comparison : Comparison) (value : Expr) (array : Value)
  /-- Whether a value is missing. -/
  | isNull (value : Expr)
  /-- Whether a value is there. -/
  | isNotNull (value : Expr)
  | not (operand : Expr)
  | and (left right : Expr)
  | or (left right : Expr)
  /-- Parentheses close to their content. -/
  | paren (content : Expr)
  /-- Parentheses with a blank on both sides of their content. -/
  | group (content : Expr)
  /-- How many rows are selected. -/
  | rowCount
  /-- How many rows of a table there are. -/
  | countOf (table : String)

/-- Values between commas. -/
def valuePieces : List Value → List Piece
  | [] => []
  | [value] => [.value value]
  | value :: rest => .value value :: .text ", " :: valuePieces rest

namespace Expr

/-- Writes an expression. -/
def pieces : Expr → List Piece
  | column name => [.text name]
  | columnOf table name => [.text table, .text ".", .text name]
  | bound value => [.value value]
  | truth true => [.text "TRUE"]
  | truth false => [.text "FALSE"]
  | number value => [.text (String.ofList (Text.Numeral.showNat value))]
  | word text => [.text "'", .text text, .text "'"]
  | jsonNull => [.text "'null'::jsonb"]
  | member object name => object.pieces ++ [.text "->", .value (.text name)]
  | memberText object name => object.pieces ++ [.text "->>", .value (.text name)]
  | nullIf value other =>
    .text "NULLIF(" :: value.pieces ++ .text ", " :: other.pieces ++ [.text ")"]
  | greatest left right =>
    .text "GREATEST(" :: left.pieces ++ .text ", " :: right.pieces ++ [.text ")"]
  | plus left right => left.pieces ++ .text " + " :: right.pieces
  | jsonType value => .text "jsonb_typeof(" :: value.pieces ++ [.text ")"]
  | jsonItems value =>
    .text "(SELECT array_agg(elems) FROM jsonb_array_elements(" ::
      value.pieces ++ [.text ") elems)"]
  | compare comparison left right =>
    left.pieces ++ .text " " :: .text comparison.symbol :: .text " " :: right.pieces
  | oneOf negated value values =>
    value.pieces ++ .text (if negated then " NOT IN (" else " IN (") ::
      valuePieces values ++ [.text ")"]
  | anyOf comparison value array =>
    value.pieces ++ [.text " ", .text comparison.symbol, .text " ANY(", .value array, .text ")"]
  | isNull value => value.pieces ++ [.text " IS NULL"]
  | isNotNull value => value.pieces ++ [.text " IS NOT NULL"]
  | not operand => .text "NOT " :: operand.pieces
  | and left right => left.pieces ++ .text " AND " :: right.pieces
  | or left right => left.pieces ++ .text " OR " :: right.pieces
  | paren content => .text "(" :: content.pieces ++ [.text ")"]
  | group content => .text "( " :: content.pieces ++ [.text " )"]
  | rowCount => [.text "COUNT(1)"]
  | countOf table => [.text "(SELECT COUNT(1) FROM ", .text table, .text ")"]

/-- Whether a column is a text. -/
def columnIs (name text : String) : Expr := .compare .equal (.column name) (.bound (.text text))

/-- Whether a column is one of several texts. -/
def columnIsAny (name : String) (texts : List String) : Expr :=
  .anyOf .equal (.column name) (.textArray texts)

/-- Expressions that hold together. -/
def all (first : Expr) : List Expr → Expr
  | [] => first
  | next :: rest => .and first (all next rest)

/-- Expressions of which one holds. -/
def any (first : Expr) : List Expr → Expr
  | [] => first
  | next :: rest => .or first (any next rest)

end Expr

/-! ## Numbering -/

/-- The values of pieces, in order. -/
def boundValues (pieces : List Piece) : List Value :=
  pieces.filterMap fun piece =>
    match piece with
    | .value value => some value
    | .text _ => none

/-- The placeholder of a number. -/
def placeholder (number : Nat) : List Char := '$' :: Text.Numeral.showNat number

/-- The text of pieces whose first placeholder has the given number. -/
def numberedChars (number : Nat) : List Piece → List Char
  | [] => []
  | .text chars :: rest => chars.toList ++ numberedChars number rest
  | .value _ :: rest => placeholder number ++ numberedChars (number + 1) rest

/-- A statement as it is sent: text with placeholders `$1`, `$2`, ... and the values
bound to them. -/
structure Sent where
  sql : String
  binds : List Value

/-- Numbers placeholders from the left. -/
def Sent.ofPieces (pieces : List Piece) : Sent :=
  ⟨String.ofList (numberedChars 1 pieces), boundValues pieces⟩

end Sql
end DocStore
