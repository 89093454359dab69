import DocStore.Sql.Listing

/-!
# SQL statements

Statements as data, and their text.  Placeholders are numbered from the left, except
that the values of an update's condition come before the values that it assigns.
-/

namespace DocStore
namespace Sql

/-- What an insertion does with a row whose key is taken. -/
inductive OnConflict where
  /-- The row is left out, whichever key is taken. -/
  | skip
  /-- The row that has the key is changed, if it passes the condition. -/
  | change (key : List String) (assignments : List (String × Expr)) (condition : Option Expr)

/-- A query. -/
structure Select where
  /-- Whether equal rows are shown once. -/
  distinct : Bool := false
  /-- What is shown of each row. -/
  items : List Expr
  /-- The table; without one there is a single row. -/
  source : Option String := none
  /-- The condition on rows. -/
  condition : Option Expr := none
  /-- The columns by which rows are ordered. -/
  order : List String := []
  /-- The greatest number of rows. -/
  limit : Option Nat := none
  /-- Whether the rows are locked until the transaction ends. -/
  locking : Bool := false

/-- A statement. -/
inductive Statement where
  /-- Defines a table, if there is none of its name. -/
  | createTable (table : String) (definitions : List String)
  /-- Defines an index, if there is none of its name. -/
  | createIndex (index table keys : String)
  /-- Empties tables. -/
  | truncate (tables : List String)
  /-- Inserts rows and may return a column of each row that was written. -/
  | insert (table : String) (columns : List String) (rows : List (List Expr))
      (conflict : OnConflict) (returning : Option String)
  /-- Changes the rows that pass a condition. -/
  | update (table : String) (assignments : List (String × Expr)) (condition : Expr)
  /-- Deletes the rows that pass a condition. -/
  | delete (table : String) (condition : Expr)
  /-- Queries rows. -/
  | select (query : Select)
  /-- Lists rows. -/
  | list (listing : Listing)

/-! ## Writing -/

/-- Pieces between commas. -/
def commaPieces : List (List Piece) → List Piece
  | [] => []
  | [first] => first
  | first :: rest => first ++ .text ", " :: commaPieces rest

/-- Words between commas. -/
def wordPieces (words : List String) : List Piece :=
  commaPieces (words.map fun word => [.text word])

/-- Pieces in parentheses. -/
def inParentheses (content : List Piece) : List Piece := .text "(" :: content ++ [.text ")"]

/-- A clause that may be missing. -/
def optionalPieces {α : Type} (opening : String) (write : α → List Piece) :
    Option α → List Piece
  | some value => .text opening :: write value
  | none => []

/-- Writes assignments. -/
def assignmentPieces (assignments : List (String × Expr)) : List Piece :=
  commaPieces (assignments.map fun assignment =>
    .text assignment.1 :: .text " = " :: assignment.2.pieces)

/-- Writes the rows of an insertion. -/
def rowPieces (rows : List (List Expr)) : List Piece :=
  commaPieces (rows.map fun row => inParentheses (commaPieces (row.map Expr.pieces)))

/-- Writes what becomes of rows whose key is taken. -/
def OnConflict.pieces : OnConflict → List Piece
  | skip => [.text " ON CONFLICT DO NOTHING"]
  | change key assignments condition =>
    .text " ON CONFLICT " :: inParentheses (wordPieces key) ++
      .text " DO UPDATE SET " :: assignmentPieces assignments ++
      optionalPieces " WHERE " Expr.pieces condition

/-- Writes a query. -/
def Select.pieces (query : Select) : List Piece :=
  .text (if query.distinct then "SELECT DISTINCT " else "SELECT ") ::
    commaPieces (query.items.map Expr.pieces) ++
    optionalPieces " FROM " (fun table => [.text table]) query.source ++
    optionalPieces " WHERE " Expr.pieces query.condition ++
    (if query.order.isEmpty then [] else .text " ORDER BY " :: wordPieces query.order) ++
    optionalPieces " LIMIT " (fun limit => (Expr.number limit).pieces) query.limit ++
    (if query.locking then [.text " FOR UPDATE"] else [])

namespace Statement

/-- Writes a statement in which the placeholders count from the left; an update is
written up to its assignments. -/
def pieces : Statement → List Piece
  | createTable table definitions =>
    .text "CREATE TABLE IF NOT EXISTS " :: .text table :: .text " ( " ::
      wordPieces definitions ++ [.text " )"]
  | createIndex index table keys =>
    [.text "CREATE INDEX IF NOT EXISTS ", .text index, .text " ON ", .text table, .text " ",
      .text keys]
  | truncate tables => .text "TRUNCATE " :: wordPieces tables
  | insert table columns rows conflict returning =>
    .text "INSERT INTO " :: .text table :: .text " " :: inParentheses (wordPieces columns) ++
      .text " VALUES " :: rowPieces rows ++ conflict.pieces ++
      optionalPieces " RETURNING " (fun column => [.text column]) returning
  | update table assignments _ =>
    .text "UPDATE " :: .text table :: .text " SET " :: assignmentPieces assignments
  | delete table condition =>
    .text "DELETE FROM " :: .text table :: .text " WHERE " :: condition.pieces
  | select query => query.pieces
  | list listing => listing.pieces

/-- A statement as it is sent. -/
def sent : Statement → Sent
  | statement@(update _ _ condition) =>
    let before := .text " WHERE " :: condition.pieces
    let values := boundValues before
    ⟨String.ofList (numberedChars (values.length + 1) statement.pieces ++
        numberedChars 1 before),
      values ++ boundValues statement.pieces⟩
  | statement => Sent.ofPieces statement.pieces

end Statement
end Sql
end DocStore
