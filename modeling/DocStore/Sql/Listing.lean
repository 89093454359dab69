import DocStore.Sql.Predicate
import DocStore.Store.Documents

/-!
# Listings as SQL

A listing is the head of a statement and clauses in the order in which they are
added.  The first restriction opens the `WHERE`, and every further one is joined to
it.
-/

namespace DocStore
namespace Sql

/-- A clause of a listing. -/
inductive Clause where
  /-- Only rows for which the expression holds. -/
  | restrict (condition : Expr)
  /-- The order, each key with whether it descends. -/
  | order (first : Expr × Bool) (rest : List (Expr × Bool))
  /-- The greatest number of rows. -/
  | limit (count : Int)

/-- A statement that lists rows. -/
structure Listing where
  /-- The statement up to its first clause. -/
  head : String
  /-- The clauses, in order. -/
  clauses : List Clause

namespace Listing

/-- A statement without clauses. -/
def start (head : String) : Listing := ⟨head, []⟩

/-- Adds a clause. -/
def add (listing : Listing) (clause : Clause) : Listing :=
  { listing with clauses := listing.clauses ++ [clause] }

/-- Adds a restriction, if there is one. -/
def restrict (listing : Listing) : Option Expr → Listing
  | some condition => listing.add (.restrict condition)
  | none => listing

/-- Only rows of a collection. -/
def ofCollection (listing : Listing) (collection : String) : Listing :=
  listing.add (.restrict (.columnIs "path" collection))

/-- Only live rows, unless tombstones are shown. -/
def including (listing : Listing) : Inclusion → Listing
  | .live => listing.add (.restrict (.not (.column "deleted")))
  | .all => listing

/-- Only rows that pass a condition. -/
def filtered (listing : Listing) (condition : Condition) : Listing :=
  listing.restrict (conditionExpr? condition)

/-- Only rows that pass one of the conditions. -/
def pagedBy (listing : Listing) (alternatives : List Condition) : Listing :=
  listing.restrict (alternativesExpr? alternatives)

/-- A sort key as an expression, and whether it descends. -/
def orderKey (key : SortKey) : Expr × Bool :=
  (if Filter.isColumn key.field then .column key.field else rankedField key.field,
    key.descending)

/-- Orders the rows. -/
def orderedBy (listing : Listing) : List SortKey → Listing
  | [] => listing
  | key :: rest => listing.add (.order (orderKey key) (rest.map orderKey))

/-- Bounds the number of rows; zero is no bound. -/
def limitedTo (listing : Listing) (limit : Nat) : Listing :=
  if limit = 0 then listing else listing.add (.limit (Number.Extended.clampInt64 limit))

/-! ## Writing -/

/-- Writes a key and its direction. -/
def keyPieces (key : Expr × Bool) : List Piece :=
  key.1.pieces ++ [.text (if key.2 then " DESC" else " ASC")]

/-- Writes the keys after the first. -/
def furtherKeys (keys : List (Expr × Bool)) : List Piece :=
  keys.flatMap fun key => .text ", " :: keyPieces key

/-- Writes clauses; `restricted` tells whether a restriction was written before. -/
def clausePieces : Bool → List Clause → List Piece
  | _, [] => []
  | restricted, .restrict condition :: rest =>
    .text (if restricted then " AND " else " WHERE ") :: condition.pieces ++
      clausePieces true rest
  | restricted, .order first others :: rest =>
    .text " ORDER BY " :: keyPieces first ++ furtherKeys others ++ clausePieces restricted rest
  | restricted, .limit count :: rest =>
    .text " LIMIT " :: .value (.int8 count) :: clausePieces restricted rest

/-- Writes a listing. -/
def pieces (listing : Listing) : List Piece :=
  .text listing.head :: clausePieces false listing.clauses

/-- A listing as it is sent. -/
def sent (listing : Listing) : Sent := Sent.ofPieces listing.pieces

end Listing
end Sql
end DocStore
