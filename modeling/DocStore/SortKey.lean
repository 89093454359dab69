import DocStore.Document
import DocStore.Json.Order

/-!
# Sort keys

Documents are ordered by the first of a list of fields in which they differ.
-/

namespace DocStore

/-- A field that documents are ordered by. -/
structure SortKey where
  /-- The name of the field. -/
  field : String
  /-- Whether greater values come first. -/
  descending : Bool
  deriving DecidableEq, Inhabited

namespace SortKey

/-- Reads one entry: a minus sign in front asks for descending order, and an entry
without a name is none. -/
def ofEntry? (entry : List Char) : Option SortKey :=
  match entry with
  | [] => none
  | ['-'] => none
  | '-' :: field => some ⟨String.ofList field, true⟩
  | field => some ⟨String.ofList field, false⟩

/-- Adds a key unless the field has one already. -/
def addNew (keys : List SortKey) (key : SortKey) : List SortKey :=
  if keys.any (·.field == key.field) then keys else keys ++ [key]

/-- Reads entries separated by commas, as in `-last_modified,title`. -/
def ofParameter (raw : String) : List SortKey :=
  ((Text.splitOn ',' raw.toList).filterMap ofEntry?).foldl addNew []

/-- The order of two documents by one key. -/
def compareBy (key : SortKey) (left right : Document) : Ordering :=
  let order := Json.compare (left.get? key.field) (right.get? key.field)
  if key.descending then order.swap else order

/-- The order of two documents by a list of keys. -/
def compareAll (keys : List SortKey) (left right : Document) : Ordering :=
  match keys with
  | [] => .eq
  | key :: rest => (key.compareBy left right).then (compareAll rest left right)

/-- The documents in the order of the keys; documents that the keys do not tell
apart keep their order. -/
def sort (keys : List SortKey) (documents : List Document) : List Document :=
  documents.mergeSort fun left right => compareAll keys left right != .gt

end SortKey
end DocStore
