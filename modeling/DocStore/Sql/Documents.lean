import DocStore.Sql.Conversation
import DocStore.Store.Documents

/-!
# Documents on a server

Documents are rows of one table, keyed by collection and identifier; the latest epoch
of each collection is a row of another.  Each operation on documents is a
conversation within the transaction that is open on the server.
-/

namespace DocStore
namespace Sql

/-! ## Tables -/

/-- The table of documents and tombstones. -/
def documentTable : String := "storage_objects"

/-- The table of the latest epochs. -/
def epochTable : String := "storage_timestamps"

/-- Whether a row is live. -/
def isLiveRow : Expr := .not (.column "deleted")

/-- Whether a row is the live document of a collection with an identifier. -/
def isLiveDocument (collection id : String) : Expr :=
  .and (Expr.columnIs "path" collection) (.and (Expr.columnIs "id" id) isLiveRow)

/-- The columns of a document. -/
def documentColumns : List String := ["id", "last_modified", "deleted", "data"]

/-- The head of a listing of documents. -/
def documentHead : String := "SELECT id, last_modified, deleted, data FROM storage_objects"

/-- The head of a count of documents. -/
def countHead : String := "SELECT COUNT(*) FROM storage_objects"

/-- The members of a document's data; data that is no object has none. -/
def dataMembers : Json → Members
  | .obj members => members
  | _ => []

/-- The error of a row that is no document. -/
def rowError (cause : String) : StoreError :=
  .serialization (Conversation.failure "decode object row" cause)

/-- Reads a row with the columns of a document. -/
def readDocument (row : Row) : Except StoreError Document :=
  match row with
  | [.str id, .int modified, .bool deleted, data] =>
    .ok ⟨id, ⟨modified⟩, deleted, dataMembers data⟩
  | _ => .error (rowError (missingCell "\"id\""))

/-! ## Statements -/

/-- Raises the epoch of a collection to a candidate, or by one where that is more. -/
def raiseEpoch (collection : String) (candidate : Epoch) : Statement :=
  .insert epochTable ["path", "last_modified"]
    [[.bound (.text collection), .bound (.int8 candidate.millis)]]
    (.change ["path"]
      [("last_modified",
        .greatest (.columnOf "EXCLUDED" "last_modified")
          (.plus (.columnOf epochTable "last_modified") (.number 1)))]
      none)
    (some "last_modified")

/-- Writes a live document over the row with its key, if there is one and it passes the
condition. -/
def writeDocument (collection : String) (document : Document) (modified : Epoch)
    (overwritten : Option Expr) (returning : Option String) : Statement :=
  .insert documentTable ["path", "id", "data", "last_modified", "deleted"]
    [[.bound (.text collection), .bound (.text document.id),
      .bound (.jsonb (.obj document.fields)), .bound (.int8 modified.millis), .truth false]]
    (.change ["path", "id"]
      [("data", .columnOf "EXCLUDED" "data"),
        ("last_modified", .columnOf "EXCLUDED" "last_modified"),
        ("deleted", .truth false)]
      overwritten)
    returning

/-- Creates a document; a tombstone gives way to it, a live document does not. -/
def insertDocument (collection : String) (document : Document) (modified : Epoch) : Statement :=
  writeDocument collection document modified (some (.columnOf documentTable "deleted"))
    (some "last_modified")

/-- Stores a document, whatever was there. -/
def replaceDocument (collection : String) (document : Document) (modified : Epoch) : Statement :=
  writeDocument collection document modified none none

/-- Turns a live document into a tombstone. -/
def buryDocument (collection id : String) (modified : Epoch) : Statement :=
  .update documentTable
    [("deleted", .truth true), ("last_modified", .bound (.int8 modified.millis))]
    (isLiveDocument collection id)

/-- Reads a live document. -/
def selectDocument (collection id : String) (locking : Bool) : Statement :=
  .select {
    items := documentColumns.map Expr.column
    source := documentTable
    condition := isLiveDocument collection id
    locking }

/-- Tells whether a document is live. -/
def selectPresence (collection id : String) : Statement :=
  .select {
    items := [.truth true]
    source := documentTable
    condition := isLiveDocument collection id
    limit := some 1 }

/-- Reads the data of a live document and locks it. -/
def selectData (collection id : String) : Statement :=
  .select {
    items := [.column "data"]
    source := documentTable
    condition := isLiveDocument collection id
    locking := true }

/-- Lists the live documents below a path. -/
def selectBelow (path : Path) : Statement :=
  .select {
    items := [.column "path", .column "id"]
    source := documentTable
    condition := some (.and
      (.compare .like (.column "path") (.bound (.text (likeStart path.text ++ "/%"))))
      isLiveRow)
    order := ["path", "id"] }

/-- Reads the latest epoch of a collection. -/
def selectEpoch (collection : String) : Statement :=
  .select {
    items := [.column "last_modified"]
    source := epochTable
    condition := Expr.columnIs "path" collection }

/-- Counts the live documents. -/
def selectSize : Statement :=
  .select { items := [.rowCount], source := documentTable, condition := isLiveRow }

/-- Empties both tables. -/
def emptyDocuments : Statement := .truncate [documentTable, epochTable]

/-- Deletes the tombstones from before an epoch, or all of them. -/
def deleteTombstones (olderThan : Epoch) : Statement :=
  .delete documentTable
    (.and (.column "deleted")
      (.paren (.or (.bound (.bool olderThan.isZero))
        (.compare .less (.column "last_modified") (.bound (.int8 olderThan.millis))))))

/-- Lists a collection. -/
def listDocuments (collection : String) (options : ListingOptions) : Statement :=
  let listing := (Listing.start documentHead).ofCollection collection
  .list (listing |>.including options.inclusion |>.filtered options.condition
    |>.pagedBy options.alternatives |>.orderedBy options.sort |>.limitedTo options.limit)

/-- Counts the live documents of a collection. -/
def countDocuments (collection : String) (condition : Condition) : Statement :=
  let listing := (Listing.start countHead).ofCollection collection
  .list (listing |>.including .live |>.filtered condition)

/-! ## Operations -/

open Conversation

/-- Raises the epoch of a collection. -/
def nextEpoch (collection : String) (now : Epoch) : Talk Epoch := do
  let millis ← fetchOne "bump namespace epoch" collection (single intCell)
    (raiseEpoch collection now)
  return ⟨millis⟩

/-- Reads a live document. -/
def fetchDocument (path : Path) (locking : Bool) : Talk Document := do
  let row ← fetchOne "get object" path.text Except.ok
    (selectDocument path.collection path.documentId locking)
  .finish (readDocument row)

/-- Tells whether a document is live. -/
def isLive (collection id : String) : Talk Bool := do
  let found ← fetchFirst "check object" (single boolCell) (selectPresence collection id)
  return found.isSome

/-- The error of a document that is live already. -/
def alreadyLive (path : Path) (id : String) : StoreError :=
  .alreadyExists (path.withDocumentId id).text

/-- Stores a new document.  One that brings no identifier gets the given one, which is
taken to be new. -/
def create (path : Path) (document : Document) (fresh : String) (now : Epoch) :
    Talk Document := do
  let collection := path.collection
  let named := if document.id.isEmpty then { document with id := fresh } else document
  if !document.id.isEmpty then
    if ← isLive collection named.id then fail (alreadyLive path named.id)
  let modified ← nextEpoch collection now
  let created ← fetchFirst "create object" (single intCell)
    (insertDocument collection named modified)
  if created.isNone then fail (alreadyLive path named.id)
  return { named with modified, deleted := false }

/-- Stores the document of a handle. -/
def update (handle : Handle) (now : Epoch) : Talk Document := do
  let document := handle.addressed.document
  let modified ← nextEpoch handle.path.collection now
  let _ ← execute "update object" (replaceDocument handle.path.collection document modified)
  return { document with modified, deleted := false }

/-- Turns a live document into a tombstone under the next epoch. -/
def bury (collection id : String) (now : Epoch) : Talk Epoch := do
  let modified ← nextEpoch collection now
  let _ ← execute "delete object" (buryDocument collection id modified)
  return modified

/-- Turns documents into tombstones, one after the other. -/
def buryEach (now : Epoch) : List (String × String) → Talk Unit
  | [] => pure ()
  | key :: rest => do
    let _ ← bury key.1 key.2 now
    buryEach now rest

/-- Turns everything below a path into tombstones. -/
def buryBelow (path : Path) (now : Epoch) : Talk Unit := do
  let keys ← fetchAll "list nested objects" textPair (selectBelow path)
  buryEach now keys

/-- Turns the document at a path into a tombstone, if it is live. -/
def buryAt (path : Path) (now : Epoch) : Talk (Option Document) := do
  match ← fetchFirst "lock object" (single jsonCell)
      (selectData path.collection path.documentId) with
  | some data =>
    let modified ← bury path.collection path.documentId now
    return some ⟨path.documentId, modified, true, dataMembers data⟩
  | none => return none

/-- Deletes a document and everything below it; documents below a missing one stay where
`demanded` is set. -/
def delete (path : Path) (now : Epoch) (demanded : Bool) : Talk (Option Document) := do
  let tombstone ← buryAt path now
  if tombstone.isNone && demanded then return none
  buryBelow path now
  return tombstone

/-- Deletes the documents of leaf paths one after the other. -/
def deleteAll (now : Epoch) : List Path → Talk (Epoch × List Path)
  | [] => return (Epoch.zero, [])
  | path :: rest =>
    if path.isNode then deleteAll now rest
    else do
      let tombstone ← delete path now false
      let (latest, paths) ← deleteAll now rest
      match tombstone with
      | some tombstone => return (tombstone.modified.max latest, path :: paths)
      | none => return (latest, paths)

/-- Lists a collection. -/
def list (path : Path) (options : ListingOptions) : Talk (List Document) := do
  let rows ← fetchAll "list objects" Except.ok (listDocuments path.collection options)
  .finish (rows.mapM readDocument)

/-- The name under which an operation is timed. -/
def documentTask : DocumentOp → String
  | .flush => "flush"
  | .purge _ => "purge"
  | .latestEpoch _ => "mod_time"
  | .exists _ => "exists"
  | .get _ => "get"
  | .getForUpdate _ => "get_for_update"
  | .create _ _ => "create"
  | .update _ => "update"
  | .delete _ => "delete"
  | .list _ _ => "list_all"
  | .count _ _ => "count_all"
  | .deleteAll _ => "delete_all"
  | .size => "num_entries"

/-- Whether an operation is asked of a path of the right kind. -/
def checkPath : DocumentOp → Except StoreError Unit
  | .latestEpoch path => requireNode path
  | .exists path => requireLeaf path
  | .get path => requireLeaf path
  | .getForUpdate path => requireLeaf path
  | .create path _ => requireNode path
  | .update handle => requireLeaf handle.path
  | .delete path => requireLeaf path
  | .list path _ => requireNode path
  | .count path _ => requireNode path
  | _ => .ok ()

/-- Whether an operation takes an identifier that is handed out. -/
def takesId : DocumentOp → Bool
  | .create path document => path.isNode && document.id.isEmpty
  | _ => false

/-- What is said about an operation, once its path is checked. -/
def documentExchange (now : Epoch) (fresh : String) : DocumentOp → Talk DocumentAnswer
  | .flush => do
    let _ ← execute "flush storage" emptyDocuments
    return .done
  | .purge olderThan => do
    return .number (← execute "purge tombstones" (deleteTombstones olderThan))
  | .latestEpoch path => do
    let millis ← fetchFirst "get namespace epoch" (single intCell) (selectEpoch path.collection)
    return .epoch ⟨millis.getD 0⟩
  | .exists path => do return .truth (← isLive path.collection path.documentId)
  | .get path => do return .document (← fetchDocument path false)
  | .getForUpdate path => do return .handle ⟨path, ← fetchDocument path true⟩
  | .create path document => do return .document (← create path document fresh now)
  | .update handle => do return .document (← update handle now)
  | .delete path => do
    match ← delete path now true with
    | some tombstone => return .document tombstone
    | none => fail (.notFound path.text)
  | .list path options => do return .documents (← list path options)
  | .count path condition => do
    return .number (← fetchOne "count objects" path.text (single intCell)
      (countDocuments path.collection condition))
  | .deleteAll paths => do
    let (latest, deleted) ← deleteAll now paths
    return .deleted latest deleted
  | .size => do return .number (← fetchOne "count entries" "" (single intCell) selectSize)

/-- The conversation of an operation, bounded in time. -/
def documentTalk (limit : Nat) (now : Epoch) (fresh : String) (op : DocumentOp) :
    Talk DocumentAnswer :=
  match checkPath op with
  | .ok _ => (documentExchange now fresh op).within (documentTask op) limit
  | .error error => fail error

end Sql
end DocStore
