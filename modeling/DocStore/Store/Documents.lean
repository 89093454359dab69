import DocStore.Filter
import DocStore.Path
import DocStore.SortKey
import DocStore.StoreError

/-!
# Operations on documents

The operations that every store of documents offers within a transaction, and what
they answer.
-/

namespace DocStore

/-- Which documents a listing shows. -/
inductive Inclusion where
  /-- Live documents. -/
  | live
  /-- Live documents and tombstones. -/
  | all
  deriving DecidableEq, Inhabited

/-- How a collection is listed. -/
structure ListingOptions where
  /-- Filters that every document passes. -/
  condition : Condition
  /-- Conditions of which every document passes one. -/
  alternatives : List Condition
  /-- Whether tombstones are shown. -/
  inclusion : Inclusion
  /-- The order. -/
  sort : List SortKey
  /-- The greatest number of documents; zero is no limit. -/
  limit : Nat

/-- A document read in order to be changed, with the path that it was read from. -/
structure Handle where
  path : Path
  document : Document
  deriving Inhabited

/-- The handle whose document has an identifier: one without gets the one of the path. -/
def Handle.addressed (handle : Handle) : Handle :=
  if handle.document.id.isEmpty then
    { handle with document := { handle.document with id := handle.path.documentId } }
  else handle

/-- What a handle holds after its document was to be stored.  Unless the store refuses it
at once, the document has an identifier by then. -/
def Handle.afterUpdate (handle : Handle) : Except StoreError Document → Handle
  | .ok stored => { handle with document := stored }
  | .error .finished => handle
  | .error (.invalidPath _) => handle
  | .error _ => handle.addressed

/-- An operation within a transaction. -/
inductive DocumentOp where
  /-- Erases documents, tombstones and epochs. -/
  | flush
  /-- Erases the tombstones from before an epoch, or all of them for epochs below one. -/
  | purge (olderThan : Epoch)
  /-- The latest epoch of a collection. -/
  | latestEpoch (path : Path)
  /-- Whether a document is live. -/
  | exists (path : Path)
  /-- Reads a live document. -/
  | get (path : Path)
  /-- Reads a live document in order to change it. -/
  | getForUpdate (path : Path)
  /-- Stores a new document in a collection. -/
  | create (path : Path) (document : Document)
  /-- Stores a changed document. -/
  | update (handle : Handle)
  /-- Turns a document and everything below it into tombstones. -/
  | delete (path : Path)
  /-- Lists a collection. -/
  | list (path : Path) (options : ListingOptions)
  /-- Counts the live documents of a collection that pass a condition. -/
  | count (path : Path) (condition : Condition)
  /-- Deletes several documents, missing ones left out. -/
  | deleteAll (paths : List Path)
  /-- Counts all live documents. -/
  | size

/-- What an operation answers. -/
inductive DocumentAnswer where
  | done
  | number (value : Int)
  | epoch (value : Epoch)
  | truth (value : Bool)
  | document (value : Document)
  | handle (value : Handle)
  | documents (values : List Document)
  /-- The latest epoch of a deletion and the paths of the documents deleted by name. -/
  | deleted (latest : Epoch) (paths : List Path)

/-- What a store takes from outside. -/
structure Surroundings where
  /-- What the clock reads. -/
  now : Epoch
  /-- The identifiers that are handed out, in order. -/
  ids : Nat → String

/-- The error of a leaf path where a node path is needed. -/
def requireNode (path : Path) : Except StoreError Unit :=
  if path.isNode then .ok () else .error (.invalidPath path.text)

/-- The error of a node path where a leaf path is needed. -/
def requireLeaf (path : Path) : Except StoreError Unit :=
  if path.isNode then .error (.invalidPath path.text) else .ok ()

/-- The beginning of the collections below a path. -/
def belowMark (path : Path) : List Char := path.text.toList ++ ['/']

/-- Whether a collection lies below a path. -/
def isBelow (path : Path) (collection : String) : Bool :=
  (belowMark path).isPrefixOf collection.toList

end DocStore
