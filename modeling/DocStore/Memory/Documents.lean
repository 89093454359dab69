import DocStore.Memory.Collection
import DocStore.Memory.Journal
import DocStore.Store.Documents

/-!
# Documents in memory

Live documents and tombstones lie on two shelves.  A session works on both and notes
in journals what it changes, so that it can be undone; a flush keeps the shelves of
before as a whole.
-/

namespace DocStore

/-- Everything that a store of documents holds. -/
structure Holdings where
  /-- The live documents. -/
  live : Shelf
  /-- The tombstones. -/
  dead : Shelf

namespace Holdings

/-- The store without content. -/
def empty : Holdings := ⟨Dict.empty, Dict.empty⟩

instance : Inhabited Holdings := ⟨empty⟩

end Holdings

/-- The work of one transaction. -/
structure DocumentSession where
  /-- What the store holds now. -/
  holdings : Holdings
  /-- What touched live collections were before. -/
  liveJournal : Journal Collection
  /-- What touched collections of tombstones were before. -/
  deadJournal : Journal Collection
  /-- What the store held before the first flush. -/
  flushed : Option Holdings
  /-- How many identifiers were handed out, since the store was opened. -/
  minted : Nat

namespace DocumentSession

/-- The start of a transaction. -/
def start (holdings : Holdings) (minted : Nat) : DocumentSession :=
  ⟨holdings, Dict.empty, Dict.empty, none, minted⟩

/-! ## Changes -/

/-- Notes what a live collection is, before it changes. -/
def touchLive (session : DocumentSession) (name : String) : DocumentSession :=
  if session.flushed.isSome then session
  else { session with liveJournal := session.liveJournal.record session.holdings.live name }

/-- Notes what a collection of tombstones is, before it changes. -/
def touchDead (session : DocumentSession) (name : String) : DocumentSession :=
  if session.flushed.isSome then session
  else { session with deadJournal := session.deadJournal.record session.holdings.dead name }

/-- Gives a live collection its content. -/
def setLive (session : DocumentSession) (name : String) (collection : Collection) :
    DocumentSession :=
  { session with
    holdings := { session.holdings with live := session.holdings.live.insert name collection } }

/-- Gives a collection of tombstones its content; an empty one is taken away. -/
def setDead (session : DocumentSession) (name : String) (collection : Collection) :
    DocumentSession :=
  let dead := session.holdings.dead
  { session with
    holdings := { session.holdings with
      dead := if collection.isEmpty then dead.erase name else dead.insert name collection } }

/-- Takes a tombstone away, if there is one. -/
def unlinkDead (session : DocumentSession) (name id : String) : DocumentSession :=
  match Dict.find? session.holdings.dead name with
  | none => session
  | some collection =>
    if collection.documents.contains id then
      (session.touchDead name).setDead name
        { collection with documents := collection.documents.erase id }
    else session

/-- Stores a live document under the next epoch of its collection. -/
def putLive (session : DocumentSession) (name : String) (document : Document) (now : Epoch) :
    Document × DocumentSession :=
  let (stamped, collection) := (session.holdings.live.collection name).put document now
  (stamped, (session.touchLive name).setLive name collection)

/-- Stores a document that is no tombstone any more. -/
def store (session : DocumentSession) (name : String) (document : Document) (now : Epoch) :
    Document × DocumentSession :=
  let revived := { document with deleted := false }
  (session.unlinkDead name revived.id).putLive name revived now

/-- Stores a tombstone as it is. -/
def bury (name : String) (session : DocumentSession) (tombstone : Document) : DocumentSession :=
  (session.touchDead name).setDead name
    ((session.holdings.dead.collection name).keep tombstone)

/-- Turns live documents of a collection into tombstones. -/
def buryAll (session : DocumentSession) (name : String) (ids : List String) (now : Epoch) :
    List Document × DocumentSession :=
  let (tombstones, collection) := (session.holdings.live.collection name).removeAll ids now
  (tombstones, tombstones.foldl (bury name) ((session.touchLive name).setLive name collection))

/-- The collections below a path that hold a live document. -/
def collectionsBelow (session : DocumentSession) (path : Path) : List String :=
  (session.holdings.live.entries.filter fun entry =>
    isBelow path entry.1 && !entry.2.isEmpty).map (·.1)

/-- Turns every live document of a collection into a tombstone. -/
def buryCollection (now : Epoch) (session : DocumentSession) (name : String) : DocumentSession :=
  (session.buryAll name (session.holdings.live.collection name).documents.keys now).2

/-- Turns everything below a path into tombstones. -/
def buryBelow (session : DocumentSession) (path : Path) (now : Epoch) : DocumentSession :=
  (session.collectionsBelow path).foldl (buryCollection now) session

/-- Turns the document at a path into a tombstone, if it is live. -/
def buryAt (session : DocumentSession) (path : Path) (now : Epoch) :
    Option Document × DocumentSession :=
  if (session.holdings.live.find? path.collection path.documentId).isSome then
    let (tombstones, session) := session.buryAll path.collection [path.documentId] now
    (tombstones.head?, session)
  else (none, session)

/-- Deletes a document and everything below it; documents below a missing one stay where
`demanded` is set. -/
def delete (session : DocumentSession) (path : Path) (now : Epoch) (demanded : Bool) :
    Option Document × DocumentSession :=
  let (tombstone, session) := session.buryAt path now
  if tombstone.isNone && demanded then (none, session)
  else (tombstone, session.buryBelow path now)

/-- Deletes the documents of leaf paths one after the other. -/
def deleteAll (session : DocumentSession) (now : Epoch) :
    List Path → (Epoch × List Path) × DocumentSession
  | [] => ((Epoch.zero, []), session)
  | path :: rest =>
    if path.isNode then session.deleteAll now rest
    else
      let (tombstone, session) := session.delete path now false
      let ((latest, paths), session) := session.deleteAll now rest
      match tombstone with
      | some tombstone => ((tombstone.modified.max latest, path :: paths), session)
      | none => ((latest, paths), session)

/-- Whether a purge leaves a tombstone. -/
def survives (olderThan : Epoch) (tombstone : Document) : Bool :=
  !olderThan.isZero && decide (olderThan ≤ tombstone.modified)

/-- Purges one collection of tombstones and counts what goes. -/
def purgeCollection (olderThan : Epoch) (progress : Nat × DocumentSession) (name : String) :
    Nat × DocumentSession :=
  let (count, session) := progress
  let collection := session.holdings.dead.collection name
  let left := collection.documents.filter fun _ tombstone => survives olderThan tombstone
  (count + (collection.documents.size - left.size),
    (session.touchDead name).setDead name { collection with documents := left })

/-- Purges every collection of tombstones. -/
def purge (session : DocumentSession) (olderThan : Epoch) : Nat × DocumentSession :=
  session.holdings.dead.keys.foldl (purgeCollection olderThan) (0, session)

/-- Empties the store. -/
def flush (session : DocumentSession) : DocumentSession :=
  { session with
    holdings := Holdings.empty
    flushed := some (session.flushed.getD session.holdings) }

/-- Undoes the session. -/
def undo (session : DocumentSession) : Holdings :=
  let base := session.flushed.getD session.holdings
  ⟨session.liveJournal.restore base.live, session.deadJournal.restore base.dead⟩

/-! ## Reads -/

/-- The live document at a path. -/
def find? (session : DocumentSession) (path : Path) : Option Document :=
  session.holdings.live.find? path.collection path.documentId

/-- The documents of a collection, in the order of their identifiers, tombstones last. -/
def documentsOf (session : DocumentSession) (name : String) (inclusion : Inclusion) :
    List Document :=
  (session.holdings.live.collection name).documents.values ++
    match inclusion with
    | .live => []
    | .all => (session.holdings.dead.collection name).documents.values

/-- The documents of a listing. -/
def list (session : DocumentSession) (name : String) (options : ListingOptions) :
    List Document :=
  let found := (session.documentsOf name options.inclusion).filter fun document =>
    options.condition.holds document && Condition.anyHolds options.alternatives document
  let sorted := SortKey.sort options.sort found
  if options.limit > 0 then sorted.take options.limit else sorted

/-! ## Operations -/

/-- A check of what an operation is given, which leaves the session as it is. -/
def checked (session : DocumentSession) (check : Except StoreError Unit) :
    Except (StoreError × DocumentSession) Unit :=
  check.mapError (·, session)

/-- Stores a new document; one without an identifier gets the next one. -/
def create (session : DocumentSession) (surroundings : Surroundings) (path : Path)
    (document : Document) :
    Except (StoreError × DocumentSession) (DocumentAnswer × DocumentSession) := do
  session.checked (requireNode path)
  let name := path.collection
  if document.id.isEmpty then
    let named := { document with id := surroundings.ids session.minted }
    let session := { session with minted := session.minted + 1 }
    let (stored, session) := session.store name named surroundings.now
    return (.document stored, session)
  else if (session.holdings.live.find? name document.id).isSome then
    throw (.alreadyExists (path.withDocumentId document.id).text, session)
  else
    let (stored, session) := session.store name document surroundings.now
    return (.document stored, session)

/-- Stores a changed document; one without an identifier takes that of its path. -/
def update (session : DocumentSession) (now : Epoch) (handle : Handle) :
    Except (StoreError × DocumentSession) (DocumentAnswer × DocumentSession) := do
  session.checked (requireLeaf handle.path)
  let (stored, session) :=
    session.store handle.path.collection handle.addressed.document now
  return (.document stored, session)

/-- Runs one operation. -/
def run (session : DocumentSession) (surroundings : Surroundings) :
    DocumentOp → Except (StoreError × DocumentSession) (DocumentAnswer × DocumentSession)
  | .flush => return (.done, session.flush)
  | .purge olderThan =>
    let (count, session) := session.purge olderThan
    return (.number count, session)
  | .latestEpoch path => do
    session.checked (requireNode path)
    return (.epoch (session.holdings.live.collection path.collection).latest, session)
  | .exists path => do
    session.checked (requireLeaf path)
    return (.truth (session.find? path).isSome, session)
  | .get path => do
    session.checked (requireLeaf path)
    match session.find? path with
    | some document => return (.document document, session)
    | none => throw (.notFound path.text, session)
  | .getForUpdate path => do
    session.checked (requireLeaf path)
    match session.find? path with
    | some document => return (.handle ⟨path, document⟩, session)
    | none => throw (.notFound path.text, session)
  | .create path document => session.create surroundings path document
  | .update handle => session.update surroundings.now handle
  | .delete path => do
    session.checked (requireLeaf path)
    match session.delete path surroundings.now true with
    | (some tombstone, session) => return (.document tombstone, session)
    | (none, session) => throw (.notFound path.text, session)
  | .list path options => do
    session.checked (requireNode path)
    return (.documents (session.list path.collection options), session)
  | .count path condition => do
    session.checked (requireNode path)
    let live := (session.holdings.live.collection path.collection).documents.values
    return (.number (live.countP condition.holds), session)
  | .deleteAll paths =>
    let ((latest, paths), session) := session.deleteAll surroundings.now paths
    return (.deleted latest paths, session)
  | .size => return (.number session.holdings.live.count, session)

end DocumentSession
end DocStore
