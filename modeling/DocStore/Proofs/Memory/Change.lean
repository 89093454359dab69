import DocStore.Proofs.Dict
import DocStore.Proofs.Memory.Effect
import DocStore.Proofs.Memory.Stamp

/-!
# Operations as elementary changes

Apart from a flush, whatever an operation does to the holdings is a sequence of three
elementary changes: a document is stored, a live document is buried, or a collection of
tombstones is swept.  The first two give out an epoch.  `change_of_run` says so for every
operation, and that the stamps of the operation are those of its changes.
-/

namespace DocStore

namespace Shelf

/-- Gives a collection its content; an empty one is taken away. -/
def place (shelf : Shelf) (name : String) (collection : Collection) : Shelf :=
  if collection.isEmpty then shelf.erase name else shelf.insert name collection

/-- Takes a document of a collection away, if there is one. -/
def unlink (shelf : Shelf) (name id : String) : Shelf :=
  match Dict.find? shelf name with
  | none => shelf
  | some collection =>
    if collection.documents.contains id then
      shelf.place name { collection with documents := collection.documents.erase id }
    else shelf

/-- Keeps a document in a collection as it is. -/
def lay (name : String) (shelf : Shelf) (document : Document) : Shelf :=
  shelf.place name ((shelf.collection name).keep document)

theorem find?_eq (shelf : Shelf) (name id : String) :
    shelf.find? name id = (shelf.collection name).documents.find? id := by
  unfold find? collection
  cases Dict.find? shelf name <;> rfl

end Shelf

namespace Holdings

/-- Stores a live document and takes the tombstone of its identifier away. -/
def store (holdings : Holdings) (name : String) (document : Document) (now : Epoch) : Holdings :=
  ⟨holdings.live.insert name ((holdings.live.collection name).put document now).2,
    holdings.dead.unlink name document.id⟩

/-- Turns a live document into a tombstone. -/
def bury (holdings : Holdings) (name id : String) (now : Epoch) : Holdings :=
  match (holdings.live.collection name).remove? id now with
  | none => holdings
  | some (tombstone, smaller) =>
    ⟨holdings.live.insert name smaller, holdings.dead.lay name tombstone⟩

/-- Takes away the tombstones of a collection that a purge does not leave. -/
def sweep (olderThan : Epoch) (holdings : Holdings) (name : String) : Holdings :=
  let collection := holdings.dead.collection name
  { holdings with
    dead := holdings.dead.place name { collection with
      documents := collection.documents.filter fun _ tombstone =>
        DocumentSession.survives olderThan tombstone } }

/-- The epoch that a collection gives out next. -/
def nextEpoch (holdings : Holdings) (name : String) (now : Epoch) : Epoch :=
  now.after (holdings.live.collection name).latest

theorem bury_eq {holdings : Holdings} {name id : String} {document : Document} (now : Epoch)
    (found : holdings.live.find? name id = some document) :
    holdings.bury name id now =
      ⟨holdings.live.insert name
          ⟨(holdings.live.collection name).documents.erase id, holdings.nextEpoch name now⟩,
        holdings.dead.lay name
          { document with modified := holdings.nextEpoch name now, deleted := true }⟩ := by
  rw [Shelf.find?_eq] at found
  simp [bury, Collection.remove?, found, nextEpoch]

/-- Burying what is not live changes nothing. -/
theorem bury_of_none {holdings : Holdings} {name id : String} (now : Epoch)
    (missing : holdings.live.find? name id = none) : holdings.bury name id now = holdings := by
  rw [Shelf.find?_eq] at missing
  simp [bury, Collection.remove?, missing]

/-- Burying what can be taken out of a collection. -/
theorem bury_of_remove? {holdings : Holdings} {name id : String} {now : Epoch}
    {collection smaller : Collection} {tombstone : Document}
    (present : Dict.find? holdings.live name = some collection)
    (removed : collection.remove? id now = some (tombstone, smaller)) :
    holdings.bury name id now =
      ⟨holdings.live.insert name smaller, holdings.dead.lay name tombstone⟩ := by
  have current : holdings.live.collection name = collection := by
    simp [Shelf.collection, present]
  simp [bury, current, removed]

/-- The elementary changes with their stamps, while the clock reads `now`. -/
inductive Change (now : Epoch) : Holdings → List Stamp → Holdings → Prop
  /-- A document that is no tombstone is stored. -/
  | store (holdings name document) (revived : document.deleted = false) :
    Change now holdings [⟨name, holdings.nextEpoch name now⟩] (holdings.store name document now)
  /-- A live document is buried. -/
  | bury (holdings name id document) (found : holdings.live.find? name id = some document) :
    Change now holdings [⟨name, holdings.nextEpoch name now⟩] (holdings.bury name id now)
  /-- A collection of tombstones is swept. -/
  | sweep (holdings olderThan name) : Change now holdings [] (holdings.sweep olderThan name)

/-- Elementary changes one after the other, with all of their stamps. -/
inductive Changes (now : Epoch) : Holdings → List Stamp → Holdings → Prop
  | refl (holdings) : Changes now holdings [] holdings
  | cons {holdings between after earlier later}
    (first : Change now holdings earlier between) (rest : Changes now between later after) :
    Changes now holdings (earlier ++ later) after

theorem Change.single {now : Epoch} {holdings after : Holdings} {stamps : List Stamp}
    (change : Change now holdings stamps after) : Changes now holdings stamps after := by
  simpa using Changes.cons change (Changes.refl after)

theorem Changes.trans {now : Epoch} {holdings between after : Holdings}
    {earlier later : List Stamp} (first : Changes now holdings earlier between)
    (second : Changes now between later after) : Changes now holdings (earlier ++ later) after := by
  induction first with
  | refl => exact second
  | cons change rest ih =>
    rw [List.append_assoc]
    exact .cons change (ih second)

/-- Changes never take a live collection away. -/
theorem Changes.live_isSome {now : Epoch} {holdings after : Holdings} {stamps : List Stamp}
    (changes : Changes now holdings stamps after) {name : String}
    (present : (Dict.find? holdings.live name).isSome) : (Dict.find? after.live name).isSome := by
  induction changes with
  | refl => exact present
  | cons change rest ih =>
    refine ih ?_
    cases change with
    | store other document =>
      simp only [store, Dict.find?_insert]
      split <;> simp [present]
    | bury other id document found =>
      rw [bury_eq now found]
      simp only [Dict.find?_insert]
      split <;> simp [present]
    | sweep => exact present

end Holdings

namespace DocumentSession

open Holdings (Change Changes)

/-! ## Sessions and their holdings -/

@[simp] theorem holdings_touchLive (session : DocumentSession) (name : String) :
    (session.touchLive name).holdings = session.holdings := by
  unfold touchLive
  split <;> rfl

@[simp] theorem holdings_touchDead (session : DocumentSession) (name : String) :
    (session.touchDead name).holdings = session.holdings := by
  unfold touchDead
  split <;> rfl

@[simp] theorem holdings_setLive (session : DocumentSession) (name : String)
    (collection : Collection) : (session.setLive name collection).holdings =
      { session.holdings with live := session.holdings.live.insert name collection } := rfl

@[simp] theorem holdings_setDead (session : DocumentSession) (name : String)
    (collection : Collection) : (session.setDead name collection).holdings =
      { session.holdings with dead := session.holdings.dead.place name collection } := rfl

@[simp] theorem holdings_unlinkDead (session : DocumentSession) (name id : String) :
    (session.unlinkDead name id).holdings =
      { session.holdings with dead := session.holdings.dead.unlink name id } := by
  unfold unlinkDead Shelf.unlink
  cases present : Dict.find? session.holdings.dead name with
  | none => rfl
  | some collection =>
    by_cases member : collection.documents.contains id <;> simp [member]

theorem holdings_store (session : DocumentSession) (name : String) (document : Document)
    (now : Epoch) : (session.store name document now).2.holdings =
      session.holdings.store name { document with deleted := false } now := by
  simp [store, putLive, Holdings.store]

@[simp] theorem holdings_bury (session : DocumentSession) (name : String) (tombstone : Document) :
    (bury name session tombstone).holdings =
      { session.holdings with dead := session.holdings.dead.lay name tombstone } := by
  simp [bury, Shelf.lay]

theorem holdings_foldl_bury (session : DocumentSession) (name : String)
    (tombstones : List Document) : (tombstones.foldl (bury name) session).holdings =
      { session.holdings with dead := tombstones.foldl (Shelf.lay name) session.holdings.dead } := by
  induction tombstones generalizing session with
  | nil => rfl
  | cons tombstone rest ih => simp [ih]

/-! ## Changes of the operations -/

theorem change_of_store (session : DocumentSession) (name : String) (document : Document)
    (now : Epoch) : Changes now session.holdings
      [⟨name, (session.store name document now).1.modified⟩]
      (session.store name document now).2.holdings := by
  rw [holdings_store]
  have stamped : (session.store name document now).1.modified =
      session.holdings.nextEpoch name now := by
    simp [store, putLive, Collection.put, Holdings.nextEpoch]
  rw [stamped]
  exact (Change.store _ name _ rfl).single

/-- Burying documents of a live collection one by one: taking them all out first and
laying the tombstones afterwards comes to the same. -/
theorem change_of_removeAll (now : Epoch) (name : String) (ids : List String)
    {holdings : Holdings} {collection : Collection}
    (present : Dict.find? holdings.live name = some collection) :
    Changes now holdings
      ((collection.removeAll ids now).1.map fun tombstone => ⟨name, tombstone.modified⟩)
      ⟨holdings.live.insert name (collection.removeAll ids now).2,
        (collection.removeAll ids now).1.foldl (Shelf.lay name) holdings.dead⟩ := by
  induction ids generalizing holdings collection with
  | nil =>
    simp only [Collection.removeAll, Dict.insert_eq_self present]
    exact .refl holdings
  | cons id rest ih =>
    unfold Collection.removeAll
    cases removed : collection.remove? id now with
    | none => exact ih present
    | some outcome =>
      obtain ⟨tombstone, smaller⟩ := outcome
      have current : holdings.live.collection name = collection := by
        simp [Shelf.collection, present]
      obtain ⟨document, found, outcomeIs⟩ := Option.map_eq_some_iff.1 removed
      have live : holdings.live.find? name id = some document := by
        simp [Shelf.find?, present, found]
      have buried := Holdings.bury_of_remove? present removed
      have stamped : tombstone.modified = holdings.nextEpoch name now := by
        rw [Holdings.nextEpoch, current]
        cases outcomeIs
        rfl
      have first : Change now holdings [⟨name, holdings.nextEpoch name now⟩]
          (holdings.bury name id now) := .bury holdings name id document live
      rw [buried, ← stamped] at first
      have left : Dict.find? (holdings.live.insert name smaller) name = some smaller := by
        simp [Dict.find?_insert]
      have others := @ih ⟨holdings.live.insert name smaller, holdings.dead.lay name tombstone⟩
        smaller left
      rw [Dict.insert_insert] at others
      exact .cons first others

theorem change_of_buryAll (session : DocumentSession) {name : String} (ids : List String)
    (now : Epoch) (present : (Dict.find? session.holdings.live name).isSome) :
    Changes now session.holdings (session.buryStamps name ids now)
      (session.buryAll name ids now).2.holdings := by
  obtain ⟨collection, found⟩ := Option.isSome_iff_exists.1 present
  have current : session.holdings.live.collection name = collection := by
    simp [Shelf.collection, found]
  have changes := change_of_removeAll now name ids found
  simpa [buryStamps, buryAll, current, holdings_foldl_bury] using changes

theorem change_of_buryAt (session : DocumentSession) (path : Path) (now : Epoch) :
    Changes now session.holdings (session.buryAtStamps path now)
      (session.buryAt path now).2.holdings := by
  unfold buryAt buryAtStamps
  by_cases found : (session.holdings.live.find? path.collection path.documentId).isSome
  · rw [if_pos found, if_pos found]
    refine change_of_buryAll session [path.documentId] now ?_
    obtain ⟨document, inShelf⟩ := Option.isSome_iff_exists.1 found
    obtain ⟨collection, present, _⟩ := Option.bind_eq_some_iff.1 inShelf
    rw [present]
    rfl
  · rw [if_neg found, if_neg found]
    exact .refl _

theorem change_of_buryCollections (now : Epoch) (names : List String)
    (session : DocumentSession)
    (present : ∀ name ∈ names, (Dict.find? session.holdings.live name).isSome) :
    Changes now session.holdings (buryCollectionStamps now session names)
      (names.foldl (buryCollection now) session).holdings := by
  induction names generalizing session with
  | nil => exact .refl _
  | cons name rest ih =>
    have first := change_of_buryAll session
      (session.holdings.live.collection name).documents.keys now (present name List.mem_cons_self)
    refine first.trans (ih _ fun other member => ?_)
    exact first.live_isSome (present other (List.mem_cons_of_mem _ member))

theorem live_of_mem_collectionsBelow {session : DocumentSession} {path : Path} {name : String}
    (member : name ∈ session.collectionsBelow path) :
    (Dict.find? session.holdings.live name).isSome := by
  obtain ⟨entry, kept, rfl⟩ := List.mem_map.1 member
  have inEntries : entry ∈ session.holdings.live.entries := (List.mem_filter.1 kept).1
  rw [(Dict.mem_entries_iff _ entry.1 entry.2).1 inEntries]
  rfl

theorem change_of_delete (session : DocumentSession) (path : Path) (now : Epoch)
    (demanded : Bool) : Changes now session.holdings (session.deleteStamps path now demanded)
      (session.delete path now demanded).2.holdings := by
  have first := change_of_buryAt session path now
  simp only [delete, deleteStamps]
  split
  · simpa using first
  · exact first.trans (change_of_buryCollections now _ _ fun name member =>
      live_of_mem_collectionsBelow member)

theorem change_of_deleteAll (now : Epoch) (paths : List Path) (session : DocumentSession) :
    Changes now session.holdings (session.deleteAllStamps now paths)
      (session.deleteAll now paths).2.holdings := by
  induction paths generalizing session with
  | nil => exact .refl _
  | cons path rest ih =>
    simp only [deleteAll, deleteAllStamps]
    split
    · exact ih session
    · have all := (change_of_delete session path now false).trans (ih _)
      split <;> exact all

theorem holdings_purgeCollection (olderThan : Epoch) (progress : Nat × DocumentSession)
    (name : String) : (purgeCollection olderThan progress name).2.holdings =
      progress.2.holdings.sweep olderThan name := by
  simp [purgeCollection, Holdings.sweep]

theorem change_of_purge (session : DocumentSession) (olderThan now : Epoch) :
    Changes now session.holdings [] (session.purge olderThan).2.holdings := by
  suffices general : ∀ (names : List String) (progress : Nat × DocumentSession),
      Changes now progress.2.holdings []
        (names.foldl (purgeCollection olderThan) progress).2.holdings from
    general _ (0, session)
  intro names
  induction names with
  | nil => exact fun _ => .refl _
  | cons name rest ih =>
    intro progress
    refine .cons (Change.sweep _ olderThan name) ?_
    rw [← holdings_purgeCollection]
    exact ih _

theorem stamps_of_isRead (session : DocumentSession) (surroundings : Surroundings)
    {op : DocumentOp} (reads : op.isRead = true) : session.stamps surroundings op = [] := by
  cases op with
  | flush | purge _ | create _ _ | update _ | delete _ | deleteAll _ => cases reads
  | latestEpoch _ | «exists» _ | get _ | getForUpdate _ | list _ _ | count _ _ | size => rfl

/-- An operation that fails gives no epoch out. -/
theorem stamps_of_run_error {session after : DocumentSession} {surroundings : Surroundings}
    {op : DocumentOp} {error : StoreError}
    (failed : session.run surroundings op = .error (error, after)) :
    session.stamps surroundings op = [] := by
  cases op with
  | flush | purge | deleteAll | size => cases failed
  | latestEpoch | «exists» | get | getForUpdate | list | count => rfl
  | create path document =>
    have refused : session.create surroundings path document = .error (error, after) := failed
    simp only [stamps, refused]
  | update handle =>
    have refused : session.update surroundings.now handle = .error (error, after) := failed
    simp only [stamps, refused]
  | delete path =>
    cases node : path.isNode with
    | true => simp [stamps, node]
    | false =>
      obtain ⟨refused, _⟩ | ⟨_, missing⟩ := error_of_checked failed
      · simp [requireLeaf, node] at refused
      · split at missing
        · cases missing
        · rename_i found
          have gone := find?_eq_none_of_delete (congrArg Prod.fst found)
          simp [stamps, deleteStamps, buryAt, buryAtStamps, gone]

/-- Whatever an operation other than a flush does to the holdings is a sequence of
elementary changes, and the stamps of the operation are theirs. -/
theorem change_of_run {session : DocumentSession} {surroundings : Surroundings}
    {op : DocumentOp} {answer : DocumentAnswer} {after : DocumentSession}
    (ran : session.run surroundings op = .ok (answer, after)) (changes : op ≠ .flush) :
    Changes surroundings.now session.holdings (session.stamps surroundings op)
      after.holdings := by
  cases effect_of_run ran with
  | read _ _ reads =>
    rw [stamps_of_isRead session surroundings reads]
    exact .refl _
  | flush => exact absurd rfl changes
  | purge olderThan => exact change_of_purge session olderThan surroundings.now
  | created path document =>
    have stored : session.create surroundings path document =
      .ok (.document (session.store path.collection document surroundings.now).1,
        (session.store path.collection document surroundings.now).2) := ran
    simp only [stamps, stored]
    exact change_of_store session path.collection document surroundings.now
  | minted path document named counted _ _ _ counting =>
    have stored : session.create surroundings path document =
      .ok (.document (counted.store path.collection named surroundings.now).1,
        (counted.store path.collection named surroundings.now).2) := ran
    have same : session.holdings = counted.holdings := by rw [counting]
    simp only [stamps, stored, same]
    exact change_of_store counted path.collection named surroundings.now
  | updated handle =>
    have stored : session.update surroundings.now handle =
      .ok (.document (session.store handle.path.collection handle.addressed.document
          surroundings.now).1,
        (session.store handle.path.collection handle.addressed.document
          surroundings.now).2) := ran
    simp only [stamps, stored]
    exact change_of_store session _ _ surroundings.now
  | deleted path leaf tombstone _ found =>
    have deletion := change_of_delete session path surroundings.now true
    rw [found] at deletion
    simpa [stamps, leaf] using deletion
  | deletedAll paths => exact change_of_deleteAll surroundings.now paths session

/-- An operation that succeeds or fails changes the holdings so, too. -/
theorem changes_run (session : DocumentSession) (surroundings : Surroundings) {op : DocumentOp}
    (changes : op ≠ .flush) :
    Changes surroundings.now session.holdings (session.stamps surroundings op)
      (Outcome.state (session.run surroundings op)).holdings := by
  cases ran : session.run surroundings op with
  | ok outcome => exact change_of_run ran changes
  | error outcome =>
    rw [stamps_of_run_error ran, Outcome.state, eq_of_run_error ran]
    exact .refl _

end DocumentSession
end DocStore
