import DocStore.Proofs.Memory.Epochs
import DocStore.Proofs.Memory.Isolation

/-!
# Updates

An update stores the document of a handle in the collection of the handle's path, under the
identifier that the document carries by then.  That is the place which the handle was read
from as long as the document has the identifier of the path or none; a document that was given
another identifier takes the place of whatever lies under it, and the path keeps what it had
(`SerialStore.updates_in_place_iff`).
-/

namespace DocStore

/-- An update stores under the identifier of the path if the document has that one or none. -/
theorem Handle.addressed_id_iff (handle : Handle) :
    handle.addressed.document.id = handle.path.documentId ↔
      handle.document.id = "" ∨ handle.document.id = handle.path.documentId := by
  unfold addressed
  cases unnamed : handle.document.id.isEmpty with
  | true => simp [String.isEmpty_iff.1 unnamed]
  | false =>
    have named : handle.document.id ≠ "" := by
      rw [Ne, ← String.isEmpty_iff, unnamed]
      exact Bool.false_ne_true
    simp [named]

namespace DocumentSession

variable (session : DocumentSession) (surroundings : Surroundings)

/-- How an update stores the document of a handle: under the next epoch, and not as a
tombstone. -/
def writtenBack (handle : Handle) : Document :=
  { handle.addressed.document with
    deleted := false
    modified := session.holdings.nextEpoch handle.path.collection surroundings.now }

/-- The outcome of an update: only the place of the stored document changes. -/
theorem update_eq (handle : Handle) (leaf : handle.path.isNode = false) :
    ∃ after, session.run surroundings (.update handle) =
        .ok (.document (session.writtenBack surroundings handle), after) ∧
      session.holdings.Renews after.holdings handle.path.collection
        (session.writtenBack surroundings handle) := by
  let outcome := session.store handle.path.collection handle.addressed.document surroundings.now
  refine ⟨outcome.2, ?_, ?_⟩
  · have stored : outcome.1 = session.writtenBack surroundings handle := store_fst ..
    rw [← stored]
    simp only [run, update, requireLeaf, leaf]
    rfl
  · rw [holdings_store]
    exact Holdings.renews_store _ _ _ rfl

variable {session} in
/-- A live document is read. -/
theorem run_get {path : Path} (leaf : path.isNode = false) {document : Document}
    (found : session.holdings.live.find? path.collection path.documentId = some document) :
    session.run surroundings (.get path) = .ok (.document document, session) := by
  simp only [run, requireLeaf, leaf, find?, found]
  rfl

variable {session} in
/-- A live document is read in order to change it. -/
theorem run_getForUpdate {path : Path} (leaf : path.isNode = false) {document : Document}
    (found : session.holdings.live.find? path.collection path.documentId = some document) :
    session.run surroundings (.getForUpdate path) = .ok (.handle ⟨path, document⟩, session) := by
  simp only [run, requireLeaf, leaf, find?, found]
  rfl

variable {session} in
/-- What is read is live. -/
theorem find?_of_run_get {path : Path} {document : Document} {after : DocumentSession}
    (ran : session.run surroundings (.get path) = .ok (.document document, after)) :
    session.holdings.live.find? path.collection path.documentId = some document := by
  obtain ⟨_, read⟩ := of_checked ran
  split at read
  · rename_i there found
    cases read
    exact found
  · cases read

end DocumentSession

namespace SerialStore

variable {store : SerialStore documentEngine} {client : String} {session : DocumentSession}

theorem find?_of_get {surroundings : Surroundings} {path : Path} {document : Document}
    {after : SerialStore documentEngine}
    (ran : store.run client surroundings (.get path) = .ok (.document document, after)) :
    store.holdings.live.find? path.collection path.documentId = some document := by
  obtain ⟨current, later, found, worked, _⟩ := session_of_run_ok ran
  rw [holdings_of_session found]
  exact DocumentSession.find?_of_run_get surroundings worked

/-- What an update writes is the document of the handle, and it stands in the place of the
handle. -/
structure WritesBack (before after : SerialStore documentEngine) (client : String)
    (surroundings : Surroundings) (handle : Handle) (stored : Document) : Prop where
  /-- It is the handle's document with its new epoch, and no tombstone. -/
  written : stored = { handle.addressed.document with
    deleted := false
    modified := before.holdings.nextEpoch handle.path.collection surroundings.now }
  /-- Every other place, of live documents and of tombstones, holds what it held before. -/
  others : ∀ deleted name id, ¬ (name = handle.path.collection ∧ id = handle.path.documentId) →
    (after.holdings.shelf deleted).find? name id = (before.holdings.shelf deleted).find? name id
  /-- It is read under the path of the handle. -/
  reads : ∀ later, after.run client later (.get handle.path) = .ok (.document stored, after)

/-- An update succeeds and writes the place of its handle and nothing else. -/
def UpdatesInPlace (store : SerialStore documentEngine) (client : String)
    (surroundings : Surroundings) (handle : Handle) : Prop :=
  ∃ stored after, store.run client surroundings (.update handle) = .ok (.document stored, after) ∧
    store.WritesBack after client surroundings handle stored

/-- In every open transaction, an update by a handle of a leaf path writes the place of the
handle and nothing else exactly if the handle's document has no identifier or that of the
path. -/
theorem updates_in_place_iff (moves : List (Move documentEngine))
    (opened : (fresh.play moves).session client = .ok session) (surroundings : Surroundings)
    (handle : Handle) (leaf : handle.path.isNode = false) :
    (fresh.play moves).UpdatesInPlace client surroundings handle ↔
      handle.document.id = "" ∨ handle.document.id = handle.path.documentId := by
  obtain ⟨placed, _⟩ := kept_play moves
  obtain ⟨after, updated, renews⟩ := session.update_eq surroundings handle leaf
  generalize fresh.play moves = store at opened placed ⊢
  have current : store.holdings = session.holdings := holdings_of_session opened
  let written : SerialStore documentEngine := { store with lock := .held client after }
  have worked : store.run client surroundings (.update handle) =
      .ok (.document (session.writtenBack surroundings handle), written) :=
    run_of_ok opened updated
  have member : store.clients.contains client = true := contains_of_session opened
  have reopened : written.session client = .ok after := session_of_lock rfl member
  rw [← handle.addressed_id_iff]
  constructor
  · rintro ⟨stored, later, ran, writesBack⟩
    rw [worked] at ran
    cases ran
    have found := find?_of_get (writesBack.reads surroundings)
    rw [holdings_of_session reopened] at found
    rw [current] at placed
    -- What is read under the path carries the identifier of the path.
    have labelled : (session.writtenBack surroundings handle).id = handle.path.documentId :=
      (placed.renews renews).id_of_live found
    exact labelled
  · intro own
    refine ⟨_, written, worked, ?_, fun deleted name id elsewhere => ?_, fun later => ?_⟩
    · rw [current]
      rfl
    · rw [holdings_of_session reopened, current, renews.places, if_neg]
      rintro ⟨rfl, rfl⟩
      exact elsewhere ⟨rfl, own⟩
    · have live := renews.places false handle.path.collection handle.path.documentId
      rw [if_pos ⟨rfl, own.symm⟩] at live
      exact run_of_ok reopened (DocumentSession.run_get later leaf live)

/-- Beside a tombstone, a document is read, its identifier taken away, its fields changed and
the mark of a tombstone set: the update writes it back to its place. -/
theorem updates_in_place_iff_unnamed :
    let here : Surroundings := ⟨⟨3⟩, fun _ => "x"⟩
    let moves : List (Move documentEngine) :=
      [.begin "c", .run "c" here (.create ⟨"/a/*"⟩ (Document.withId "one")),
        .run "c" here (.create ⟨"/a/*"⟩ (Document.withId "two")),
        .run "c" here (.delete ⟨"/a/two"⟩), .commit "c", .begin "d"]
    let handle : Handle := ⟨⟨"/a/one"⟩, ⟨"", ⟨3⟩, true, [("v", .int 1)]⟩⟩
    handle.path.isNode = false ∧
      ((fresh.play moves).holdings.live.find? "/a" "one").isSome = true ∧
      ((fresh.play moves).holdings.dead.find? "/a" "two").isSome = true ∧
      ∃ session, (fresh.play moves).session "d" = .ok session ∧
        (fresh.play moves).UpdatesInPlace "d" here handle := by
  intro here moves handle
  have isOpen : ((fresh.play moves).session "d").isOk = true := by decide +kernel
  refine ⟨by decide, by decide +kernel, by decide +kernel, ?_⟩
  cases opened : (fresh.play moves).session "d" with
  | error error =>
    rw [opened] at isOpen
    cases isOpen
  | ok session =>
    exact ⟨session, rfl, (updates_in_place_iff moves opened here handle (by decide)).2 (.inl rfl)⟩

/-- A document is read for an update and given the identifier of another live one, which the
update replaces. -/
theorem update_replaces_neighbour :
    let here : Surroundings := ⟨⟨0⟩, fun _ => "z"⟩
    let numbered (id : String) (number : Int) : Document := ⟨id, ⟨0⟩, false, [("v", .int number)]⟩
    let store := fresh.play
      [.begin "c", .run "c" here (.create ⟨"/a/*"⟩ (numbered "x" 1)),
        .run "c" here (.create ⟨"/a/*"⟩ (numbered "y" 2))]
    ∃ read edited, (store.run "c" here (.getForUpdate ⟨"/a/x"⟩)).map (·.1) =
        .ok (.handle ⟨⟨"/a/x"⟩, read⟩) ∧
      read.set "id" (.str "y") = .ok edited ∧
      ¬ store.UpdatesInPlace "c" here ⟨⟨"/a/x"⟩, edited⟩ := by
  intro here numbered store
  let path : Path := ⟨"/a/x"⟩
  have isOpen : (store.session "c").isOk = true := by decide +kernel
  have isLive : (store.holdings.live.find? path.collection path.documentId).isSome = true := by
    decide +kernel
  have next : store.holdings.nextEpoch path.collection here.now = ⟨3⟩ := by decide +kernel
  have neighbour : (store.holdings.live.find? path.collection "y").map (·.modified) =
      some ⟨2⟩ := by decide +kernel
  obtain ⟨read, found⟩ := Option.isSome_iff_exists.1 isLive
  cases opened : store.session "c" with
  | error error =>
    rw [opened] at isOpen
    cases isOpen
  | ok session =>
    have current := holdings_of_session opened
    rw [current] at found next
    let edited : Handle := ⟨path, { read with id := "y" }⟩
    have leaf : path.isNode = false := by decide
    have answered : store.run "c" here (.getForUpdate path) =
        .ok (.handle ⟨path, read⟩, { store with lock := .held "c" session }) :=
      run_of_ok opened (DocumentSession.run_getForUpdate here leaf found)
    refine ⟨read, edited.document, congrArg (Except.map (·.1)) answered, rfl, ?_⟩
    rintro ⟨stored, after, ran, writesBack⟩
    obtain ⟨later, updated, renews⟩ := session.update_eq here edited leaf
    let written : SerialStore documentEngine := { store with lock := .held "c" later }
    have worked : store.run "c" here (.update edited) =
        .ok (.document (session.writtenBack here edited), written) := run_of_ok opened updated
    have member : store.clients.contains "c" = true := contains_of_session opened
    have reopened : written.session "c" = .ok later := session_of_lock rfl member
    have result : after = written := (Prod.mk.inj (Except.ok.inj (ran.symm.trans worked))).2
    have elsewhere : ¬(path.collection = path.collection ∧ "y" = path.documentId) := by decide
    have kept := writesBack.others false path.collection "y" elsewhere
    have replaced : later.holdings.live.find? path.collection "y" =
        some (session.writtenBack here edited) :=
      (renews.places false path.collection "y").trans (if_pos ⟨rfl, rfl⟩)
    rw [result, holdings_of_session reopened] at kept
    -- The neighbour has got the next epoch.
    have renewed := congrArg (Option.map (·.modified)) (replaced.symm.trans kept)
    have renumbered := renewed.trans neighbour
    cases next.symm.trans (Option.some.inj renumbered)

end SerialStore
end DocStore
