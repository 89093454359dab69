import DocStore.Proofs.Memory.Creation
import DocStore.Proofs.Memory.Deletion
import DocStore.Proofs.Memory.Updating

/-!
# Documents under their paths

A document is asked for under a leaf path, which is split at its last slash.  Identifiers are
stored as they come: with a slash in the identifier the path is split inside of it, and with an
asterisk at its end the path is a node path.  Every other identifier gives the document a path
under which it is found, read and deleted, and these two kinds give it none
(`SerialStore.created_answers_iff`).
-/

namespace DocStore

namespace Path

/-- Whether an identifier can stand at the end of a leaf path: it has no slash, and no asterisk
at its end. -/
def EndsLeaf (id : String) : Prop := '/' ∉ id.toList ∧ id.toList.getLast? ≠ some '*'

instance (id : String) : Decidable (EndsLeaf id) :=
  inferInstanceAs (Decidable (_ ∧ _))

/-- A leaf path ends in an identifier that can stand there. -/
theorem endsLeaf_documentId {path : Path} (leaf : path.isNode = false) :
    EndsLeaf path.documentId := by
  by_cases slashed : path.Slashed
  · obtain ⟨before, after, text, last⟩ := exists_last slashed
    rw [EndsLeaf, toList_documentId text last]
    refine ⟨last, fun starred => ?_⟩
    rw [(isNode_iff_of_slash text).2 starred] at leaf
    cases leaf
  · -- A path without a slash ends in the empty identifier.
    have nameless : path.documentId = "" := by
      rw [documentId, split, splitAtLast_of_not_mem slashed]
    rw [nameless]
    decide

theorem toList_node (collection : String) :
    (collection ++ "/*").toList = collection.toList ++ '/' :: ['*'] := by
  simp

theorem collection_node (collection : String) :
    (⟨collection ++ "/*"⟩ : Path).collection = collection :=
  String.toList_inj.1 (toList_collection (toList_node collection) (by decide))

/-- The path of an identifier in the collection of a node path. -/
theorem withDocumentId_node (collection id : String) :
    (⟨collection ++ "/*"⟩ : Path).withDocumentId id = under collection id := by
  rw [withDocumentId, toList_node, splitAtLast_append '/' _ (by decide)]
  simp [under]

/-- The path of an identifier in a collection is a leaf that is split between the two. -/
theorem leaf_under (collection : String) {id : String} (ends : EndsLeaf id) :
    (under collection id).isNode = false ∧ (under collection id).collection = collection ∧
      (under collection id).documentId = id := by
  refine ⟨?_, collection_under collection ends.1, documentId_under collection ends.1⟩
  rw [← Bool.not_eq_true, isNode_iff_of_slash (toList_under collection id)]
  exact ends.2

end Path

namespace DocumentSession

variable {session after : DocumentSession} {surroundings : Surroundings} {path : Path}

/-- A document that is created is live in the collection of its path. -/
theorem find?_of_run_create {document stored : Document}
    (ran : session.run surroundings (.create path document) = .ok (.document stored, after)) :
    after.holdings.live.find? path.collection stored.id = some stored := by
  cases effect_of_run ran with
  | read op answer reads => cases reads
  | created path document node named fresh =>
    rw [store_fst, holdings_store, Holdings.find?_live_store, if_pos ⟨rfl, rfl⟩]
  | minted path document named counted node unnamed naming counting =>
    rw [store_fst, holdings_store, Holdings.find?_live_store, if_pos ⟨rfl, rfl⟩]

/-- A live document is found. -/
theorem run_exists (surroundings : Surroundings) (leaf : path.isNode = false)
    (isLive : (session.find? path).isSome = true) :
    session.run surroundings (.exists path) = .ok (.truth true, session) := by
  simp only [run, requireLeaf, leaf, isLive]
  rfl

end DocumentSession

namespace SerialStore

variable {store after : SerialStore documentEngine} {client : String} {session : DocumentSession}
  {surroundings : Surroundings} {path : Path} {document stored : Document}

/-- A document answers under a path: it is found there, it is what is read, for a change too,
and it can be deleted. -/
structure Answers (store : SerialStore documentEngine) (client : String) (path : Path)
    (document : Document) : Prop where
  found : ∀ later, store.run client later (.exists path) = .ok (.truth true, store)
  read : ∀ later, store.run client later (.get path) = .ok (.document document, store)
  readForUpdate : ∀ later,
    store.run client later (.getForUpdate path) = .ok (.handle ⟨path, document⟩, store)
  deleted : ∀ later, ∃ tombstone final,
    store.run client later (.delete path) = .ok (.document tombstone, final)

/-- A live document answers under a leaf path that is split into its collection and its
identifier. -/
theorem answers_of_live (opened : store.session client = .ok session)
    (leaf : path.isNode = false)
    (live : store.holdings.live.find? path.collection path.documentId = some document) :
    store.Answers client path document := by
  rw [holdings_of_session opened] at live
  have isLive : (session.find? path).isSome = true := Option.isSome_of_mem live
  -- A read gives the session back, and with it the store.
  have unchanged {op : DocumentOp} {answer : DocumentAnswer} {later : Surroundings}
      (ran : session.run later op = .ok (answer, session)) :
      store.run client later op = .ok (answer, store) :=
    (run_of_ok opened ran).trans (by rw [with_lock_of_session opened])
  refine ⟨fun later => unchanged ?_, fun later => unchanged ?_, fun later => unchanged ?_,
    fun later => ?_⟩
  · exact DocumentSession.run_exists later leaf isLive
  · exact DocumentSession.run_get later leaf live
  · exact DocumentSession.run_getForUpdate later leaf live
  · obtain ⟨tombstone, _, ran⟩ := DocumentSession.run_delete_of_live later leaf isLive
    exact ⟨tombstone, _, run_of_ok opened ran⟩

/-- What is read under a path carries an identifier that can stand at the end of a leaf path. -/
theorem endsLeaf_of_answers (placed : store.holdings.Placed)
    (answers : store.Answers client path document) : Path.EndsLeaf document.id := by
  let here : Surroundings := ⟨Epoch.zero, fun _ => ""⟩
  have read := answers.read here
  have labelled : document.id = path.documentId := placed.id_of_live (find?_of_get read)
  obtain ⟨session, later, _, worked, _⟩ := session_of_run_ok read
  have ran : DocumentSession.run session here (.get path) = .ok (.document document, later) :=
    worked
  have leaf := DocumentSession.isLeaf_of_requireLeaf (DocumentSession.of_checked ran).1
  rw [labelled]
  exact Path.endsLeaf_documentId leaf

/-- In every state that clients can bring the store into, a document that is created in a
collection is live there.  It answers under the path of its identifier exactly if the identifier
can stand at the end of a leaf path; if it cannot, the document answers under no path at all. -/
theorem created_answers_iff (moves : List (Move documentEngine)) {collection : String}
    (created : (fresh.play moves).run client surroundings
      (.create ⟨collection ++ "/*"⟩ document) = .ok (.document stored, after)) :
    after.holdings.live.find? collection stored.id = some stored ∧
      (after.Answers client ((⟨collection ++ "/*"⟩ : Path).withDocumentId stored.id) stored ↔
        Path.EndsLeaf stored.id) ∧
      ((∃ path, after.Answers client path stored) ↔ Path.EndsLeaf stored.id) := by
  obtain ⟨session, later, opened, worked, rfl⟩ := session_of_run_ok created
  have ran : DocumentSession.run session surroundings (.create ⟨collection ++ "/*"⟩ document) =
      .ok (.document stored, later) := worked
  have reopened := session_with_lock opened later
  have current := holdings_of_session reopened
  have live := DocumentSession.find?_of_run_create ran
  have placed : (DocumentSession.holdings later).Placed := by
    rw [← holdings_play_run opened ran]
    exact (kept_play _).1
  rw [Path.collection_node] at live
  rw [Path.withDocumentId_node]
  rw [← current] at live placed
  have sufficient (ends : Path.EndsLeaf stored.id) :
      SerialStore.Answers { fresh.play moves with lock := .held client later } client
        (Path.under collection stored.id) stored := by
    obtain ⟨leaf, sameCollection, sameId⟩ := Path.leaf_under collection ends
    refine answers_of_live reopened leaf ?_
    rw [sameCollection, sameId, live]
  refine ⟨live, ⟨endsLeaf_of_answers placed, sufficient⟩, ?_, fun ends => ⟨_, sufficient ends⟩⟩
  rintro ⟨path, answers⟩
  exact endsLeaf_of_answers placed answers

/-- The identifier of a tombstone, given to a new document of a later transaction, with an
asterisk that is not at its end. -/
theorem created_answers_iff_revived :
    let here : Surroundings := ⟨⟨7⟩, fun _ => ""⟩
    let moves : List (Move documentEngine) :=
      [.begin "c", .run "c" here (.create ⟨"/a/*"⟩ (Document.withId "é.*b")),
        .run "c" here (.delete ⟨"/a/é.*b"⟩), .commit "c", .begin "d"]
    ∃ stored after, (fresh.play moves).run "d" here
        (.create ⟨"/a" ++ "/*"⟩ (Document.withId "é.*b")) = .ok (.document stored, after) ∧
      after.Answers "d" ((⟨"/a" ++ "/*"⟩ : Path).withDocumentId stored.id) stored := by
  intro here moves
  have isOpen : ((fresh.play moves).session "d").isOk = true := by decide +kernel
  have free : ((fresh.play moves).holdings.live.find? "/a" "é.*b").isNone = true := by
    decide +kernel
  cases opened : (fresh.play moves).session "d" with
  | error error =>
    rw [opened] at isOpen
    cases isOpen
  | ok session =>
    obtain ⟨stored, after, created, named⟩ := run_create_of_free opened here
      (by decide : (⟨"/a" ++ "/*"⟩ : Path).isNode = true)
      (by decide : (Document.withId "é.*b").id.isEmpty = false) (Option.isNone_iff_eq_none.1 free)
    have ends : Path.EndsLeaf stored.id := by
      rw [named]
      decide
    exact ⟨stored, after, created, ((created_answers_iff moves created).2.1).2 ends⟩

/-- A document with a slash in its identifier: it is created, counted and listed, and can be
neither read nor deleted. -/
theorem created_never_read :
    let here : Surroundings := ⟨⟨0⟩, fun _ => ""⟩
    let creation : DocumentOp := .create ⟨"/a/*"⟩ (Document.withId "x/y")
    let store := fresh.play [.begin "c", .run "c" here creation]
    let path : Path := (⟨"/a/*"⟩ : Path).withDocumentId "x/y"
    (((fresh.play [.begin "c"]).run "c" here creation).isOk = true ∧
      store.holdings.live.count = 1 ∧ (store.holdings.live.find? "/a" "x/y").isSome = true ∧
      (store.run "c" here (.get path)).isOk = false ∧
      (store.run "c" here (.getForUpdate path)).isOk = false ∧
      (store.run "c" here (.delete path)).isOk = false) ∧
      ∀ document, ¬ store.Answers "c" path document := by
  intro here creation store path
  have refused : (store.run "c" here (.get path)).isOk = false := by decide +kernel
  refine ⟨by decide +kernel, fun document answers => ?_⟩
  rw [answers.read here] at refused
  cases refused

end SerialStore
end DocStore
