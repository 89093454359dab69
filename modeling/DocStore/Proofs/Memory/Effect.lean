import DocStore.Memory.Documents

/-!
# What operations do to a session

`Effect` lists what a successful operation can do: it reads and leaves the session as it
is, or it makes one of six kinds of changes.  An operation that fails leaves the session as it
is, too (`eq_of_run_error`).  `effect_of_run` and `eq_of_run_error` are where the definition of
the operations is opened; everything about the changes follows from the cases.
-/

namespace DocStore

/-- Whether an operation only reads. -/
def DocumentOp.isRead : DocumentOp → Bool
  | .latestEpoch _ | .exists _ | .get _ | .getForUpdate _ | .list _ _ | .count _ _ | .size => true
  | .flush | .purge _ | .create _ _ | .update _ | .delete _ | .deleteAll _ => false

namespace DocumentSession

/-- What a successful operation answers and leaves. -/
inductive Effect (session : DocumentSession) (surroundings : Surroundings) :
    DocumentOp → DocumentAnswer → DocumentSession → Prop
  /-- A read changes nothing. -/
  | read (op answer) (reads : op.isRead = true) : Effect session surroundings op answer session
  | flush : Effect session surroundings .flush .done session.flush
  | purge (olderThan) :
    Effect session surroundings (.purge olderThan) (.number (session.purge olderThan).1)
      (session.purge olderThan).2
  /-- A document with an identifier that no live document has is stored. -/
  | created (path : Path) (document : Document) (node : path.isNode = true)
    (named : document.id.isEmpty = false)
    (fresh : session.holdings.live.find? path.collection document.id = none) :
    Effect session surroundings (.create path document)
      (.document (session.store path.collection document surroundings.now).1)
      (session.store path.collection document surroundings.now).2
  /-- A document without an identifier is stored under the next one. -/
  | minted (path : Path) (document named : Document) (counted : DocumentSession)
    (node : path.isNode = true) (unnamed : document.id.isEmpty = true)
    (naming : named = { document with id := surroundings.ids session.minted })
    (counting : counted = { session with minted := session.minted + 1 }) :
    Effect session surroundings (.create path document)
      (.document (counted.store path.collection named surroundings.now).1)
      (counted.store path.collection named surroundings.now).2
  | updated (handle : Handle) (leaf : handle.path.isNode = false) :
    Effect session surroundings (.update handle)
      (.document
        (session.store handle.path.collection handle.addressed.document surroundings.now).1)
      (session.store handle.path.collection handle.addressed.document surroundings.now).2
  | deleted (path : Path) (leaf : path.isNode = false) (tombstone : Document)
    (after : DocumentSession)
    (found : session.delete path surroundings.now true = (some tombstone, after)) :
    Effect session surroundings (.delete path) (.document tombstone) after
  | deletedAll (paths : List Path) :
    Effect session surroundings (.deleteAll paths)
      (.deleted (session.deleteAll surroundings.now paths).1.1
        (session.deleteAll surroundings.now paths).1.2)
      (session.deleteAll surroundings.now paths).2

/-! ## Checks -/

/-- The check of a node path lets only node paths pass. -/
theorem isNode_of_requireNode {path : Path} (passed : requireNode path = .ok ()) :
    path.isNode = true := by
  unfold requireNode at passed
  split at passed
  · assumption
  · cases passed

/-- The check of a leaf path lets only leaf paths pass. -/
theorem isLeaf_of_requireLeaf {path : Path} (passed : requireLeaf path = .ok ()) :
    path.isNode = false := by
  unfold requireLeaf at passed
  split at passed
  · cases passed
  · simpa using ‹¬path.isNode = true›

@[simp] theorem checked_ok (session : DocumentSession) : session.checked (.ok ()) = .ok () := rfl

section

variable {session after : DocumentSession} {check : Except StoreError Unit} {α : Type}
  {next : Unit → Except (StoreError × DocumentSession) α}

/-- What succeeds behind a check passed it. -/
theorem of_checked {result : α} (ok : (session.checked check >>= next) = .ok result) :
    check = .ok () ∧ next () = .ok result := by
  cases check with
  | ok _ => exact ⟨rfl, ok⟩
  | error error => cases ok

/-- What fails behind a check fails in it, which leaves the session as it is, or after it. -/
theorem error_of_checked {error : StoreError}
    (failed : (session.checked check >>= next) = .error (error, after)) :
    (check = .error error ∧ after = session) ∨
      (check = .ok () ∧ next () = .error (error, after)) := by
  cases check with
  | ok _ => exact .inr ⟨rfl, failed⟩
  | error other =>
    cases failed
    exact .inl ⟨rfl, rfl⟩

end

/-! ## Successful operations -/

theorem effect_of_create {session : DocumentSession} {surroundings : Surroundings} {path : Path}
    {document : Document} {answer : DocumentAnswer} {after : DocumentSession}
    (ran : session.create surroundings path document = .ok (answer, after)) :
    Effect session surroundings (.create path document) answer after := by
  obtain ⟨passed, stored⟩ := of_checked ran
  have node := isNode_of_requireNode passed
  by_cases unnamed : document.id.isEmpty = true
  · rw [if_pos unnamed] at stored
    cases stored
    exact .minted path document _ _ node unnamed rfl rfl
  · rw [if_neg unnamed] at stored
    split at stored
    · cases stored
    · rename_i fresh
      cases stored
      exact .created path document node (by simpa using unnamed) (by simpa using fresh)

theorem effect_of_delete {session : DocumentSession} {surroundings : Surroundings} {path : Path}
    {answer : DocumentAnswer} {after : DocumentSession}
    (ran : session.run surroundings (.delete path) = .ok (answer, after)) :
    Effect session surroundings (.delete path) answer after := by
  obtain ⟨passed, deleted⟩ := of_checked ran
  have leaf := isLeaf_of_requireLeaf passed
  split at deleted
  · rename_i tombstone later found
    cases deleted
    exact .deleted path leaf tombstone after found
  · cases deleted

/-- Every successful operation has one of the effects. -/
theorem effect_of_run {session : DocumentSession} {surroundings : Surroundings}
    {op : DocumentOp} {answer : DocumentAnswer} {after : DocumentSession}
    (ran : session.run surroundings op = .ok (answer, after)) :
    Effect session surroundings op answer after := by
  cases op with
  | flush => cases ran; exact .flush
  | purge olderThan => cases ran; exact .purge olderThan
  | deleteAll paths => cases ran; exact .deletedAll paths
  | size => cases ran; exact .read _ _ rfl
  | create path document => exact effect_of_create ran
  | delete path => exact effect_of_delete ran
  | update handle =>
    obtain ⟨passed, updated⟩ := of_checked ran
    cases updated
    exact .updated handle (isLeaf_of_requireLeaf passed)
  | latestEpoch path | list path _ | count path _ =>
    obtain ⟨_, read⟩ := of_checked ran
    cases read
    exact .read _ _ rfl
  | «exists» path =>
    obtain ⟨_, read⟩ := of_checked ran
    cases read
    exact .read _ _ rfl
  | get path | getForUpdate path =>
    obtain ⟨_, read⟩ := of_checked ran
    split at read
    · cases read
      exact .read _ _ rfl
    · cases read

/-! ## Failed operations -/

/-- A deletion that demands a document and finds none makes no change, neither to the holdings nor
to the journals. -/
theorem delete_of_none {session : DocumentSession} {path : Path} (now : Epoch)
    (gone : session.holdings.live.find? path.collection path.documentId = none) :
    session.delete path now true = (none, session) := by
  simp [delete, buryAt, gone]

/-- A deletion that gives no tombstone back found no document. -/
theorem find?_eq_none_of_delete {session : DocumentSession} {path : Path} {now : Epoch}
    (missing : (session.delete path now true).1 = none) :
    session.holdings.live.find? path.collection path.documentId = none := by
  cases found : session.holdings.live.find? path.collection path.documentId with
  | none => rfl
  | some document =>
    obtain ⟨collection, named, inside⟩ := Option.bind_eq_some_iff.1 found
    have current : session.holdings.live.collection path.collection = collection := by
      rw [Shelf.collection, named, Option.getD_some]
    simp [delete, buryAt, found, buryAll, current, Collection.removeAll, Collection.remove?,
      inside] at missing

theorem delete_none {session after : DocumentSession} {path : Path} {now : Epoch}
    (missing : session.delete path now true = (none, after)) : after = session := by
  have gone := find?_eq_none_of_delete (congrArg Prod.fst missing)
  rw [delete_of_none now gone] at missing
  exact (Prod.mk.inj missing).2.symm

/-- An operation that fails leaves the session as it is: the checks come before the changes, and
a deletion that finds no document makes none. -/
theorem eq_of_run_error {session after : DocumentSession} {surroundings : Surroundings}
    {op : DocumentOp} {error : StoreError}
    (failed : session.run surroundings op = .error (error, after)) : after = session := by
  cases op with
  | flush | purge | deleteAll | size => cases failed
  | latestEpoch | list | count | «exists» | update =>
    obtain ⟨_, same⟩ | ⟨_, done⟩ := error_of_checked failed
    · exact same
    · cases done
  | get path | getForUpdate path =>
    obtain ⟨_, same⟩ | ⟨_, missing⟩ := error_of_checked failed
    · exact same
    · split at missing <;> cases missing
      rfl
  | delete path =>
    obtain ⟨_, same⟩ | ⟨_, missing⟩ := error_of_checked failed
    · exact same
    · split at missing
      · cases missing
      · rename_i found
        cases missing
        exact delete_none found
  | create path document =>
    obtain ⟨_, same⟩ | ⟨_, taken⟩ := error_of_checked failed
    · exact same
    · dsimp only at taken
      split at taken
      · cases taken
      · split at taken <;> cases taken
        rfl

end DocumentSession
end DocStore
