import DocStore.Proofs.Memory.Change
import DocStore.Proofs.Memory.GrantEdits
import DocStore.Proofs.Memory.Rollback
import DocStore.Proofs.Replay

/-!
# Isolation of transactions in memory

What an operation on documents answers and makes depends on the documents and tombstones, on
the clock and on the identifier that is handed out next, but not on the journals of the
session: sessions with the same holdings go on alike (`DocumentSession.run_congr`).  With the
laws of undoing this makes the transactions of a store of documents serial, and those of a
store of grants too.
-/

namespace DocStore

namespace DocumentSession

variable {left right : DocumentSession}

/-- The same outcome from two sessions, as far as holdings go. -/
def Alike {α : Type} (first second : α × DocumentSession) : Prop :=
  first.1 = second.1 ∧ first.2.holdings = second.2.holdings

/-! ## Changes -/

theorem store_fst (session : DocumentSession) (name : String) (document : Document)
    (now : Epoch) : (session.store name document now).1 =
      { document with deleted := false, modified := session.holdings.nextEpoch name now } := by
  simp [store, putLive, Collection.put, Holdings.nextEpoch]

theorem store_congr (same : left.holdings = right.holdings) (name : String)
    (document : Document) (now : Epoch) :
    Alike (left.store name document now) (right.store name document now) := by
  refine ⟨?_, ?_⟩
  · rw [store_fst, store_fst, same]
  · rw [holdings_store, holdings_store, same]

theorem buryAll_congr (same : left.holdings = right.holdings) (name : String)
    (ids : List String) (now : Epoch) :
    Alike (left.buryAll name ids now) (right.buryAll name ids now) := by
  simp [Alike, buryAll, holdings_foldl_bury, same]

theorem buryCollections_congr (same : left.holdings = right.holdings) (names : List String)
    (now : Epoch) : (names.foldl (buryCollection now) left).holdings =
      (names.foldl (buryCollection now) right).holdings := by
  induction names generalizing left right with
  | nil => exact same
  | cons name rest ih =>
    refine ih ?_
    unfold buryCollection
    rw [same]
    exact (buryAll_congr same name _ now).2

theorem buryBelow_congr (same : left.holdings = right.holdings) (path : Path) (now : Epoch) :
    (left.buryBelow path now).holdings = (right.buryBelow path now).holdings := by
  have names : left.collectionsBelow path = right.collectionsBelow path := by
    rw [collectionsBelow, collectionsBelow, same]
  rw [buryBelow, buryBelow, names]
  exact buryCollections_congr same _ now

theorem buryAt_congr (same : left.holdings = right.holdings) (path : Path) (now : Epoch) :
    Alike (left.buryAt path now) (right.buryAt path now) := by
  unfold buryAt
  rw [same]
  split
  · have buried := buryAll_congr same path.collection [path.documentId] now
    exact ⟨congrArg List.head? buried.1, buried.2⟩
  · exact ⟨rfl, same⟩

theorem delete_congr (same : left.holdings = right.holdings) (path : Path) (now : Epoch)
    (demanded : Bool) :
    Alike (left.delete path now demanded) (right.delete path now demanded) := by
  have buried := buryAt_congr same path now
  simp only [delete, buried.1]
  split
  · exact ⟨rfl, buried.2⟩
  · exact ⟨rfl, buryBelow_congr buried.2 path now⟩

theorem deleteAll_congr (same : left.holdings = right.holdings) (now : Epoch)
    (paths : List Path) : Alike (left.deleteAll now paths) (right.deleteAll now paths) := by
  induction paths generalizing left right with
  | nil => exact ⟨rfl, same⟩
  | cons path rest ih =>
    simp only [deleteAll]
    split
    · exact ih same
    · have deleted := delete_congr same path now false
      have others := ih deleted.2
      rw [deleted.1]
      cases (right.delete path now false).1 with
      | none => exact others
      | some tombstone => exact ⟨by simp only [others.1], others.2⟩

theorem purge_congr (same : left.holdings = right.holdings) (olderThan : Epoch) :
    Alike (left.purge olderThan) (right.purge olderThan) := by
  unfold purge
  rw [same]
  generalize right.holdings.dead.keys = names
  suffices general : ∀ first second : Nat × DocumentSession, Alike first second →
      Alike (names.foldl (purgeCollection olderThan) first)
        (names.foldl (purgeCollection olderThan) second) from
    general _ _ ⟨rfl, same⟩
  induction names with
  | nil => exact fun _ _ alike => alike
  | cons name rest ih =>
    intro first second alike
    refine ih _ _ ⟨?_, ?_⟩
    · simp only [purgeCollection, alike.1, alike.2]
    · rw [holdings_purgeCollection, holdings_purgeCollection, alike.2]

/-! ## Operations -/

/-- What a session takes from outside in its next call: the clock, and the identifier that is
handed out. -/
def observed (session : DocumentSession) (surroundings : Surroundings) : Surroundings :=
  ⟨surroundings.now, fun _ => surroundings.ids session.minted⟩

/-- How an operation ends. -/
abbrev Ending := Except (StoreError × DocumentSession) (DocumentAnswer × DocumentSession)

/-- The same answer or error from two sessions, and the same holdings behind it. -/
def EndAlike (first second : Ending) : Prop :=
  Outcome.result first = Outcome.result second ∧
    (Outcome.state first).holdings = (Outcome.state second).holdings

theorem endAlike_ok {first second : DocumentSession} (answer : DocumentAnswer)
    (same : first.holdings = second.holdings) :
    EndAlike (.ok (answer, first)) (.ok (answer, second)) := ⟨rfl, same⟩

theorem endAlike_error {first second : DocumentSession} (error : StoreError)
    (same : first.holdings = second.holdings) :
    EndAlike (.error (error, first)) (.error (error, second)) := ⟨rfl, same⟩

/-- What is answered from outcomes that are alike ends alike. -/
theorem endAlike_of_alike {α : Type} {first second : α × DocumentSession}
    (alike : Alike first second) (answer : α → DocumentAnswer) :
    EndAlike (.ok (answer first.1, first.2)) (.ok (answer second.1, second.2)) :=
  alike.1 ▸ endAlike_ok (answer first.1) alike.2

/-- Behind the same check, what ends alike still does. -/
theorem endAlike_checked (same : left.holdings = right.holdings)
    (check : Except StoreError Unit) {first second : Unit → Ending}
    (rest : EndAlike (first ()) (second ())) :
    EndAlike (left.checked check >>= first) (right.checked check >>= second) := by
  cases check with
  | ok _ => exact rest
  | error error => exact endAlike_error error same

theorem create_congr (same : left.holdings = right.holdings) (surroundings : Surroundings)
    (path : Path) (document : Document) :
    EndAlike (left.create surroundings path document)
      (right.create (left.observed surroundings) path document) := by
  refine endAlike_checked same _ ?_
  by_cases unnamed : document.id.isEmpty = true
  · simp only [unnamed, if_true]
    refine endAlike_of_alike (store_congr ?_ _ _ _) .document
    exact same
  · simp only [if_neg unnamed, same]
    split
    · exact endAlike_error _ same
    · exact endAlike_of_alike (store_congr same _ _ _) .document

/-- Sessions with the same holdings answer the same and go on with the same holdings. -/
theorem run_congr (same : left.holdings = right.holdings) (surroundings : Surroundings)
    (op : DocumentOp) :
    EndAlike (left.run surroundings op) (right.run (left.observed surroundings) op) := by
  have found : ∀ path, left.find? path = right.find? path := fun path => by
    rw [find?, find?, same]
  cases op with
  | flush => exact endAlike_ok .done rfl
  | purge olderThan =>
    exact endAlike_of_alike (purge_congr same olderThan) fun count : Nat => .number count
  | create path document => exact create_congr same surroundings path document
  | update handle =>
    refine endAlike_checked same _ ?_
    exact endAlike_of_alike (store_congr same _ _ _) .document
  | delete path =>
    refine endAlike_checked same _ ?_
    obtain ⟨first, rest⟩ := delete_congr same path surroundings.now true
    revert first rest
    simp only [observed]
    rcases left.delete path surroundings.now true with ⟨_ | tombstone, one⟩ <;>
      rcases right.delete path surroundings.now true with ⟨_ | other, two⟩ <;>
        rintro ⟨⟩ same'
    · exact endAlike_error _ same'
    · exact endAlike_ok _ same'
  | deleteAll paths =>
    exact endAlike_of_alike (deleteAll_congr same surroundings.now paths)
      fun outcome => .deleted outcome.1 outcome.2
  | size =>
    simp only [run, same]
    exact endAlike_ok _ same
  | latestEpoch path | list path _ | count path _ | «exists» path =>
    simp only [run, list, documentsOf, found, same]
    refine endAlike_checked same _ ?_
    exact endAlike_ok _ same
  | get path | getForUpdate path =>
    simp only [run, found]
    refine endAlike_checked same _ ?_
    cases right.find? path with
    | none => exact endAlike_error _ same
    | some document => exact endAlike_ok _ same

end DocumentSession

namespace GrantSession

variable {left right : GrantSession}

theorem editUser_congr (same : left.tables = right.tables) (change : NameSet → NameSet)
    (user : String) : (left.editUser change user).tables = (right.editUser change user).tables := by
  rw [tables_editUser, tables_editUser, same]

theorem editPath_congr (same : left.tables = right.tables) (change : PathGrants → PathGrants)
    (path : String) : (left.editPath change path).tables = (right.editPath change path).tables := by
  rw [tables_editPath, tables_editPath, same]

theorem drop_congr (same : left.tables = right.tables) (path : String) :
    (left.drop path).tables = (right.drop path).tables := by
  rw [tables_drop, tables_drop, same]

theorem unlink_congr (same : left.tables = right.tables) (principal user : String) :
    (unlink principal left user).tables = (unlink principal right user).tables := by
  unfold unlink
  rw [same]
  split
  · exact editUser_congr same _ user
  · exact same

theorem foldl_congr {α : Type} {f : GrantSession → α → GrantSession}
    (step : ∀ {left right : GrantSession} (item : α), left.tables = right.tables →
      (f left item).tables = (f right item).tables)
    (items : List α) (same : left.tables = right.tables) :
    (items.foldl f left).tables = (items.foldl f right).tables := by
  induction items generalizing left right with
  | nil => exact same
  | cons item rest ih => exact ih (step item same)

/-- Sessions with the same tables answer the same and go on with the same tables. -/
theorem run_congr (same : left.tables = right.tables) (op : GrantOp) :
    (left.run op).1 = (right.run op).1 ∧ (left.run op).2.tables = (right.run op).2.tables := by
  cases op with
  | flush => exact ⟨rfl, rfl⟩
  | linkUsers principal users =>
    exact ⟨rfl, foldl_congr (fun user same => editUser_congr same _ user) users same⟩
  | unlinkUsers principal users =>
    exact ⟨rfl, foldl_congr (fun user same => unlink_congr same principal user) users same⟩
  | purgePrincipals principals =>
    have users : left.usersOf principals = right.usersOf principals := by
      rw [usersOf, usersOf, same]
    simp only [run, users]
    split
    · exact ⟨rfl, same⟩
    · exact ⟨rfl, foldl_congr (fun user same => editUser_congr same _ user) _ same⟩
  | takeBelow roots =>
    have paths : left.pathsBelow roots = right.pathsBelow roots := by
      rw [pathsBelow, pathsBelow, same]
    simp only [run, paths]
    exact ⟨trivial, foldl_congr (fun path same => drop_congr same path) _ same⟩
  | give principal grant =>
    exact ⟨rfl, editPath_congr same (addTo · (grant.permission, [principal])) grant.path.text⟩
  | take principal grant =>
    simp only [run, same]
    split
    · exact ⟨rfl, editPath_congr same _ grant.path.text⟩
    · exact ⟨rfl, same⟩
  | giveAll path set | replaceAll path set =>
    simp only [run]
    split
    · exact ⟨rfl, same⟩
    · exact ⟨rfl, editPath_congr same _ path.text⟩
  | userPrincipals _ | principalsOf _ | principalsOfAny _ | grantsOn _ | accessiblePaths _ _
  | size =>
    simp only [run, same]
    exact ⟨trivial, trivial⟩

end GrantSession

/-! ## Views -/

/-- Transactions on documents see the documents, the tombstones and the latest epochs. -/
def documentView : Engine.View documentEngine where
  Seen := Holdings
  content := Prod.fst
  session := DocumentSession.holdings
  observed := DocumentSession.observed
  session_start _ := rfl
  content_commit _ := rfl
  content_undo_start stored := DocumentSession.undo_start stored.1 stored.2
  content_undo_run work surroundings op :=
    DocumentSession.undo_state_run work surroundings op
  run_congr := DocumentSession.run_congr

/-- Transactions on grants see the tables. -/
def grantView : Engine.View grantEngine where
  Seen := GrantTables
  content := id
  session := GrantSession.tables
  observed _ surroundings := surroundings
  session_start _ := rfl
  content_commit _ := rfl
  content_undo_start := GrantSession.undo_startGrants
  content_undo_run work _ op := GrantSession.undo_run work op
  run_congr := @fun left right same _ op => by
    have alike := GrantSession.run_congr same op
    exact ⟨congrArg Except.ok alike.1, alike.2⟩

/-- Whatever clients do with a store of documents and with a store of grants, in any order, the
transactions of each store look as if they had run one after the other, in the order of their
commits. -/
theorem SerialStore.transactions_serial (documentMoves : List (Move documentEngine))
    (grantMoves : List (Move grantEngine)) :
    SerialStore.Serial documentView (Holdings.empty, 0)
        ((SerialStore.start (Holdings.empty, 0)).play documentMoves)
        (SerialStore.calls documentView (Holdings.empty, 0) documentMoves) ∧
      SerialStore.Serial grantView GrantTables.empty
        ((SerialStore.start GrantTables.empty).play grantMoves)
        (SerialStore.calls grantView GrantTables.empty grantMoves) :=
  ⟨SerialStore.serial_play documentView _ documentMoves,
    SerialStore.serial_play grantView _ grantMoves⟩

end DocStore
