import DocStore.Proofs.Memory.Contents
import DocStore.Proofs.Memory.Isolation
import DocStore.Proofs.Sql.Mirror

/-!
# Conversations about documents

What each statement about documents does to the holdings that the tables mirror, and from it
what the conversations come to that read, store, bury and delete.  They are compared with the
sessions in memory, the cascade of a deletion with the keys in the order of the tables.
-/

namespace DocStore
namespace Sql

/-! ## Statements -/

variable {dialect : Dialect} {holdings before after : Holdings}

/-- Executed by a server whose tables mirror the holdings, a statement returns rows and leaves
tables that mirror the holdings after a change. -/
def Executes (dialect : Dialect) (before : Holdings) (statement : Statement) (rows : List Row)
    (affected : Nat) (after : Holdings) : Prop :=
  ∀ server : Server, Mirrors server.tables before →
    ∃ tables, server.Runs dialect statement rows affected { server with tables } ∧
      Mirrors tables after

theorem Executes.simulates {α : Type} {statement : Statement} {rows : List Row} {affected : Nat}
    (executes : Executes dialect before statement rows affected after) {talk : Talk α}
    {result : Except StoreError α}
    (held : ∀ {server after : Server}, server.Runs dialect statement rows affected after →
      server.hold dialect talk = (result, after)) :
    Simulates dialect before talk result after := by
  intro server mirrors
  obtain ⟨tables, runs, mirrored⟩ := executes server mirrors
  exact ⟨tables, held runs, mirrored⟩

/-- A clock that reads a positive time up to a bound, past which there is room for some more
epochs. -/
structure Ticks (now : Epoch) (bound : Int) (more : Nat) : Prop where
  positive : 1 ≤ now.millis
  bounded : now.millis ≤ bound
  room : bound + more < 2 ^ 63

variable {now : Epoch} {bound : Int} {more fewer : Nat}

theorem Ticks.mono (ticks : Ticks now bound more) (le : fewer ≤ more) : Ticks now bound fewer :=
  ⟨ticks.positive, ticks.bounded, by have room := ticks.room; omega⟩

/-- The clock when some epochs were given out. -/
theorem Ticks.later (ticks : Ticks now bound (fewer + more)) :
    Ticks now (bound + fewer) more := by
  obtain ⟨positive, bounded, room⟩ := ticks
  refine ⟨positive, ?_, ?_⟩ <;> omega

theorem nextEpoch_storable (upTo : holdings.UpTo bound) (ticks : Ticks now bound 1)
    (name : String) : Storable (holdings.nextEpoch name now) := by
  have next := @Holdings.UpTo.nextEpoch_millis holdings name now bound upTo ticks.room
  obtain ⟨low, high⟩ := upTo name
  obtain ⟨positive, bounded, room⟩ := ticks
  constructor <;> omega

/-- The table of epochs counts on as the holdings do. -/
theorem raised_eq (upTo : holdings.UpTo bound) (ticks : Ticks now bound 1) (name : String) :
    raised now (holdings.epoch? name) = holdings.nextEpoch name now := by
  have next : holdings.nextEpoch name now =
      ⟨max now.millis ((holdings.live.collection name).latest.millis + 1)⟩ :=
    congrArg Epoch.mk (upTo.nextEpoch_millis ticks.room)
  rw [next, Holdings.latest_eq]
  cases holdings.epoch? name with
  | none =>
    have past : max now.millis (Epoch.zero.millis + 1) = now.millis := max_eq_left ticks.positive
    rw [raised, Option.getD_none, past]
  | some latest => rfl

variable (dialect)

theorem executes_raiseEpoch (upTo : holdings.UpTo bound) (ticks : Ticks now bound 1)
    (name : String) :
    Executes dialect holdings (raiseEpoch name now) [[.int (holdings.nextEpoch name now).millis]] 1
      (holdings.advance name now) := by
  intro server mirrors
  obtain ⟨entries, shows⟩ := mirrors.epochs
  have room : Storable now := by
    obtain ⟨positive, bounded, room⟩ := ticks
    constructor <;> omega
  have next := raised_eq upTo ticks name
  have runs := runs_raiseEpoch dialect name shows.rows shows.nodup (shows.known name)
    room (next ▸ nextEpoch_storable upTo ticks name)
  rw [next] at runs
  exact ⟨_, runs, mirrors.putEpoch shows (holdings.epoch?_advance name now)
    (holdings.find?_advance name now)⟩

/-- Storing a document under the epoch that was given out. -/
theorem executes_writeDocument (name : String) (document : Document)
    (room : Storable (holdings.nextEpoch name now)) (overwritten : Option Expr)
    (admitted : ∀ old, (∃ deleted, (holdings.shelf deleted).find? name document.id = some old) →
      overwritten.all (Expr.passes
        { dialect, row := documentRow (name, old),
          excluded := documentRow (name, stored document (holdings.nextEpoch name now)) }) = true)
    (returning : Option String) (returns : ∀ column ∈ returning, column = "last_modified") :
    Executes dialect (holdings.advance name now)
      (writeDocument name document (holdings.nextEpoch name now) overwritten returning)
      (returning.toList.map fun _ => [.int (holdings.nextEpoch name now).millis]) 1
      (holdings.store name { document with deleted := false } now) := by
  intro server mirrors
  obtain ⟨entries, shows⟩ := mirrors.contents
  have renews := @Holdings.renews_store holdings name { document with deleted := false } now rfl
  have runs := runs_writeDocument dialect shows.rows shows.nodup name document room
    (fun old listed same => admitted old ⟨old.deleted, by
      rw [← holdings.find?_advance name now, ← same]
      exact (shows.known name old).1 listed⟩) returning returns
  refine ⟨_, runs, mirrors.setDocuments (shows.put fun deleted other key => ?_) fun other => ?_⟩
  · rw [renews.places, holdings.find?_advance name now]
    rfl
  · exact holdings.epoch?_store name now _ other

/-- Burying a document under the epoch that was given out. -/
theorem executes_buryDocument (placed : holdings.Placed) {name id : String} {document : Document}
    (found : holdings.live.find? name id = some document)
    (room : Storable (holdings.nextEpoch name now)) :
    Executes dialect (holdings.advance name now)
      (buryDocument name id (holdings.nextEpoch name now)) [] 1 (holdings.bury name id now) := by
  intro server mirrors
  obtain ⟨entries, shows⟩ := mirrors.contents
  obtain ⟨same, live⟩ := @Holdings.Placed.labelled holdings placed false name id document found
  have renews := Holdings.renews_bury now found same
  subst same
  have listed : (name, document) ∈ entries := by
    rw [shows.known, holdings.find?_advance name now, live]
    exact found
  refine ⟨_, runs_buryDocument dialect shows.rows shows.nodup listed live room,
    mirrors.setDocuments (shows.put fun deleted other key => ?_) fun other => ?_⟩
  · rw [renews.places, holdings.find?_advance name now]
    rfl
  · exact Holdings.epoch?_bury now found other

/-! ## Reads -/

/-- A query about documents leaves the tables as they are. -/
theorem executes_query {query : Select} {rows : List Row} {affected : Nat}
    (runs : ∀ {server : Server} {entries : List (String × Document)},
      ShowsContents (server.tables documentTable) holdings entries →
      server.Runs dialect (.select query) rows affected server) :
    Executes dialect holdings (.select query) rows affected holdings := by
  intro server mirrors
  obtain ⟨entries, shows⟩ := mirrors.contents
  exact ⟨server.tables, runs shows, mirrors⟩

section

variable {α β : Type} {statement : Statement} {affected : Nat} {found : Option α} {row : α → Row}
  {read : Row → Except String β} {value : α → β}

variable {dialect} in
theorem Executes.fetchFirst
    (executes : Executes dialect before statement (found.toList.map row) affected after)
    (decoded : ∀ item, read (row item) = .ok (value item)) (task : String) :
    Simulates dialect before (Conversation.fetchFirst task read statement)
      (.ok (found.map value)) after := by
  cases found with
  | none => exact executes.simulates fun runs => runs.fetchFirst_none task
  | some item => exact executes.simulates fun runs => runs.fetchFirst_some task (decoded item)

end

section

variable (placed : holdings.Placed) (name id : String)
include placed

theorem executes_selectDocument (locking : Bool) :
    Executes dialect holdings (selectDocument name id locking)
      ((holdings.live.find? name id).toList.map fun document =>
        [.str document.id, .int document.modified.millis, .bool document.deleted,
          .obj document.fields])
      (holdings.live.find? name id).toList.length holdings :=
  executes_query dialect fun shows =>
    runs_selectDocument dialect shows.rows shows.nodup (shows.live_iff placed name id) locking

theorem simulates_isLive : Simulates dialect holdings (isLive name id)
    (.ok (holdings.live.find? name id).isSome) holdings := by
  have executes : Executes dialect holdings (selectPresence name id)
      ((holdings.live.find? name id).toList.map fun _ => [.bool true])
      (holdings.live.find? name id).toList.length holdings :=
    executes_query dialect fun shows =>
      runs_selectPresence dialect shows.rows shows.nodup (shows.live_iff placed name id)
  have fetched : Simulates dialect holdings
      (Conversation.fetchFirst "check object" (single boolCell) (selectPresence name id))
      (.ok ((holdings.live.find? name id).map fun _ => true)) holdings := by
    refine executes.fetchFirst (fun _ => ?_) _
    rfl
  have mapped := fetched.map Option.isSome
  rw [Option.isSome_map] at mapped
  exact mapped

theorem simulates_selectData : Simulates dialect holdings
    (Conversation.fetchFirst "lock object" (single jsonCell) (selectData name id))
    (.ok ((holdings.live.find? name id).map fun document => .obj document.fields)) holdings := by
  have executes : Executes dialect holdings (selectData name id)
      ((holdings.live.find? name id).toList.map fun document => [.obj document.fields])
      (holdings.live.find? name id).toList.length holdings :=
    executes_query dialect fun shows =>
      runs_selectData dialect shows.rows shows.nodup (shows.live_iff placed name id)
  refine executes.fetchFirst (fun _ => ?_) _
  rfl

end

/-- Reading a live document. -/
theorem simulates_fetchDocument (placed : holdings.Placed) (path : Path) (locking : Bool) :
    Simulates dialect holdings (fetchDocument path locking)
      (match holdings.live.find? path.collection path.documentId with
        | some document => .ok document
        | none => .error (.notFound path.text)) holdings := by
  have executes := executes_selectDocument dialect placed path.collection
    path.documentId locking
  cases found : holdings.live.find? path.collection path.documentId with
  | none =>
    rw [found] at executes
    exact (executes.simulates fun runs => runs.fetchOne_none _ _).bind_error _
  | some document =>
    rw [found] at executes
    exact (executes.simulates fun runs => runs.fetchOne _ _ rfl).bind (.finish _)

theorem simulates_latestEpoch (name : String) :
    Simulates dialect holdings
      (Conversation.fetchFirst "get namespace epoch" (single intCell) (selectEpoch name))
      (.ok ((holdings.epoch? name).map (·.millis))) holdings := by
  have executes : Executes dialect holdings (selectEpoch name)
      ((holdings.epoch? name).toList.map fun epoch => [.int epoch.millis])
      (holdings.epoch? name).toList.length holdings := by
    intro server mirrors
    obtain ⟨entries, shows⟩ := mirrors.epochs
    exact ⟨server.tables, runs_selectEpoch dialect name shows.rows shows.nodup (shows.known name),
      mirrors⟩
  refine executes.fetchFirst (fun _ => ?_) _
  rfl

/-! ## Writes -/

theorem simulates_nextEpoch (upTo : holdings.UpTo bound) (ticks : Ticks now bound 1)
    (name : String) : Simulates dialect holdings (nextEpoch name now)
      (.ok (holdings.nextEpoch name now)) (holdings.advance name now) := by
  have fetched : Simulates dialect holdings
      (Conversation.fetchOne "bump namespace epoch" name (single intCell) (raiseEpoch name now))
      (.ok (holdings.nextEpoch name now).millis) (holdings.advance name now) := by
    refine (executes_raiseEpoch dialect upTo ticks name).simulates fun runs => ?_
    exact runs.fetchOne _ _ rfl
  exact fetched.map Epoch.mk

theorem simulates_update (upTo : holdings.UpTo bound) (ticks : Ticks now bound 1)
    (handle : Handle) : Simulates dialect holdings (update handle now)
      (.ok { handle.addressed.document with
        modified := holdings.nextEpoch handle.path.collection now, deleted := false })
      (holdings.store handle.path.collection
        { handle.addressed.document with deleted := false } now) := by
  have room := nextEpoch_storable upTo ticks handle.path.collection
  have replaced := executes_writeDocument dialect handle.path.collection
    handle.addressed.document room none (fun _ _ => rfl) none nofun
  exact (simulates_nextEpoch dialect upTo ticks handle.path.collection).bind
    ((replaced.simulates fun runs => runs.affected_eq "update object").bind (.finish _))

/-- Storing a document whose identifier no live document has. -/
theorem simulates_insertDocument (placed : holdings.Placed) (upTo : holdings.UpTo bound)
    (ticks : Ticks now bound 1) (name : String) {document : Document}
    (vacant : holdings.live.find? name document.id = none) :
    Simulates dialect (holdings.advance name now)
      (Conversation.fetchFirst "create object" (single intCell)
        (insertDocument name document (holdings.nextEpoch name now)))
      (.ok (some (holdings.nextEpoch name now).millis))
      (holdings.store name { document with deleted := false } now) := by
  have inserted := executes_writeDocument dialect name document
    (nextEpoch_storable upTo ticks name) (some (.columnOf documentTable "deleted"))
    (fun old here => ?_) (some "last_modified") (fun _ isColumn => (Option.some.inj isColumn).symm)
  · refine inserted.simulates fun runs => ?_
    exact runs.fetchFirst_some _ rfl
  · -- What has the key is a tombstone, since no live document has the identifier.
    obtain ⟨deleted, found⟩ := here
    have mark : old.deleted = true := by
      cases deleted with
      | false => rw [Holdings.shelf, if_neg Bool.false_ne_true, vacant] at found; cases found
      | true => exact (placed.labelled found).2
    simp [Expr.passes, Expr.eval, documentTable, documentRow, Datum.truth, mark]

theorem simulates_create (placed : holdings.Placed) (upTo : holdings.UpTo bound)
    (ticks : Ticks now bound 1) (path : Path) (document : Document) (fresh : String)
    (vacant : document.id.isEmpty = true → holdings.live.find? path.collection fresh = none) :
    let named := if document.id.isEmpty then { document with id := fresh } else document
    Simulates dialect holdings (create path document fresh now)
      (if (holdings.live.find? path.collection named.id).isSome then
        .error (alreadyLive path named.id)
        else .ok { named with
          modified := holdings.nextEpoch path.collection now, deleted := false })
      (if (holdings.live.find? path.collection named.id).isSome then holdings
        else holdings.store path.collection { named with deleted := false } now) := by
  have next := simulates_nextEpoch dialect upTo ticks path.collection
  have insert {named : Document} (free : holdings.live.find? path.collection named.id = none) :=
    simulates_insertDocument dialect placed upTo ticks path.collection free
  cases unnamed : document.id.isEmpty with
  | true =>
    have free := vacant unnamed
    simp only [create, unnamed, Bool.not_true, Bool.false_eq_true, if_false, if_true, free,
      Option.isSome_none]
    exact next.bind ((insert free).bind (.finish _))
  | false =>
    simp only [create, unnamed, Bool.not_false, Bool.false_eq_true, if_false, if_true]
    refine (simulates_isLive dialect placed path.collection document.id).bind ?_
    cases found : holdings.live.find? path.collection document.id with
    | some taken => exact .finish _
    | none => exact next.bind ((insert found).bind (.finish _))

/-- Burying a live document gives out an epoch. -/
theorem simulates_bury (placed : holdings.Placed) (upTo : holdings.UpTo bound)
    (ticks : Ticks now bound 1) {name id : String} {document : Document}
    (found : holdings.live.find? name id = some document) :
    Simulates dialect holdings (bury name id now) (.ok (holdings.nextEpoch name now))
      (holdings.bury name id now) := by
  have buried := executes_buryDocument dialect placed found
    (nextEpoch_storable upTo ticks name)
  exact (simulates_nextEpoch dialect upTo ticks name).bind
    ((buried.simulates fun runs => runs.affected_eq "delete object").bind (.finish _))

/-- Burying live documents one after the other. -/
theorem simulates_buryEach {keys : List (String × String)} (nodup : keys.Nodup)
    (placed : holdings.Placed) (upTo : holdings.UpTo bound) (ticks : Ticks now bound keys.length)
    (live : ∀ key ∈ keys, (holdings.live.find? key.1 key.2).isSome = true) :
    Simulates dialect holdings (buryEach now keys) (.ok ()) (holdings.buryKeys keys now) := by
  induction keys generalizing holdings bound with
  | nil => exact .finish _
  | cons key rest ih =>
    obtain ⟨absent, others⟩ := List.nodup_cons.1 nodup
    obtain ⟨document, found⟩ := Option.isSome_iff_exists.1 (live key List.mem_cons_self)
    obtain ⟨positive, bounded, room⟩ := ticks
    rw [List.length_cons] at room
    have same := placed.id_of_live found
    have change : Holdings.Change now holdings _ _ := .bury holdings key.1 key.2 document found
    have upToAfter : (holdings.bury key.1 key.2 now).UpTo (bound + 1) := by
      refine upTo.change bounded ?_ change
      simp only [List.length_singleton]
      omega
    -- The keys differ, so the documents of the others are still live when the first is buried.
    have stillLive : ∀ other ∈ rest,
        ((holdings.bury key.1 key.2 now).live.find? other.1 other.2).isSome = true := by
      intro other member
      have place := (Holdings.renews_bury now found same).places false other.1 other.2
      have different : ¬(other.1 = key.1 ∧ other.2 = document.id) := by
        rintro ⟨sameName, sameId⟩
        have isKey : other = key := Prod.ext sameName (sameId.trans same)
        exact absent (isKey ▸ member)
      rw [if_neg different] at place
      simp only [Holdings.shelf, Bool.false_eq_true, if_false] at place
      rw [place]
      exact live other (List.mem_cons_of_mem _ member)
    have first := simulates_bury dialect placed upTo
      ⟨positive, bounded, by omega⟩ found
    exact first.bind (ih others (placed.change change) upToAfter
      ⟨positive, by omega, by omega⟩ stillLive)

theorem executes_selectBelow (session : DocumentSession) (placed : session.holdings.Placed)
    (path : Path) : Executes dialect session.holdings (selectBelow path)
      ((session.keysBelow path).map fun key => [.str key.1, .str key.2])
      (session.keysBelow path).length session.holdings := by
  refine executes_query dialect fun shows => runs_selectBelow dialect shows.rows shows.nodup
    (Shelf.pairwise_keysIn _ (session.pairwise_collectionsBelow path)) ?_
  rintro ⟨name, id⟩
  rw [session.mem_keysBelow, Option.isSome_iff_exists]
  constructor
  · rintro ⟨below, document, found⟩
    obtain ⟨listed, same, live⟩ := (shows.live_iff placed name id document).2 found
    exact ⟨_, listed, Prod.ext rfl same, by simp [isLiveBelow, below, live]⟩
  · rintro ⟨⟨other, document⟩, listed, sameKey, chosen⟩
    obtain ⟨rfl, same⟩ := Prod.mk.inj sameKey
    simp only [isLiveBelow, Bool.and_eq_true, Bool.not_eq_true'] at chosen
    exact ⟨chosen.1, document, (shows.live_iff placed other id document).1
      ⟨listed, same, chosen.2⟩⟩

theorem simulates_buryBelow (session : DocumentSession) (placed : session.holdings.Placed)
    (upTo : session.holdings.UpTo bound) (path : Path)
    (ticks : Ticks now bound (session.keysBelow path).length) :
    Simulates dialect session.holdings (buryBelow path now) (.ok ())
      (session.buryBelow path now).holdings := by
  rw [(session.buryBelow_eq path now).1]
  have fetched : Simulates dialect session.holdings
      (Conversation.fetchAll "list nested objects" textPair (selectBelow path))
      (.ok (session.keysBelow path)) session.holdings := by
    refine (executes_selectBelow dialect session placed path).simulates fun runs => ?_
    refine runs.fetchAll _ ?_
    have read : (((session.keysBelow path).map fun key => [Json.str key.1, .str key.2]).mapM
        textPair) = .ok ((session.keysBelow path).map id) := mapM_map_ok fun _ _ => rfl
    rwa [List.map_id] at read
  refine fetched.bind (simulates_buryEach dialect ?_ placed upTo ticks fun key member => ?_)
  · exact Shelf.nodup_keysIn _ (session.pairwise_collectionsBelow path)
  · exact ((session.mem_keysBelow path key.1 key.2).1 member).2

theorem simulates_buryAt (session : DocumentSession) (placed : session.holdings.Placed)
    (upTo : session.holdings.UpTo bound) (path : Path)
    (ticks : Ticks now bound (session.buryAtStamps path now).length) :
    Simulates dialect session.holdings (buryAt path now) (.ok (session.buryAt path now).1)
      (session.buryAt path now).2.holdings := by
  have locked := simulates_selectData dialect placed path.collection path.documentId
  refine locked.bind ?_
  cases found : session.holdings.live.find? path.collection path.documentId with
  | none =>
    have nothing : session.buryAt path now = (none, session) := by
      simp [DocumentSession.buryAt, found]
    rw [nothing]
    exact .finish _
  | some document =>
    obtain ⟨tombstone, holdings, stamps⟩ := session.buryAt_some now found
    rw [stamps] at ticks
    rw [tombstone, holdings, placed.id_of_live found]
    exact (simulates_bury dialect placed upTo ticks found).bind (.finish _)

theorem simulates_delete (session : DocumentSession) (placed : session.holdings.Placed)
    (upTo : session.holdings.UpTo bound) (path : Path) (demanded : Bool)
    (ticks : Ticks now bound (session.deleteStamps path now demanded).length) :
    Simulates dialect session.holdings (delete path now demanded)
      (.ok (session.delete path now demanded).1) (session.delete path now demanded).2.holdings := by
  have changes := session.change_of_buryAt path now
  simp only [DocumentSession.deleteStamps, List.length_append] at ticks
  have first := ticks.mono (Nat.le_add_right _ _)
  refine (simulates_buryAt dialect session placed upTo path first).bind ?_
  by_cases missing : ((session.buryAt path now).1.isNone && demanded) = true
  · simp only [DocumentSession.delete, if_pos missing]
    exact .finish _
  · simp only [DocumentSession.delete, if_neg missing]
    rw [if_neg missing, ((session.buryAt path now).2.buryBelow_eq path now).2] at ticks
    exact (simulates_buryBelow dialect _ (placed.changes changes)
      (upTo.changes first.bounded first.room changes) path ticks.later).bind (.finish _)

theorem simulates_deleteAll (session : DocumentSession) (placed : session.holdings.Placed)
    (upTo : session.holdings.UpTo bound) (paths : List Path)
    (ticks : Ticks now bound (session.deleteAllStamps now paths).length) :
    Simulates dialect session.holdings (deleteAll now paths)
      (.ok (session.deleteAll now paths).1) (session.deleteAll now paths).2.holdings := by
  induction paths generalizing session bound with
  | nil => exact .finish _
  | cons path rest ih =>
    simp only [deleteAll, DocumentSession.deleteAll]
    unfold DocumentSession.deleteAllStamps at ticks
    by_cases node : path.isNode = true
    · rw [if_pos node, if_pos node]
      rw [if_pos node] at ticks
      exact ih session placed upTo ticks
    · rw [if_neg node, if_neg node]
      rw [if_neg node, List.length_append] at ticks
      have changes := session.change_of_delete path now false
      have first := ticks.mono (Nat.le_add_right _ _)
      have others := ih _ (placed.changes changes)
        (upTo.changes first.bounded first.room changes) ticks.later
      refine (simulates_delete dialect session placed upTo path false first).bind (others.bind ?_)
      cases (session.delete path now false).1 with
      | some tombstone => exact .finish _
      | none => exact .finish _

/-! ## Whole tables -/

theorem simulates_flush : Simulates dialect holdings
    (Conversation.execute "flush storage" emptyDocuments) (.ok 0) Holdings.empty := by
  have executes : Executes dialect holdings emptyDocuments [] 0 Holdings.empty :=
    fun _ _ => ⟨_, runs_emptyDocuments dialect, mirrors_empty rfl rfl⟩
  exact executes.simulates fun runs => runs.affected_eq _

theorem ShowsContents.perm {table : Table} {entries : List (String × Document)}
    (shows : ShowsContents table holdings entries) (placed : holdings.Placed) :
    entries.Perm holdings.contents := by
  refine (List.perm_ext_iff_of_nodup (List.Nodup.of_map _ shows.nodup)
    placed.nodup_contents).2 fun entry => ?_
  rw [shows.known entry.1 entry.2, placed.mem_contents entry.1 entry.2]

/-- Counting documents of one shelf in the table of both. -/
theorem ShowsContents.countP_eq {table : Table} {entries : List (String × Document)}
    (shows : ShowsContents table holdings entries) (placed : holdings.Placed)
    {test : String × Document → Bool} {deleted : Bool}
    (only : ∀ entry, test entry = true → entry.2.deleted = deleted) :
    entries.countP test = (holdings.shelf deleted).contents.countP test := by
  have none (other : Bool) (different : other ≠ deleted) :
      (holdings.shelf other).contents.countP test = 0 := by
    refine List.countP_eq_zero.2 fun entry member passes => different ?_
    rw [← only entry passes]
    exact (((placed.mem_shelf_contents other entry.1 entry.2).1 member).1).symm
  rw [(shows.perm placed).countP_eq, Holdings.contents, List.countP_append]
  cases deleted with
  | false =>
    have dead := none true (by decide)
    simp only [Holdings.shelf, if_true] at dead
    simp [Holdings.shelf, dead]
  | true =>
    have live := none false (by decide)
    simp only [Holdings.shelf, Bool.false_eq_true, if_false] at live
    simp [Holdings.shelf, live]

theorem simulates_purge (session : DocumentSession) (placed : session.holdings.Placed)
    (olderThan : Epoch) : Simulates dialect session.holdings
      (Conversation.execute "purge tombstones" (deleteTombstones olderThan))
      (.ok (session.purge olderThan).1) (session.purge olderThan).2.holdings := by
  obtain ⟨count, live, dead⟩ := session.purge_eq olderThan
  have executes : Executes dialect session.holdings (deleteTombstones olderThan) []
      (session.purge olderThan).1 (session.purge olderThan).2.holdings := by
    intro server mirrors
    obtain ⟨entries, shows⟩ := mirrors.contents
    have runs := runs_deleteTombstones dialect shows.rows olderThan
    have counted : entries.countP (isPurged olderThan) = (session.purge olderThan).1 := by
      have onDead : entries.countP (isPurged olderThan) =
          (session.holdings.shelf true).contents.countP (isPurged olderThan) :=
        shows.countP_eq placed fun entry purged => (Bool.and_eq_true_iff.1 purged).1
      rw [onDead, count]
      refine List.countP_congr fun entry member => ?_
      have mark := ((placed.mem_shelf_contents true entry.1 entry.2).1 member).1
      rw [isPurged, mark, Bool.true_and]
    rw [counted] at runs
    refine ⟨_, runs, mirrors.setDocuments ⟨rfl, ?_, fun name document => ?_⟩ fun other => ?_⟩
    · exact shows.nodup.sublist (List.filter_sublist.map _)
    · rw [List.mem_filter, shows.known]
      cases mark : document.deleted <;>
        simp [Holdings.shelf, live, dead, isPurged, mark, Option.filter_eq_some_iff]
    · rw [Holdings.epoch?, live]
      rfl
  exact executes.simulates fun runs => runs.affected_eq _

theorem simulates_size (placed : holdings.Placed) : Simulates dialect holdings
    (Conversation.fetchOne "count entries" "" (single intCell) selectSize)
    (.ok holdings.live.count) holdings := by
  have executes : Executes dialect holdings selectSize [[.int holdings.live.count]] 1
      holdings := by
    refine executes_query dialect fun {server entries} shows => ?_
    have runs := runs_selectSize dialect shows.rows
    have counted : entries.countP (fun entry => !entry.2.deleted) = holdings.live.count := by
      have onLive : entries.countP (fun entry => !entry.2.deleted) =
          (holdings.shelf false).contents.countP fun entry => !entry.2.deleted :=
        shows.countP_eq placed fun entry live => by simpa using live
      rw [onLive, ← Shelf.length_contents]
      refine List.countP_eq_length.2 fun entry member => ?_
      simp [((placed.mem_shelf_contents false entry.1 entry.2).1 member).1]
    rwa [counted] at runs
  refine executes.simulates fun runs => ?_
  exact runs.fetchOne _ _ rfl

end Sql
end DocStore
