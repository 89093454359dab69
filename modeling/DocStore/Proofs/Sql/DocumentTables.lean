import Mathlib.Data.List.Sort
import DocStore.Memory.Documents
import DocStore.Proofs.Sql.Exchange
import DocStore.Proofs.Sql.Ordering
import DocStore.Sql.Documents

/-!
# Statements on the tables of documents

What each statement about documents does, where the rows of one table stand for documents in
their collections and those of the other one for the latest epochs.  Every lemma says which rows
a statement returns and which items the rows stand for afterwards.
-/

namespace DocStore
namespace Sql

/-! ## Rows -/

/-- The row of a document in its collection. -/
def documentRow (entry : String × Document) : Record := documentRecord entry.1 entry.2

/-- What tells documents apart: the collection and the identifier. -/
def documentKey (entry : String × Document) : String × String := (entry.1, entry.2.id)

/-- The row of the latest epoch of a collection. -/
def epochRow (entry : String × Epoch) : Record :=
  Dict.ofList [("path", .text entry.1), ("last_modified", .int8 entry.2.millis)]

theorem find?_documentRow (entry : String × Document) (column : String) :
    (documentRow entry).find? column =
      if column = "deleted" then some (.bool entry.2.deleted)
      else if column = "last_modified" then some (.int8 entry.2.modified.millis)
      else if column = "data" then some (.jsonb (.obj entry.2.fields))
      else if column = "id" then some (.text entry.2.id)
      else if column = "path" then some (.text entry.1) else none := by
  rw [documentRow, find?_documentRecord]
  simp only [documentCells, List.reverse_cons, List.reverse_nil, List.nil_append,
    List.cons_append, Assoc.find?, eq_comm]

theorem find?_epochRow (entry : String × Epoch) (column : String) :
    (epochRow entry).find? column =
      if column = "last_modified" then some (.int8 entry.2.millis)
      else if column = "path" then some (.text entry.1) else none := by
  have gathered := Assoc.find?_ofList
    [("path", Value.text entry.1), ("last_modified", .int8 entry.2.millis)] column
  refine Eq.trans gathered ?_
  simp only [List.reverse_cons, List.reverse_nil, List.nil_append, List.cons_append, Assoc.find?]
  grind

theorem keyedBy_documents (dialect : Dialect) :
    KeyedBy dialect ["path", "id"] documentRow documentKey := by
  intro left right
  simp [Dialect.sameKey, documentRow, documentKey, compareData_text]
  grind

theorem keyedBy_epochs (dialect : Dialect) : KeyedBy dialect ["path"] epochRow Prod.fst := by
  intro left right
  simp [Dialect.sameKey, find?_epochRow, compareData_text]
  grind

/-! ## Epochs -/

variable (dialect : Dialect) {server : Server}

/-- An epoch that has room in a cell. -/
def Storable (epoch : Epoch) : Prop := -2 ^ 63 ≤ epoch.millis ∧ epoch.millis < 2 ^ 63

theorem Storable.fits {epoch : Epoch} (storable : Storable epoch) :
    Datum.fits (some (.int8 epoch.millis)) = true :=
  decide_eq_true storable

/-- The candidate, or the epoch one past the previous one where that is more. -/
def raised (candidate : Epoch) : Option Epoch → Epoch
  | some previous => ⟨max candidate.millis (previous.millis + 1)⟩
  | none => candidate

section Epochs

variable {entries : List (String × Epoch)} (collection : String)

/-- The row that is to be inserted for an epoch. -/
theorem assign_epoch {candidate : Epoch} (room : Storable candidate) :
    Dialect.assign { dialect, row := Dict.empty } Dict.empty
      (["path", "last_modified"].zip
        [.bound (.text collection), .bound (.int8 candidate.millis)]) =
      .ok (epochRow (collection, candidate)) := by
  have same : Dict.insert (Dict.insert (Dict.empty : Record) "path" (.text collection))
      "last_modified" (.int8 candidate.millis) = epochRow (collection, candidate) := by
    refine Dict.ext fun column => ?_
    simp only [Dict.find?_insert, find?_epochRow, Dict.find?_empty]
  exact (Dialect.assign_cons _ rfl rfl).trans
    ((Dialect.assign_cons _ rfl room.fits).trans (congrArg Except.ok same))

/-- What becomes of the row of an epoch when the epoch is raised. -/
theorem assign_raised {candidate previous : Epoch}
    (room : Storable (raised candidate (some previous))) :
    Dialect.assign
      { dialect, row := epochRow (collection, previous),
        excluded := epochRow (collection, candidate) }
      (epochRow (collection, previous))
      [("last_modified",
        .greatest (.columnOf "EXCLUDED" "last_modified")
          (.plus (.columnOf epochTable "last_modified") (.number 1)))] =
      .ok (epochRow (collection, raised candidate (some previous))) := by
  have same : Dict.insert (epochRow (collection, previous)) "last_modified"
      (.int8 (raised candidate (some previous)).millis) =
      epochRow (collection, raised candidate (some previous)) := by
    refine Dict.ext fun column => ?_
    simp only [Dict.find?_insert, find?_epochRow]
    grind
  have value (scope : Scope) (row : scope.row = epochRow (collection, previous))
      (excluded : scope.excluded = epochRow (collection, candidate)) :
      (Expr.greatest (.columnOf "EXCLUDED" "last_modified")
        (.plus (.columnOf epochTable "last_modified") (.number 1))).eval scope =
        some (.int8 (raised candidate (some previous)).millis) := by
    simp [Expr.eval, epochTable, row, excluded, find?_epochRow, Datum.greatest, Datum.plus, raised]
  exact (Dialect.assign_cons _ (value _ rfl rfl) room.fits).trans (congrArg Except.ok same)

/-- Raising an epoch writes and returns the raised one. -/
theorem runs_raiseEpoch (table : server.tables epochTable = entries.map epochRow)
    (nodup : (entries.map Prod.fst).Nodup) {candidate : Epoch} {previous : Option Epoch}
    (known : ∀ epoch, (collection, epoch) ∈ entries ↔ previous = some epoch)
    (room : Storable candidate) (roomAfter : Storable (raised candidate previous)) :
    server.Runs dialect (raiseEpoch collection candidate)
      [[.int (raised candidate previous).millis]] 1
      { server with
        tables := server.tables.set epochTable
          ((put Prod.fst (collection, raised candidate previous) entries).map epochRow) } := by
  have created := assign_epoch dialect collection room
  cases previous with
  | none =>
    have free : ∀ entry ∈ entries, entry.1 ≠ collection := by
      rintro ⟨name, epoch⟩ listed rfl
      cases (known epoch).1 listed
    have inserted := insertRow_new (keyedBy_epochs dialect) (collection, candidate) free epochTable
    rw [← table] at inserted
    refine ⟨⟨_, (execute_insert created (inserted _ none) _).trans ?_, rfl⟩⟩
    simp [returned, find?_epochRow, Datum.toCell, Value.toCell, raised]
  | some previous =>
    have listed : (collection, previous) ∈ entries := (known previous).2 rfl
    have inserted := insertRow_change (keyedBy_epochs dialect) nodup (collection, candidate)
      (collection, raised candidate (some previous)) listed rfl rfl epochTable none rfl
      (assign_raised dialect collection roomAfter)
    rw [← table] at inserted
    refine ⟨⟨_, (execute_insert created inserted _).trans ?_, rfl⟩⟩
    simp [returned, find?_epochRow, Datum.toCell, Value.toCell]

/-- Reading an epoch. -/
theorem runs_selectEpoch (table : server.tables epochTable = entries.map epochRow)
    (nodup : (entries.map Prod.fst).Nodup) {latest : Option Epoch}
    (known : ∀ epoch, (collection, epoch) ∈ entries ↔ latest = some epoch) :
    server.Runs dialect (selectEpoch collection)
      (latest.toList.map fun epoch => [.int epoch.millis]) latest.toList.length server := by
  have kept : (entries.filter fun entry => entry.1 = collection) =
      (latest.map fun epoch => (collection, epoch)).toList := by
    refine filter_eq_toList nodup fun ⟨name, epoch⟩ => ?_
    simp only [decide_eq_true_eq, Option.map_eq_some_iff, Prod.mk.injEq]
    constructor
    · rintro ⟨listed, rfl⟩
      exact ⟨epoch, (known epoch).1 listed, rfl, rfl⟩
    · rintro ⟨other, held, rfl, rfl⟩
      exact ⟨(known other).2 held, rfl⟩
  have found : dialect.found server.tables
      { items := [.column "last_modified"], source := epochTable,
        condition := Expr.columnIs "path" collection } =
      latest.toList.map fun epoch => epochRow (collection, epoch) := by
    have tested : (fun row => (Expr.columnIs "path" collection).passes
        (dialect.scope server.tables row 0)) ∘ epochRow =
          fun entry : String × Epoch => decide (entry.1 = collection) := by
      funext entry
      simp [Expr.columnIs, Expr.eval, Dialect.scope, find?_epochRow, compareData_text]
      rfl
    simp only [Dialect.found, table, List.filter_map, Option.all_some]
    rw [tested, kept]
    cases latest <;> rfl
  have runs := runs_query dialect server
    { items := [.column "last_modified"], source := epochTable,
      condition := Expr.columnIs "path" collection }
  rw [rows_unordered server.tables rfl rfl rfl, found] at runs
  simpa [selectEpoch, Dialect.display, Expr.eval, Dialect.scope, find?_epochRow, Datum.toCell,
    Value.toCell, Function.comp_def] using runs

end Epochs

/-! ## Writing documents -/

section Documents

variable {entries : List (String × Document)}

/-- A document as it is stored in a row that is no tombstone. -/
def stored (document : Document) (modified : Epoch) : Document :=
  { document with modified, deleted := false }

/-- The row that is to be inserted for a document. -/
theorem assign_document (collection : String) (document : Document)
    {modified : Epoch} (room : Storable modified) :
    Dialect.assign { dialect, row := Dict.empty } Dict.empty
      (["path", "id", "data", "last_modified", "deleted"].zip
        [.bound (.text collection), .bound (.text document.id),
          .bound (.jsonb (.obj document.fields)), .bound (.int8 modified.millis), .truth false]) =
      .ok (documentRow (collection, stored document modified)) := by
  have same : Dict.insert (Dict.insert (Dict.insert (Dict.insert (Dict.insert
      (Dict.empty : Record) "path" (.text collection)) "id" (.text document.id))
      "data" (.jsonb (.obj document.fields))) "last_modified" (.int8 modified.millis))
      "deleted" (.bool false) = documentRow (collection, stored document modified) := by
    refine Dict.ext fun column => ?_
    simp only [Dict.find?_insert, Dict.find?_empty, find?_documentRow, stored]
  exact (Dialect.assign_cons _ rfl rfl).trans <| (Dialect.assign_cons _ rfl rfl).trans <|
    (Dialect.assign_cons _ rfl rfl).trans <| (Dialect.assign_cons _ rfl room.fits).trans <|
      (Dialect.assign_cons _ rfl rfl).trans (congrArg Except.ok same)

/-- What becomes of the row of a document that another one is written over. -/
theorem assign_overwritten {collection : String} {old document : Document}
    (same : old.id = document.id) {modified : Epoch} (room : Storable modified) :
    Dialect.assign
      { dialect, row := documentRow (collection, old),
        excluded := documentRow (collection, stored document modified) }
      (documentRow (collection, old))
      [("data", .columnOf "EXCLUDED" "data"),
        ("last_modified", .columnOf "EXCLUDED" "last_modified"), ("deleted", .truth false)] =
      .ok (documentRow (collection, stored document modified)) := by
  have row : Dict.insert (Dict.insert (Dict.insert (documentRow (collection, old)) "data"
      (.jsonb (.obj document.fields))) "last_modified" (.int8 modified.millis)) "deleted"
      (.bool false) = documentRow (collection, stored document modified) := by
    refine Dict.ext fun column => ?_
    simp only [Dict.find?_insert, find?_documentRow, stored, same]
    grind
  have data (scope : Scope)
      (excluded : scope.excluded = documentRow (collection, stored document modified)) :
      (Expr.columnOf "EXCLUDED" "data").eval scope = some (.jsonb (.obj document.fields)) := by
    simp [Expr.eval, excluded, documentRow, stored]
  have epoch (scope : Scope)
      (excluded : scope.excluded = documentRow (collection, stored document modified)) :
      (Expr.columnOf "EXCLUDED" "last_modified").eval scope = some (.int8 modified.millis) := by
    simp [Expr.eval, excluded, documentRow, stored]
  rw [Dialect.assign_cons _ (data _ rfl) rfl, Dialect.assign_cons _ (epoch _ rfl) room.fits,
    Dialect.assign_cons _ rfl rfl]
  exact congrArg Except.ok row

/-- Writing a document over the row with its key, if the condition admits it. -/
theorem runs_writeDocument (table : server.tables documentTable = entries.map documentRow)
    (nodup : (entries.map documentKey).Nodup) (collection : String) (document : Document)
    {modified : Epoch} (room : Storable modified) {overwritten : Option Expr}
    (admitted : ∀ old, (collection, old) ∈ entries → old.id = document.id →
      overwritten.all (Expr.passes
        { dialect, row := documentRow (collection, old),
          excluded := documentRow (collection, stored document modified) }) = true)
    (returning : Option String) (returns : ∀ column ∈ returning, column = "last_modified") :
    server.Runs dialect (writeDocument collection document modified overwritten returning)
      (returning.toList.map fun _ => [.int modified.millis]) 1
      { server with
        tables := server.tables.set documentTable
          ((put documentKey (collection, stored document modified) entries).map documentRow) } := by
  have created := assign_document dialect collection document room
  have shown : returned returning [documentRow (collection, stored document modified)] =
      returning.toList.map fun _ => [.int modified.millis] := by
    cases returning with
    | none => rfl
    | some column =>
      rw [returns column rfl]
      simp [returned, documentRow, Datum.toCell, Value.toCell, stored]
  by_cases taken : ∃ old, (collection, old) ∈ entries ∧ old.id = document.id
  · obtain ⟨old, listed, same⟩ := taken
    have inserted := insertRow_change (keyedBy_documents dialect) nodup
      (collection, stored document modified) (collection, stored document modified) listed
      (Prod.ext rfl same) rfl documentTable overwritten (admitted old listed same)
      (assign_overwritten dialect same room)
    rw [← table] at inserted
    refine ⟨⟨_, (execute_insert created inserted _).trans ?_, rfl⟩⟩
    rw [Option.toList_some, shown]
    rfl
  · have free : ∀ entry ∈ entries,
        documentKey entry ≠ documentKey (collection, stored document modified) := by
      rintro ⟨name, old⟩ listed same
      obtain ⟨rfl, sameId⟩ := Prod.mk.inj same
      exact taken ⟨old, listed, sameId⟩
    have inserted := insertRow_new (keyedBy_documents dialect)
      (collection, stored document modified) free documentTable
    rw [← table] at inserted
    refine ⟨⟨_, (execute_insert created (inserted _ overwritten) _).trans ?_, rfl⟩⟩
    rw [Option.toList_some, shown]
    rfl

/-! ## Reading documents -/

/-- Whether an item is the live document of a collection with an identifier. -/
def isLiveAt (collection id : String) (entry : String × Document) : Bool :=
  entry.1 == collection && (entry.2.id == id && !entry.2.deleted)

theorem passes_isLiveRow (scope : Scope) {entry : String × Document}
    (row : scope.row = documentRow entry) : isLiveRow.passes scope = !entry.2.deleted := by
  simp [Expr.passes, isLiveRow, Expr.eval, row, documentRow, Datum.truth, Truth.not]

theorem passes_isLiveDocument (scope : Scope) {entry : String × Document}
    (row : scope.row = documentRow entry) (collection id : String) :
    (isLiveDocument collection id).passes scope = isLiveAt collection id entry := by
  simp [isLiveDocument, passes_isLiveRow scope row, Expr.columnIs, Expr.eval, row, documentRow,
    compareData_text, isLiveAt]

section

variable (table : server.tables documentTable = entries.map documentRow)
  (nodup : (entries.map documentKey).Nodup) {collection id : String} {live : Option Document}
  (known : ∀ document, (collection, document) ∈ entries ∧ document.id = id ∧
    document.deleted = false ↔ live = some document)
include table nodup known

/-- The rows of the live document with an identifier: there is one at most. -/
theorem found_live {query : Select}
    (source : query.source = some documentTable)
    (condition : query.condition = some (isLiveDocument collection id)) :
    dialect.found server.tables query =
      live.toList.map fun document => documentRow (collection, document) := by
  have kept : entries.filter (isLiveAt collection id) =
      (live.map fun document => (collection, document)).toList := by
    refine filter_eq_toList nodup fun ⟨name, document⟩ => ?_
    simp only [isLiveAt, Bool.and_eq_true, beq_iff_eq, Bool.not_eq_true', Option.map_eq_some_iff,
      Prod.mk.injEq]
    constructor
    · rintro ⟨listed, rfl, same, mark⟩
      exact ⟨document, (known document).1 ⟨listed, same, mark⟩, rfl, rfl⟩
    · rintro ⟨other, held, rfl, rfl⟩
      obtain ⟨listed, same, mark⟩ := (known other).2 held
      exact ⟨listed, rfl, same, mark⟩
  have tested : (fun row => (isLiveDocument collection id).passes
      (dialect.scope server.tables row 0)) ∘ documentRow = isLiveAt collection id :=
    funext fun entry => passes_isLiveDocument _ rfl collection id
  simp only [Dialect.found, source, condition, table, List.filter_map, Option.all_some]
  rw [tested, kept]
  cases live <;> rfl

/-- A query about the live document with an identifier. -/
theorem runs_live (query : Select)
    (source : query.source = some documentTable)
    (condition : query.condition = some (isLiveDocument collection id))
    (shows : (query.items matches [.rowCount]) = false) (all : query.distinct = false)
    (unordered : query.order = []) (limit : query.limit ≠ some 0) :
    server.Runs dialect (.select query)
      (live.toList.map fun document =>
        dialect.display server.tables query.items (documentRow (collection, document)) 0)
      live.toList.length server := by
  have runs := runs_query dialect server query
  have short : (live.toList.map fun document => dialect.display server.tables query.items
      (documentRow (collection, document)) 0).length ≤ 1 := by
    cases live <;> simp
  rw [rows_unordered server.tables shows all unordered,
    found_live dialect table nodup known source condition, List.map_map] at runs
  simp only [Function.comp_def] at runs
  rw [Dialect.upTo_of_length_le limit short, List.length_map] at runs
  exact runs

theorem runs_selectDocument (locking : Bool) :
    server.Runs dialect (selectDocument collection id locking)
      (live.toList.map fun document => [.str document.id, .int document.modified.millis,
        .bool document.deleted, .obj document.fields]) live.toList.length server := by
  have runs := runs_live dialect table nodup known
    { items := documentColumns.map Expr.column, source := documentTable,
      condition := isLiveDocument collection id, locking } rfl rfl rfl rfl rfl (by simp)
  simpa [selectDocument, documentColumns, Dialect.display, Expr.eval, Dialect.scope, documentRow,
    Datum.toCell, Value.toCell] using runs

theorem runs_selectPresence :
    server.Runs dialect (selectPresence collection id)
      (live.toList.map fun _ => [.bool true]) live.toList.length server := by
  have runs := runs_live dialect table nodup known
    { items := [.truth true], source := documentTable,
      condition := isLiveDocument collection id, limit := some 1 } rfl rfl rfl rfl rfl (by simp)
  simpa [selectPresence, Dialect.display, Expr.eval, Datum.toCell, Value.toCell] using runs

theorem runs_selectData :
    server.Runs dialect (selectData collection id)
      (live.toList.map fun document => [.obj document.fields]) live.toList.length server := by
  have runs := runs_live dialect table nodup known
    { items := [.column "data"], source := documentTable,
      condition := isLiveDocument collection id, locking := true } rfl rfl rfl rfl rfl (by simp)
  simpa [selectData, Dialect.display, Expr.eval, Dialect.scope, documentRow, Datum.toCell,
    Value.toCell] using runs

end

/-- Counting the live documents. -/
theorem runs_selectSize (table : server.tables documentTable = entries.map documentRow) :
    server.Runs dialect selectSize
      [[.int (entries.countP fun entry => !entry.2.deleted)]] 1 server := by
  have tested : (fun row => isLiveRow.passes (dialect.scope server.tables row 0)) ∘ documentRow =
      fun entry => !entry.2.deleted :=
    funext fun entry => passes_isLiveRow _ rfl
  have found : (dialect.found server.tables
      { items := [.rowCount], source := documentTable, condition := isLiveRow }).length =
      entries.countP fun entry => !entry.2.deleted := by
    simp only [Dialect.found, table, List.filter_map, Option.all_some, List.length_map]
    rw [tested, List.countP_eq_length_filter]
  have runs := runs_query dialect server
    { items := [.rowCount], source := documentTable, condition := isLiveRow }
  simpa [selectSize, Dialect.rows, Dialect.display, Expr.eval, Dialect.scope, found, Datum.toCell,
    Value.toCell] using runs

/-! ## Burying and deleting -/

/-- A live document as a tombstone. -/
def tombstone (document : Document) (modified : Epoch) : Document :=
  { document with modified, deleted := true }

theorem assign_tombstone (collection : String) (document : Document) {modified : Epoch}
    (room : Storable modified) :
    Dialect.assign { dialect, row := documentRow (collection, document) }
      (documentRow (collection, document))
      [("deleted", .truth true), ("last_modified", .bound (.int8 modified.millis))] =
      .ok (documentRow (collection, tombstone document modified)) := by
  have row : Dict.insert (Dict.insert (documentRow (collection, document)) "deleted"
      (.bool true)) "last_modified" (.int8 modified.millis) =
      documentRow (collection, tombstone document modified) := by
    refine Dict.ext fun column => ?_
    simp only [Dict.find?_insert, find?_documentRow, tombstone]
    grind
  exact (Dialect.assign_cons _ rfl rfl).trans
    ((Dialect.assign_cons _ rfl room.fits).trans (congrArg Except.ok row))

/-- Burying a live document writes the tombstone in its place. -/
theorem runs_buryDocument (table : server.tables documentTable = entries.map documentRow)
    (nodup : (entries.map documentKey).Nodup) {collection : String} {document : Document}
    (listed : (collection, document) ∈ entries) (live : document.deleted = false)
    {modified : Epoch} (room : Storable modified) :
    server.Runs dialect (buryDocument collection document.id modified) [] 1
      { server with
        tables := server.tables.set documentTable
          ((put documentKey (collection, tombstone document modified) entries).map
            documentRow) } := by
  have only : ∀ entry ∈ entries,
      (isLiveDocument collection document.id).passes { dialect, row := documentRow entry } =
        true ↔ entry = (collection, document) := by
    rintro ⟨name, other⟩ member
    rw [passes_isLiveDocument _ rfl, isLiveAt]
    constructor
    · intro passed
      simp only [Bool.and_eq_true, beq_iff_eq] at passed
      exact List.inj_on_of_nodup_map nodup member listed (Prod.ext passed.1 passed.2.1)
    · intro same
      obtain ⟨rfl, rfl⟩ := Prod.mk.inj same
      simp [live]
  refine ⟨⟨_, execute_update table nodup listed ?_ only ?_, rfl⟩⟩
  · rfl
  · exact assign_tombstone dialect collection document room

/-- Whether a purge takes a document away. -/
def isPurged (olderThan : Epoch) (entry : String × Document) : Bool :=
  entry.2.deleted && !DocumentSession.survives olderThan entry.2

/-- Purging leaves the rows of everything else. -/
theorem runs_deleteTombstones (table : server.tables documentTable = entries.map documentRow)
    (olderThan : Epoch) :
    server.Runs dialect (deleteTombstones olderThan) [] (entries.countP (isPurged olderThan))
      { server with
        tables := server.tables.set documentTable
          ((entries.filter fun entry => !isPurged olderThan entry).map documentRow) } := by
  refine ⟨⟨_, execute_delete table fun entry => ?_, rfl⟩⟩
  have mark : (Expr.column "deleted").passes { dialect, row := documentRow entry } =
      entry.2.deleted := by
    simp [Expr.passes, Expr.eval, documentRow, Datum.truth]
  have all : (Expr.bound (.bool olderThan.isZero)).passes { dialect, row := documentRow entry } =
      olderThan.isZero := rfl
  have below : (Dialect.compareData dialect .less (some (.int8 entry.2.modified.millis))
      (some (.int8 olderThan.millis))).passes = decide (entry.2.modified < olderThan) := by
    simp only [Dialect.compareData, Dialect.compareValues, Comparison.test, Truth.passes_some,
      compare_lt_iff_lt]
    rfl
  have notBelow : decide (entry.2.modified < olderThan) =
      !decide (olderThan ≤ entry.2.modified) := by
    rw [← decide_not]
    exact decide_eq_decide.2 Int.not_le.symm
  have epoch : (documentRow entry).find? "last_modified" = some (.int8 entry.2.modified.millis) :=
    documentRecord_modified _ _
  simp only [Expr.passes_and, Expr.passes_paren, Expr.passes_or, Expr.passes_compare, mark, all,
    Expr.eval, epoch, below, notBelow, isPurged, DocumentSession.survives, Bool.not_and,
    Bool.not_not]

/-! ## Documents below a path -/

/-- Whether an item is a live document below a path. -/
def isLiveBelow (path : Path) (entry : String × Document) : Bool :=
  isBelow path entry.1 && !entry.2.deleted

theorem found_below (table : server.tables documentTable = entries.map documentRow) (path : Path)
    {query : Select} (source : query.source = some documentTable)
    (condition : query.condition = some (.and
      (.compare .like (.column "path") (.bound (.text (likeStart path.text ++ "/%"))))
      isLiveRow)) :
    dialect.found server.tables query = (entries.filter (isLiveBelow path)).map documentRow := by
  have tested : (fun row => query.condition.all (Expr.passes
      (dialect.scope server.tables row 0))) ∘ documentRow = isLiveBelow path := by
    funext entry
    have live := passes_isLiveRow (dialect.scope server.tables (documentRow entry) 0) rfl
    have cell : (dialect.scope server.tables (documentRow entry) 0).row.find? "path" =
        some (.text entry.1) := documentRecord_path _ _
    have like : (dialect.compareData .like (some (.text entry.1))
        (some (.text (likeStart path.text ++ "/%")))).passes = isBelow path entry.1 := by
      rw [passes_like, isLike_likeStart, isBelow, belowMark]
    simp only [condition, Function.comp_apply, Option.all_some, Expr.passes_and, live,
      Expr.passes_compare, Expr.eval, cell, isLiveBelow]
    rw [← like]
    rfl
  simp only [Dialect.found, source, table, List.filter_map, tested]

/-- The keys of the live documents below a path are shown in order. -/
theorem runs_selectBelow (table : server.tables documentTable = entries.map documentRow)
    (nodup : (entries.map documentKey).Nodup) {path : Path} {keys : List (String × String)}
    (sorted : keys.Pairwise fun left right => toLex left < toLex right)
    (known : ∀ key, key ∈ keys ↔ ∃ entry ∈ entries, documentKey entry = key ∧
      isLiveBelow path entry = true) :
    server.Runs dialect (selectBelow path) (keys.map fun key => [.str key.1, .str key.2])
      keys.length server := by
  have once : ((entries.filter (isLiveBelow path)).map documentKey).Nodup :=
    nodup.sublist (List.filter_sublist.map _)
  let query : Select := {
    items := [.column "path", .column "id"]
    source := documentTable
    condition := some (.and
      (.compare .like (.column "path") (.bound (.text (likeStart path.text ++ "/%")))) isLiveRow)
    order := ["path", "id"] }
  have found : dialect.found server.tables query =
      (entries.filter (isLiveBelow path)).map documentRow :=
    found_below dialect table path rfl rfl
  obtain ⟨pairs, rows, increasing, mem_iff⟩ := rows_pairs found (fun _ => documentRecord_path _ _)
    (fun _ => documentRecord_id _ _) rfl rfl rfl rfl once
  have same : pairs = keys := by
    refine increasing.eq_of_mem_iff sorted fun key => ?_
    simp only [mem_iff, known, List.mem_filter, documentKey]
    grind
  rw [← same]
  exact runs_rows rows

end Documents

/-- Emptying both tables. -/
theorem runs_emptyDocuments : server.Runs dialect emptyDocuments [] 0
    { server with tables := fun name =>
        if name ∈ [documentTable, epochTable] then [] else server.tables name } :=
  ⟨⟨_, rfl, rfl⟩⟩

end Sql
end DocStore
