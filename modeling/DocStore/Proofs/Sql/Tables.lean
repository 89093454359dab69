import Mathlib.Algebra.Group.Int.Defs
import DocStore.Proofs.Sql.Meaning
import DocStore.Sql.Pool
import DocStore.Sql.Statement

/-!
# What statements do to tables

A server keeps tables, lists of rows, and executes one statement after the other
(`Dialect.execute`).  An insertion looks for a row with the same key first; an update and a
deletion go through the rows that pass their condition; a query shows rows, in order if it
asks for one.  Integers have 64 bits, and a statement that would keep a greater one is refused.
In a transaction the server remembers the tables of its beginning, so that they can be brought
back (`Server.answer`).

Listings, whose head is a text, are left out.
-/

namespace DocStore
namespace Sql

/-- The rows of a table. -/
abbrev Table := List Record

/-- Tables by name. -/
abbrev Database := String → Table

/-- The tables after one of them is given its rows. -/
def Database.set (tables : Database) (name : String) (table : Table) : Database :=
  fun other => if other = name then table else tables other

@[simp] theorem set_same (tables : Database) (name : String) (table : Table) :
    tables.set name table name = table := if_pos rfl

theorem set_other (tables : Database) {name other : String} (table : Table)
    (different : other ≠ name) : tables.set name table other = tables other := if_neg different

/-- The columns of a table that tell its rows apart. -/
def primaryKey : String → List String
  | "storage_objects" => ["path", "id"]
  | "storage_timestamps" => ["path"]
  | "permission_paths" => ["path", "permission", "principal"]
  | "permission_principals" => ["user_id", "principal"]
  | "metainfo" => ["name"]
  | _ => []

/-- What is read, or changed, item by item. -/
theorem mapM_map_ok {ε α β γ : Type} {f : β → Except ε γ} {row : α → β} {value : α → γ}
    {items : List α} (each : ∀ item ∈ items, f (row item) = .ok (value item)) :
    (items.map row).mapM f = .ok (items.map value) := by
  induction items with
  | nil => rfl
  | cons item rest ih =>
    have others := ih fun other listed => each other (List.mem_cons_of_mem _ listed)
    rw [List.map_cons, List.mapM_cons, each item List.mem_cons_self, others]
    rfl

/-! ## Cells -/

/-- Whether a datum has room in a cell: integers have 64 bits. -/
def Datum.fits : Datum → Bool
  | some (.int8 value) => decide (-2 ^ 63 ≤ value ∧ value < 2 ^ 63)
  | _ => true

/-- A value as it arrives. -/
def Value.toCell : Value → Json
  | .text content => .str content
  | .int8 number => .int number
  | .bool truth => .bool truth
  | .jsonb json => json
  | .textArray contents => .arr (contents.map .str)
  | .jsonbArray items => .arr items

/-- A datum as it arrives. -/
def Datum.toCell (datum : Datum) : Json := (datum.map Value.toCell).getD .null

/-- How it is said that an integer needs more than 64 bits. -/
def outOfRange : String := "bigint out of range"

namespace Dialect

variable (dialect : Dialect)

/-- The order of two data; nulls come last. -/
def compareCells : Datum → Datum → Ordering
  | some (.text left), some (.text right) => Ord.compare left right
  | some (.int8 left), some (.int8 right) => Ord.compare left right
  | some (.bool left), some (.bool right) => Ord.compare left right
  | some (.jsonb left), some (.jsonb right) => dialect.order left right
  | some _, none => .lt
  | none, some _ => .gt
  | _, _ => .eq

/-- Whether a row does not come after another one, in the order of columns. -/
def precedes : List String → Record → Record → Bool
  | [], _, _ => true
  | column :: rest, left, right =>
    match dialect.compareCells (left.find? column) (right.find? column) with
    | .lt => true
    | .eq => precedes rest left right
    | .gt => false

/-- Whether two rows have the same key. -/
def sameKey (key : List String) (left right : Record) : Bool :=
  key.all fun column =>
    (dialect.compareData .equal (left.find? column) (right.find? column)).passes

/-- A row after assignments, whose values are taken in a scope that stays as it is. -/
def assign (scope : Scope) (record : Record) : List (String × Expr) → Except String Record
  | [] => .ok record
  | (column, value) :: rest =>
    if Datum.fits (value.eval scope) then
      assign scope (Dict.assign record column (value.eval scope)) rest
    else .error outOfRange

/-- An assignment gives a column the value of its expression. -/
theorem assign_cons {scope : Scope} {record : Record} {column : String} {expr : Expr}
    {value : Value} (rest : List (String × Expr)) (evaluated : expr.eval scope = some value)
    (room : Datum.fits (some value) = true) :
    assign scope record ((column, expr) :: rest) =
      assign scope (record.insert column value) rest := by
  rw [assign, evaluated, if_pos room]
  rfl

/-- A row that is written, if one is, and the rows of the table after a row was to be
inserted. -/
def insertRow (name : String) (conflict : OnConflict) (table : Table) (new : Record) :
    Except String (Option Record × Table) :=
  match conflict with
  | .skip =>
    .ok (if table.any (dialect.sameKey (primaryKey name) new) then (none, table)
      else (some new, table ++ [new]))
  | .change key assignments condition =>
    match table.find? (dialect.sameKey key new) with
    | none => .ok (some new, table ++ [new])
    | some old =>
      let scope : Scope := { dialect, row := old, excluded := new }
      if condition.all (Expr.passes scope) then
        (assign scope old assignments).map fun changed =>
          (some changed, table.map fun row => if dialect.sameKey key new row then changed else row)
      else .ok (none, table)

/-- The rows that are written, and the rows of the table after rows were to be inserted. -/
def insertRows (name : String) (columns : List String) (conflict : OnConflict) (table : Table) :
    List (List Expr) → Except String (List Record × Table)
  | [] => .ok ([], table)
  | values :: rest => do
    let new ← assign { dialect, row := Dict.empty } Dict.empty (columns.zip values)
    let (written, table) ← insertRow dialect name conflict table new
    let (others, table) ← insertRows name columns conflict table rest
    return (written.toList ++ others, table)

/-- Where a query is evaluated in a row. -/
def scope (tables : Database) (row : Record) (selected : Nat) : Scope :=
  { dialect, row, selected, size := fun name => (tables name).length }

/-- What a query shows of a row. -/
def display (tables : Database) (items : List Expr) (row : Record) (selected : Nat) : Row :=
  items.map fun item => Datum.toCell (item.eval (dialect.scope tables row selected))

/-- The rows that a query is about. -/
def found (tables : Database) (query : Select) : List Record :=
  (match query.source with
    | some name => tables name
    | none => [Dict.empty]).filter fun row =>
      query.condition.all (Expr.passes (dialect.scope tables row 0))

/-- The first of several rows, up to a limit. -/
def upTo (limit : Option Nat) (shown : List Row) : List Row :=
  match limit with
  | some number => shown.take number
  | none => shown

@[simp] theorem upTo_none (shown : List Row) : upTo none shown = shown := rfl

theorem upTo_of_length_le {limit : Option Nat} (positive : limit ≠ some 0) {shown : List Row}
    (short : shown.length ≤ 1) : upTo limit shown = shown := by
  cases limit with
  | none => rfl
  | some number =>
    refine List.take_of_length_le (Nat.le_trans short ?_)
    exact Nat.one_le_iff_ne_zero.2 fun zero => positive (congrArg some zero)

/-- The rows that a query shows; one that counts shows one row. -/
def rows (tables : Database) (query : Select) : List Row :=
  let found := dialect.found tables query
  let shown :=
    if query.items matches [.rowCount] then
      [dialect.display tables query.items Dict.empty found.length]
    else
      (found.mergeSort (dialect.precedes query.order)).map fun row =>
        dialect.display tables query.items row 0
  let once := if query.distinct then shown.eraseDupsBy Json.sameItems else shown
  upTo query.limit once

end Dialect

/-! ## Statements -/

/-- What a statement leaves: the rows it returns, how many rows it wrote or took away, and the
tables. -/
structure Outcome where
  rows : List Row
  affected : Nat
  tables : Database

/-- What an insertion returns of the rows that it wrote. -/
def returned (returning : Option String) (written : List Record) : List Row :=
  match returning with
  | some column => written.map fun row => [Datum.toCell (row.find? column)]
  | none => []

namespace Dialect

variable (dialect : Dialect)

/-- Executes a statement, or says why it is refused. -/
def execute (tables : Database) : Statement → Except String Outcome
  | .createTable _ _ => .ok ⟨[], 0, tables⟩
  | .createIndex _ _ _ => .ok ⟨[], 0, tables⟩
  | .truncate names => .ok ⟨[], 0, fun name => if name ∈ names then [] else tables name⟩
  | .insert name columns values conflict returning => do
    let (written, table) ← dialect.insertRows name columns conflict (tables name) values
    return ⟨returned returning written, written.length, tables.set name table⟩
  | .update name assignments condition => do
    let passes (row : Record) := condition.passes { dialect, row }
    let table ← (tables name).mapM fun row =>
      if passes row then assign { dialect, row } row assignments else .ok row
    return ⟨[], (tables name).countP passes, tables.set name table⟩
  | .delete name condition =>
    let passes (row : Record) := condition.passes { dialect, row }
    .ok ⟨[], (tables name).countP passes,
      tables.set name ((tables name).filter fun row => !passes row)⟩
  | .select query =>
    let shown := dialect.rows tables query
    .ok ⟨shown, shown.length, tables⟩
  | .list _ => .error "listings are left out"

end Dialect

/-- What a query shows that does not count. -/
theorem rows_of_items {dialect : Dialect} (tables : Database) {query : Select}
    (shows : (query.items matches [.rowCount]) = false) :
    let shown := ((dialect.found tables query).mergeSort (dialect.precedes query.order)).map
      fun row => dialect.display tables query.items row 0
    dialect.rows tables query = Dialect.upTo query.limit
      (if query.distinct then shown.eraseDupsBy Json.sameItems else shown) := by
  simp only [Dialect.rows, shows, Bool.false_eq_true, if_false]

/-- What a query shows that neither counts nor leaves equal rows out. -/
theorem rows_eq {dialect : Dialect} (tables : Database) {query : Select}
    (shows : (query.items matches [.rowCount]) = false) (all : query.distinct = false) :
    dialect.rows tables query =
      Dialect.upTo query.limit
        (((dialect.found tables query).mergeSort (dialect.precedes query.order)).map fun row =>
          dialect.display tables query.items row 0) := by
  rw [rows_of_items tables shows, all, if_neg Bool.false_ne_true]

/-- A query without an order shows rows as they come. -/
theorem rows_unordered {dialect : Dialect} (tables : Database) {query : Select}
    (shows : (query.items matches [.rowCount]) = false) (all : query.distinct = false)
    (unordered : query.order = []) : dialect.rows tables query =
      Dialect.upTo query.limit ((dialect.found tables query).map fun row =>
        dialect.display tables query.items row 0) := by
  have asTheyCome : (dialect.found tables query).mergeSort (dialect.precedes query.order) =
      dialect.found tables query := by
    refine List.mergeSort_of_pairwise ?_
    rw [unordered]
    exact List.pairwise_of_forall fun _ _ => rfl
  rw [rows_eq tables shows all, asTheyCome]

/-- Inserting one row. -/
theorem execute_insert {dialect : Dialect} {tables : Database} {name : String}
    {columns : List String} {values : List Expr} {conflict : OnConflict} {new : Record}
    {written : Option Record} {table : Table}
    (created : Dialect.assign { dialect, row := Dict.empty } Dict.empty (columns.zip values) =
      .ok new)
    (inserted : dialect.insertRow name conflict (tables name) new = .ok (written, table))
    (returning : Option String) :
    dialect.execute tables (.insert name columns [values] conflict returning) =
      .ok ⟨returned returning written.toList, written.toList.length, tables.set name table⟩ := by
  simp only [Dialect.execute, Dialect.insertRows, created, inserted, bind, Except.bind, pure,
    Except.pure, List.append_nil]

/-! ## Servers -/

/-- A server with its tables. -/
structure Server where
  tables : Database
  /-- What the tables were when the open transaction began. -/
  saved : Option Database

namespace Server

/-- A server whose tables have no rows. -/
def empty : Server := ⟨fun _ => [], none⟩

/-- Answers a message. -/
def answer (dialect : Dialect) (server : Server) : Message → Reply × Server
  | .begin => (.done [] 0, { server with saved := some server.tables })
  | .commit => (.done [] 0, { server with saved := none })
  | .rollback => (.done [] 0, ⟨server.saved.getD server.tables, none⟩)
  | .statement statement =>
    match dialect.execute server.tables statement with
    | .ok outcome =>
      (.done outcome.rows outcome.affected, { server with tables := outcome.tables })
    | .error message => (.refused message, server)

end Server
end Sql
end DocStore
