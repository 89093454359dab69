import Mathlib.Order.BooleanAlgebra.Set
import DocStore.Proofs.Sql.Exchange
import DocStore.Proofs.Sql.Keyed

/-!
# Tables of sets

A table whose whole rows are its keys stands for a set: it has one row for each member
(`ShowsSet`).  An insertion that leaves out the rows that are there adds members, rows that come
again among them (`execute_insertNew`); a deletion takes members away
(`execute_deleteMembers`), and a query finds those that pass its condition (`found_members`).
-/

namespace DocStore
namespace Sql

variable {α : Type}

/-- A list of the members of a set, each of them once. -/
structure Enumerates (items : List α) (members : Set α) : Prop where
  nodup : items.Nodup
  mem_iff : ∀ item, item ∈ items ↔ item ∈ members

/-- A table with one row for each member of a set. -/
def ShowsSet (row : α → Record) (table : Table) (members : Set α) : Prop :=
  ∃ items : List α, table = items.map row ∧ Enumerates items members

theorem showsSet_empty (row : α → Record) : ShowsSet row [] ∅ :=
  ⟨[], rfl, List.nodup_nil, fun _ => iff_of_false List.not_mem_nil id⟩

theorem Enumerates.filter {items : List α} {members : Set α}
    (enumerates : Enumerates items members) (test : α → Bool) :
    Enumerates (items.filter test) {item | item ∈ members ∧ test item = true} where
  nodup := enumerates.nodup.filter test
  mem_iff item := by
    rw [List.mem_filter, enumerates.mem_iff]
    rfl

theorem Enumerates.append {items : List α} {members : Set α} {new : α}
    (enumerates : Enumerates items members) (absent : new ∉ items) :
    Enumerates (items ++ [new]) (members ∪ {new}) where
  nodup := by
    rw [List.nodup_append]
    refine ⟨enumerates.nodup, List.nodup_singleton new, ?_⟩
    rintro item listed _ last rfl
    rw [List.mem_singleton] at last
    exact absent (last ▸ listed)
  mem_iff item := by
    rw [List.mem_append, List.mem_singleton, enumerates.mem_iff]
    rfl

section

variable [DecidableEq α] {dialect : Dialect} {tables : Database} {name : String}
  {row : α → Record} {members : Set α}

/-! ## Insertions -/

/-- A row that is there already is left out, and any other one comes last. -/
theorem insertRow_skip (keyed : KeyedBy dialect (primaryKey name) row id) (items : List α)
    (new : α) : dialect.insertRow name .skip (items.map row) (row new) =
      .ok (if new ∈ items then (none, items.map row)
        else (some (row new), (items ++ [new]).map row)) := by
  have taken : (items.map row).any (dialect.sameKey (primaryKey name) (row new)) =
      decide (new ∈ items) := by
    rw [List.any_map, Bool.eq_iff_iff, List.any_eq_true, decide_eq_true_iff]
    constructor
    · rintro ⟨item, listed, same⟩
      rw [Function.comp_apply, keyed new item, decide_eq_true_iff] at same
      have isNew : item = new := same
      rwa [← isNew]
    · intro listed
      exact ⟨new, listed, (keyed new new).trans (decide_eq_true rfl)⟩
  rw [Dialect.insertRow, taken, List.map_append, List.map_singleton]
  simp only [decide_eq_true_eq]

/-- Rows are inserted one after the other, so one that comes again is left out, too. -/
theorem insertRows_skip (keyed : KeyedBy dialect (primaryKey name) row id) {columns : List String}
    {values : α → List Expr}
    (created : ∀ new, Dialect.assign { dialect, row := Dict.empty } Dict.empty
      (columns.zip (values new)) = .ok (row new))
    (news : List α) {items : List α} (enumerates : Enumerates items members) :
    ∃ written after, dialect.insertRows name columns .skip (items.map row) (news.map values) =
        .ok (written, after.map row) ∧
      Enumerates after (members ∪ {new | new ∈ news}) := by
  induction news generalizing items members with
  | nil =>
    refine ⟨[], items, rfl, enumerates.nodup, fun item => ?_⟩
    rw [enumerates.mem_iff]
    simp
  | cons new rest ih =>
    have inserted := insertRow_skip keyed items new
    have grown : members ∪ {item | item ∈ new :: rest} =
        members ∪ {new} ∪ {item | item ∈ rest} := by
      ext item
      simp only [Set.mem_union, Set.mem_ofPred_eq, List.mem_cons, Set.mem_singleton_iff, or_assoc]
    rw [grown, List.map_cons]
    by_cases present : new ∈ items
    · have same : members ∪ {new} = members :=
        Set.union_eq_left.2 (Set.singleton_subset_iff.2 ((enumerates.mem_iff new).1 present))
      obtain ⟨written, after, others, shown⟩ := ih enumerates
      rw [if_pos present] at inserted
      refine ⟨written, after, ?_, same.symm ▸ shown⟩
      simp only [Dialect.insertRows, created, inserted, others, bind, Except.bind, pure,
        Except.pure, Option.toList_none, List.nil_append]
    · obtain ⟨written, after, others, shown⟩ := ih (enumerates.append present)
      rw [if_neg present] at inserted
      refine ⟨row new :: written, after, ?_, shown⟩
      simp only [Dialect.insertRows, created, inserted, others, bind, Except.bind, pure,
        Except.pure, Option.toList_some, List.singleton_append]

/-- An insertion that leaves out the rows that are there adds members. -/
theorem execute_insertNew (keyed : KeyedBy dialect (primaryKey name) row id)
    {columns : List String} {values : α → List Expr}
    (created : ∀ new, Dialect.assign { dialect, row := Dict.empty } Dict.empty
      (columns.zip (values new)) = .ok (row new))
    (news : List α) (shows : ShowsSet row (tables name) members) :
    ∃ affected table, dialect.execute tables (.insert name columns (news.map values) .skip none) =
        .ok ⟨[], affected, tables.set name table⟩ ∧
      ShowsSet row table (members ∪ {new | new ∈ news}) := by
  obtain ⟨items, isTable, enumerates⟩ := shows
  obtain ⟨written, after, inserted, shown⟩ := insertRows_skip keyed created news enumerates
  refine ⟨written.length, after.map row, ?_, after, rfl, shown⟩
  simp only [Dialect.execute, isTable, inserted, bind, Except.bind, pure, Except.pure, returned]

end

section

variable {dialect : Dialect} {tables : Database} {name : String} {row : α → Record}
  {members : Set α}

/-! ## Deletions and queries -/

/-- A deletion takes the members away that pass its condition. -/
theorem execute_deleteMembers (shows : ShowsSet row (tables name) members) {condition : Expr}
    {goes : α → Prop}
    (passes : ∀ item ∈ members,
      condition.passes { dialect, row := row item } = true ↔ goes item) :
    ∃ affected table, dialect.execute tables (.delete name condition) =
        .ok ⟨[], affected, tables.set name table⟩ ∧
      ShowsSet row table (members \ {item | goes item}) := by
  obtain ⟨items, isTable, enumerates⟩ := shows
  let test (item : α) : Bool := condition.passes { dialect, row := row item }
  refine ⟨_, _, execute_delete isTable fun item => rfl, _, rfl, ?_⟩
  have left : members \ {item | goes item} = {item | item ∈ members ∧ (!test item) = true} := by
    ext item
    simp only [Set.mem_sdiff, Set.mem_ofPred_eq, Bool.not_eq_true']
    refine and_congr_right fun member => ?_
    rw [← passes item member]
    exact Bool.not_eq_true _ |>.to_iff
  rw [left]
  exact enumerates.filter fun item => !test item

/-- A query finds the members that pass its condition. -/
theorem found_members (shows : ShowsSet row (tables name) members) {query : Select}
    (source : query.source = some name) {asked : α → Prop}
    (passes : ∀ item ∈ members, query.condition.all
      (Expr.passes (dialect.scope tables (row item) 0)) = true ↔ asked item) :
    ∃ items, dialect.found tables query = items.map row ∧
      Enumerates items {item | item ∈ members ∧ asked item} := by
  obtain ⟨items, isTable, enumerates⟩ := shows
  let test (item : α) : Bool :=
    query.condition.all (Expr.passes (dialect.scope tables (row item) 0))
  refine ⟨items.filter test, ?_, ?_⟩
  · simp only [Dialect.found, source, isTable, List.filter_map]
    rfl
  · have same : {item | item ∈ members ∧ asked item} =
        {item | item ∈ members ∧ test item = true} := by
      ext item
      exact and_congr_right fun member => (passes item member).symm
    rw [same]
    exact enumerates.filter test

end

end Sql
end DocStore
