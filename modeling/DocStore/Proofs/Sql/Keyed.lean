import Mathlib.Data.List.Nodup
import DocStore.Proofs.Sql.Tables

/-!
# Rows that are told apart by a key

A table whose rows stand for items with different keys.  Putting an item gives the key to it: it
takes the place of the item that has the key, or comes last (`put`).  An insertion that changes
the row in conflict puts (`insertRow_change`, `insertRow_new`).
-/

namespace DocStore
namespace Sql

section

variable {α κ : Type} [DecidableEq κ] (key : α → κ)

/-- Gives the key of an item to it. -/
def put (new : α) (items : List α) : List α :=
  if items.any (fun item => key item = key new) then
    items.map fun item => if key item = key new then new else item
  else items ++ [new]

variable {key}

theorem mem_put {new item : α} {items : List α} :
    item ∈ put key new items ↔ item = new ∨ item ∈ items ∧ key item ≠ key new := by
  unfold put
  split
  · rename_i taken
    obtain ⟨old, member, same⟩ := List.any_eq_true.1 taken
    simp only [List.mem_map]
    constructor
    · rintro ⟨other, listed, rfl⟩
      split
      · exact .inl rfl
      · exact .inr ⟨listed, ‹_›⟩
    · rintro (rfl | ⟨listed, different⟩)
      · exact ⟨old, member, if_pos (by simpa using same)⟩
      · exact ⟨item, listed, if_neg different⟩
  · rename_i free
    simp only [List.mem_append, List.mem_singleton]
    constructor
    · rintro (listed | rfl)
      · refine .inr ⟨listed, fun same => free ?_⟩
        exact List.any_eq_true.2 ⟨item, listed, by simpa using same⟩
      · exact .inl rfl
    · rintro (rfl | ⟨listed, _⟩)
      · exact .inr rfl
      · exact .inl listed

/-- Putting keeps the keys different. -/
theorem nodup_put {new : α} {items : List α} (nodup : (items.map key).Nodup) :
    ((put key new items).map key).Nodup := by
  unfold put
  split
  · have same : (items.map fun item => if key item = key new then new else item).map key =
        items.map key := by
      rw [List.map_map]
      refine List.map_congr_left fun item _ => ?_
      simp only [Function.comp_apply]
      split
      · exact ‹key item = key new›.symm
      · rfl
    rwa [same]
  · rename_i free
    rw [List.map_append, List.map_singleton, List.nodup_append]
    refine ⟨nodup, List.nodup_singleton _, ?_⟩
    intro taken listed last isLast same
    obtain ⟨item, member, rfl⟩ := List.mem_map.1 listed
    rw [List.mem_singleton.1 isLast] at same
    exact free (List.any_eq_true.2 ⟨item, member, by simpa using same⟩)

omit [DecidableEq κ] in
/-- A test that one item passes at most leaves that item. -/
theorem filter_eq_toList {items : List α} (nodup : (items.map key).Nodup) {test : α → Bool}
    {found : Option α} (known : ∀ item, item ∈ items ∧ test item = true ↔ found = some item) :
    items.filter test = found.toList := by
  have once : (items.filter test).Nodup := (List.Nodup.of_map key nodup).filter test
  cases found with
  | none =>
    refine List.filter_eq_nil_iff.2 fun item listed passes => ?_
    cases (known item).1 ⟨listed, passes⟩
  | some item =>
    refine List.perm_singleton.1 ?_
    refine (List.perm_ext_iff_of_nodup once (List.nodup_singleton item)).2 fun other => ?_
    rw [List.mem_filter, known, List.mem_singleton, Option.some.injEq, eq_comm]

/-! ## Insertions -/

variable {dialect : Dialect} {columns : List String} {record : α → Record} {items : List α}

/-- The columns of a key tell items apart as their keys do. -/
def KeyedBy (dialect : Dialect) (columns : List String) (record : α → Record) (key : α → κ) :
    Prop :=
  ∀ left right, dialect.sameKey columns (record left) (record right) = decide (key right = key left)

/-- A row whose key is free comes last. -/
theorem insertRow_new (keyed : KeyedBy dialect columns record key) (new : α)
    (free : ∀ item ∈ items, key item ≠ key new) (name : String)
    (assignments : List (String × Expr)) (condition : Option Expr) :
    dialect.insertRow name (.change columns assignments condition) (items.map record)
        (record new) =
      .ok (some (record new), (put key new items).map record) := by
  have absent : (items.map record).find? (dialect.sameKey columns (record new)) = none := by
    rw [List.find?_map, Option.map_eq_none_iff, List.find?_eq_none]
    intro item listed
    simpa [keyed new item] using free item listed
  have notTaken : ¬(items.any fun item => key item = key new) = true := by
    simpa using free
  simp [Dialect.insertRow, absent, put, notTaken]

/-- A row whose key is taken changes the row that has it. -/
theorem insertRow_change (keyed : KeyedBy dialect columns record key)
    (nodup : (items.map key).Nodup) (new changed : α) {old : α} (member : old ∈ items)
    (taken : key old = key new) (kept : key changed = key new) (name : String)
    {assignments : List (String × Expr)} (condition : Option Expr)
    (passes : condition.all
      (Expr.passes { dialect, row := record old, excluded := record new }) = true)
    (assigned : Dialect.assign { dialect, row := record old, excluded := record new }
      (record old) assignments = .ok (record changed)) :
    dialect.insertRow name (.change columns assignments condition) (items.map record)
        (record new) =
      .ok (some (record changed), (put key changed items).map record) := by
  have found : (items.map record).find? (dialect.sameKey columns (record new)) =
      some (record old) := by
    rw [List.find?_map, Option.map_eq_some_iff]
    refine ⟨old, ?_, rfl⟩
    cases first : items.find? (dialect.sameKey columns (record new) ∘ record) with
    | none =>
      have differs := List.find?_eq_none.1 first old member
      simp [keyed new old, taken] at differs
    | some other =>
      have same : key other = key new := by
        simpa [keyed new other] using List.find?_some first
      rw [List.inj_on_of_nodup_map nodup (List.mem_of_find?_eq_some first) member
        (same.trans taken.symm)]
  have isTaken : (items.any fun item => key item = key changed) = true :=
    List.any_eq_true.2 ⟨old, member, by simpa using taken.trans kept.symm⟩
  have rows : (items.map record).map (fun row =>
      if dialect.sameKey columns (record new) row then record changed else row) =
        (put key changed items).map record := by
    rw [put, if_pos isTaken, List.map_map, List.map_map]
    refine List.map_congr_left fun item _ => ?_
    simp only [Function.comp_apply, keyed new item, kept, decide_eq_true_eq]
    split <;> rfl
  simp [Dialect.insertRow, found, passes, assigned, Except.map, rows]

/-! ## Updates and deletions -/

/-- An update whose condition one item passes puts the changed item. -/
theorem execute_update {name : String} {tables : Database}
    (table : tables name = items.map record) (nodup : (items.map key).Nodup) {old changed : α}
    (member : old ∈ items) (kept : key changed = key old) {condition : Expr}
    (passes : ∀ item ∈ items,
      condition.passes { dialect, row := record item } = true ↔ item = old)
    {assignments : List (String × Expr)}
    (assigned : Dialect.assign { dialect, row := record old } (record old) assignments =
      .ok (record changed)) :
    dialect.execute tables (.update name assignments condition) =
      .ok ⟨[], 1, tables.set name ((put key changed items).map record)⟩ := by
  have taken : (items.any fun item => key item = key changed) = true :=
    List.any_eq_true.2 ⟨old, member, by simpa using kept.symm⟩
  have change : (items.map record).mapM (fun row =>
      if condition.passes { dialect, row } then Dialect.assign { dialect, row } row assignments
      else .ok row) = .ok ((put key changed items).map record) := by
    rw [put, if_pos taken]
    rw [List.map_map]
    refine mapM_map_ok fun item listed => ?_
    rw [Function.comp_apply]
    by_cases isOld : item = old
    · rw [if_pos ((passes item listed).2 isOld), isOld, if_pos kept.symm]
      exact assigned
    · have other : key item ≠ key changed := fun same =>
        isOld (List.inj_on_of_nodup_map nodup listed member (same.trans kept))
      rw [if_neg (mt (passes item listed).1 isOld), if_neg other]
  have only : ∀ item, item ∈ items ∧ condition.passes { dialect, row := record item } = true ↔
      some old = some item := by
    intro item
    rw [Option.some.injEq]
    constructor
    · exact fun ⟨listed, passed⟩ => ((passes item listed).1 passed).symm
    · rintro rfl
      exact ⟨member, (passes old member).2 rfl⟩
  have one : (items.map record).countP (fun row => condition.passes { dialect, row }) = 1 := by
    rw [List.countP_map, List.countP_eq_length_filter]
    exact congrArg List.length (filter_eq_toList nodup only)
  simp only [Dialect.execute, table, change, one, bind, Except.bind, pure, Except.pure]

/-- A deletion leaves the items that do not pass its condition. -/
theorem execute_delete {name : String} {tables : Database}
    (table : tables name = items.map record) {condition : Expr} {goes : α → Bool}
    (passes : ∀ item, condition.passes { dialect, row := record item } = goes item) :
    dialect.execute tables (.delete name condition) =
      .ok ⟨[], items.countP goes,
        tables.set name ((items.filter fun item => !goes item).map record)⟩ := by
  simp only [Dialect.execute, table, List.countP_map, List.filter_map, Function.comp_def, passes]

end

end Sql
end DocStore
