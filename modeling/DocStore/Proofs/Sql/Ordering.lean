import Mathlib.Data.Prod.Lex
import Mathlib.Data.String.Basic
import DocStore.Proofs.Sql.Keyed

/-!
# Rows in order

What queries show of text columns.  A query for one column shows the texts of the rows that it
finds, in order if it asks for that (`rows_column`), and each of them once if it asks for
that.  A query for two columns in the order of both shows the pairs in order (`rows_pairs`).
-/

namespace DocStore
namespace Sql

/-! ## Equal rows -/

theorem eraseDups_sublist {α : Type} [BEq α] (items : List α) : items.eraseDups.Sublist items := by
  cases items with
  | nil => exact .slnil
  | cons item rest =>
    rw [List.eraseDups_cons]
    exact ((eraseDups_sublist _).trans List.filter_sublist).cons_cons item
termination_by items.length
decreasing_by exact Nat.lt_succ_of_le (List.length_filter_le ..)

theorem nodup_eraseDups {α : Type} [BEq α] [LawfulBEq α] (items : List α) :
    items.eraseDups.Nodup := by
  cases items with
  | nil => exact List.nodup_nil
  | cons item rest =>
    rw [List.eraseDups_cons, List.nodup_cons]
    refine ⟨fun again => ?_, nodup_eraseDups _⟩
    simpa using (List.mem_filter.1 (List.mem_eraseDups.1 again)).2
termination_by items.length
decreasing_by exact Nat.lt_succ_of_le (List.length_filter_le ..)

/-- The row that shows a text. -/
def textRow (text : String) : Row := [.str text]

/-- The row that shows two texts. -/
def pairRow (pair : String × String) : Row := [.str pair.1, .str pair.2]

theorem sameItems_textRow (left right : String) :
    Json.sameItems (textRow left) (textRow right) = (left == right) := Bool.and_true _

/-- Rows of one text are the same if their texts are. -/
theorem eraseDupsBy_textRows (texts : List String) :
    (texts.map textRow).eraseDupsBy Json.sameItems = texts.eraseDups.map textRow := by
  cases texts with
  | nil => rfl
  | cons text rest =>
    have others : (rest.map textRow).filter
        (fun row => decide (Json.sameItems row (textRow text) = false)) =
          (rest.filter fun other => !other == text).map textRow := by
      rw [List.filter_map]
      refine congrArg (List.map textRow) (List.filter_congr fun other _ => ?_)
      rw [Function.comp_apply, sameItems_textRow]
      cases other == text <;> rfl
    rw [List.map_cons, List.eraseDupsBy_cons, others, eraseDupsBy_textRows, List.eraseDups_cons,
      List.map_cons]
termination_by texts.length
decreasing_by exact Nat.lt_succ_of_le (List.length_filter_le ..)

/-! ## The order of text columns -/

section

variable (dialect : Dialect) {left right : Record} {column other first second third fourth : String}

theorem compareCells_text (first second : String) :
    dialect.compareCells (some (.text first)) (some (.text second)) = compare first second := rfl

theorem precedes_text (inLeft : left.find? column = some (.text first))
    (inRight : right.find? column = some (.text second)) :
    dialect.precedes [column] left right = decide (first ≤ second) := by
  simp only [Dialect.precedes, inLeft, inRight, compareCells_text]
  cases order : compare first second with
  | lt => simp [(compare_lt_iff_lt.1 order).le]
  | eq => simp [(compare_eq_iff_eq.1 order).le]
  | gt => simpa using compare_gt_iff_gt.1 order

/-- Two columns order rows by the first one, and by the second one where that is the same. -/
theorem precedes_pair (inLeft : left.find? column = some (.text first))
    (inRight : right.find? column = some (.text second))
    (alsoLeft : left.find? other = some (.text third))
    (alsoRight : right.find? other = some (.text fourth)) :
    dialect.precedes [column, other] left right =
      decide (toLex (first, third) ≤ toLex (second, fourth)) := by
  have tie := precedes_text dialect alsoLeft alsoRight
  rw [Dialect.precedes, inLeft, inRight, compareCells_text]
  simp only [tie, Prod.Lex.toLex_le_toLex]
  cases order : compare first second with
  | lt => simp [compare_lt_iff_lt.1 order]
  | eq => simp [compare_eq_iff_eq.1 order]
  | gt =>
    have greater := compare_gt_iff_gt.1 order
    simp [greater.not_gt, greater.ne']

end

/-! ## Queries -/

section

variable {α : Type} {dialect : Dialect} {tables : Database} {query : Select} {items : List α}
  {row : α → Record} {column other : String} {text also : α → String}

/-- What a query shows of one column of texts: those of the items in some order, which is that
of the texts if the query asks for it. -/
theorem rows_column (found : dialect.found tables query = items.map row)
    (cells : ∀ item, (row item).find? column = some (.text (text item)))
    (shows : query.items = [.column column]) (unlimited : query.limit = none) :
    ∃ texts : List String, texts.Perm (items.map text) ∧
      (query.order = [column] → texts.Pairwise (· ≤ ·)) ∧
      dialect.rows tables query =
        (if query.distinct then texts.eraseDups else texts).map textRow := by
  let ordered := items.mergeSort fun left right => dialect.precedes query.order (row left) (row right)
  have sorted : (items.map row).mergeSort (dialect.precedes query.order) = ordered.map row :=
    (List.map_mergeSort (f := row) fun _ _ _ _ => rfl).symm
  have display (item : α) : dialect.display tables query.items (row item) 0 =
      textRow (text item) := by
    rw [shows]
    simp only [Dialect.display, List.map_singleton, Expr.eval, Dialect.scope, cells]
    rfl
  refine ⟨ordered.map text, (List.mergeSort_perm _ _).map text, fun asked => ?_, ?_⟩
  · have inOrder : (items.map text).mergeSort (fun left right => decide (left ≤ right)) =
        ordered.map text := by
      refine (List.map_mergeSort fun left _ right _ => ?_).symm
      rw [asked]
      exact precedes_text dialect (cells left) (cells right)
    rw [← inOrder]
    refine (List.pairwise_mergeSort ?_ ?_ _).imp fun le => of_decide_eq_true le
    · simpa using fun _ _ _ => le_trans
    · simpa using le_total
  · have shown : (ordered.map row).map (fun record =>
        dialect.display tables query.items record 0) = (ordered.map text).map textRow := by
      rw [List.map_map, List.map_map]
      exact List.map_congr_left fun item _ => display item
    have rows := @rows_of_items dialect tables query (by rw [shows])
    rw [rows, found, sorted, shown, unlimited, Dialect.upTo_none]
    split
    · exact eraseDupsBy_textRows _
    · rfl

/-- In order and each once, a query for one column shows the texts of the items. -/
theorem rows_column_ordered (found : dialect.found tables query = items.map row)
    (cells : ∀ item, (row item).find? column = some (.text (text item)))
    (shows : query.items = [.column column]) (unlimited : query.limit = none)
    (ordered : query.order = [column])
    (once : query.distinct = false → (items.map text).Nodup) :
    ∃ texts : List String, dialect.rows tables query = texts.map textRow ∧
      texts.Pairwise (· < ·) ∧ ∀ shown, shown ∈ texts ↔ ∃ item ∈ items, text item = shown := by
  obtain ⟨texts, permuted, sorted, rows⟩ := rows_column found cells shows unlimited
  have members (shown : String) : shown ∈ texts ↔ ∃ item ∈ items, text item = shown :=
    permuted.mem_iff.trans List.mem_map
  cases distinct : query.distinct with
  | true =>
    rw [distinct, if_pos rfl] at rows
    refine ⟨_, rows, ?_, fun shown => List.mem_eraseDups.trans (members shown)⟩
    exact ((sorted ordered).sublist (eraseDups_sublist texts)).imp₂
      (fun _ _ => lt_of_le_of_ne) (nodup_eraseDups texts)
  | false =>
    rw [distinct, if_neg Bool.false_ne_true] at rows
    refine ⟨texts, rows, ?_, members⟩
    exact (sorted ordered).imp₂ (fun _ _ => lt_of_le_of_ne) (permuted.nodup_iff.2 (once distinct))

/-- Each once but in no order, a query for one column shows the texts of the items. -/
theorem rows_column_distinct (found : dialect.found tables query = items.map row)
    (cells : ∀ item, (row item).find? column = some (.text (text item)))
    (shows : query.items = [.column column]) (unlimited : query.limit = none)
    (distinct : query.distinct = true) :
    ∃ texts : List String, dialect.rows tables query = texts.map textRow ∧
      ∀ shown, shown ∈ texts ↔ ∃ item ∈ items, text item = shown := by
  obtain ⟨texts, permuted, _, rows⟩ := rows_column found cells shows unlimited
  rw [distinct, if_pos rfl] at rows
  exact ⟨_, rows, fun shown =>
    List.mem_eraseDups.trans (permuted.mem_iff.trans List.mem_map)⟩

/-- A query for two columns in the order of both shows the pairs of the items in order, if their
pairs tell the items apart. -/
theorem rows_pairs (found : dialect.found tables query = items.map row)
    (cells : ∀ item, (row item).find? column = some (.text (text item)))
    (others : ∀ item, (row item).find? other = some (.text (also item)))
    (shows : query.items = [.column column, .column other]) (unlimited : query.limit = none)
    (all : query.distinct = false) (ordered : query.order = [column, other])
    (nodup : (items.map fun item => (text item, also item)).Nodup) :
    ∃ pairs : List (String × String), dialect.rows tables query = pairs.map pairRow ∧
      (pairs.Pairwise fun left right => toLex left < toLex right) ∧
      ∀ pair, pair ∈ pairs ↔ ∃ item ∈ items, (text item, also item) = pair := by
  have display (item : α) : dialect.display tables query.items (row item) 0 =
      pairRow (text item, also item) := by
    rw [shows]
    simp only [Dialect.display, List.map_cons, List.map_nil, Expr.eval, Dialect.scope, cells,
      others]
    rfl
  have rows := @rows_eq dialect tables query (by rw [shows]) all
  -- The server sorts rows by their cells: that is, the items by their pairs.
  let sorted := items.mergeSort fun left right =>
    decide (toLex (text left, also left) ≤ toLex (text right, also right))
  have inRows : sorted.map row = (items.map row).mergeSort (dialect.precedes query.order) := by
    refine List.map_mergeSort fun left _ right _ => ?_
    rw [ordered]
    exact (precedes_pair dialect (cells left) (cells right) (others left) (others right)).symm
  have permuted : sorted.Perm items := List.mergeSort_perm _ _
  refine ⟨sorted.map fun item => (text item, also item), ?_, ?_, fun pair => ?_⟩
  · rw [rows, unlimited, Dialect.upTo_none, found, ← inRows, List.map_map, List.map_map]
    exact List.map_congr_left fun item _ => display item
  · have apart : (sorted.map fun item => (text item, also item)).Nodup :=
      (permuted.map _).nodup_iff.2 nodup
    have inOrder : sorted.Pairwise fun left right =>
        toLex (text left, also left) ≤ toLex (text right, also right) := by
      refine (List.pairwise_mergeSort ?_ ?_ _).imp fun le => of_decide_eq_true le
      · simpa using fun _ _ _ => le_trans
      · simpa using fun _ _ => le_total _ _
    exact (List.pairwise_map.2 inOrder).imp₂
      (fun _ _ le differ => lt_of_le_of_ne le (toLex.injective.ne differ)) apart
  · exact List.mem_map.trans (exists_congr fun item => and_congr_left fun _ => permuted.mem_iff)

end

end Sql
end DocStore
