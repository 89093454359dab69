import DocStore.Proofs.Cursor.Token
import DocStore.Proofs.Json.Order

/-!
# The rows after a cursor

The conditions of a cursor, one for each sort key, hold of a row exactly if the row comes
after the document that the cursor marks (`Cursor.anyHolds_conditions`).
-/

namespace DocStore

namespace SortKey

/-! ## The order of documents -/

theorem compareBy_eq (key : SortKey) (left right : Document) :
    key.compareBy left right =
      if key.descending then Json.compare (right.get? key.field) (left.get? key.field)
      else Json.compare (left.get? key.field) (right.get? key.field) := by
  unfold compareBy
  split
  · exact Std.OrientedCmp.eq_swap.symm
  · rfl

instance (key : SortKey) : Std.TransCmp key.compareBy where
  eq_swap {left right} := by
    rw [compareBy_eq, compareBy_eq]
    split <;> exact Std.OrientedCmp.eq_swap
  isLE_trans {first second third} before after := by
    rw [compareBy_eq] at before after ⊢
    split
    · rename_i descending
      rw [if_pos descending] at before after
      exact Std.TransCmp.isLE_trans after before
    · rename_i ascending
      rw [if_neg ascending] at before after
      exact Std.TransCmp.isLE_trans before after

theorem compareAll_cons (key : SortKey) (rest : List SortKey) :
    compareAll (key :: rest) = compareLex key.compareBy (compareAll rest) := rfl

/-- Documents are ordered by a total preorder. -/
instance instTransCmpCompareAll : (keys : List SortKey) → Std.TransCmp (compareAll keys)
  | [] => { eq_swap := rfl, isLE_trans := fun _ _ => rfl }
  | key :: rest => by
    have := instTransCmpCompareAll rest
    rw [compareAll_cons]
    infer_instance

/-- Documents that no key tells apart have equal fields. -/
theorem compare_eq_of_compareAll_eq {keys : List SortKey} {left right : Document}
    (same : compareAll keys left right = .eq) {key : SortKey} (member : key ∈ keys) :
    Json.compare (left.get? key.field) (right.get? key.field) = .eq := by
  induction keys with
  | nil => cases member
  | cons first rest ih =>
    rw [compareAll_cons, compareLex, Ordering.then_eq_eq] at same
    rcases List.mem_cons.1 member with rfl | later
    · obtain ⟨head, _⟩ := same
      rw [compareBy_eq] at head
      split at head
      · exact Std.OrientedCmp.eq_symm head
      · exact head
    · exact ih same.2 later

/-! ## Sorted documents -/

theorem sort_perm (keys : List SortKey) (documents : List Document) :
    (sort keys documents).Perm documents := List.mergeSort_perm documents _

theorem pairwise_sort (keys : List SortKey) (documents : List Document) :
    (sort keys documents).Pairwise fun left right => compareAll keys left right ≠ .gt := by
  have le_iff : ∀ left right : Document, (compareAll keys left right != .gt) = true ↔
      (compareAll keys left right).isLE := by
    intro left right
    rw [bne_iff_ne, Ordering.isLE_iff_ne_gt]
  have sorted : (sort keys documents).Pairwise fun left right =>
      (compareAll keys left right != .gt) = true := by
    refine List.pairwise_mergeSort (fun first second third before after => ?_)
      (fun left right => ?_) documents
    · rw [le_iff] at before after ⊢
      exact Std.TransCmp.isLE_trans before after
    · rw [@Std.OrientedCmp.eq_swap _ (compareAll keys) _ right left]
      cases compareAll keys left right <;> rfl
  exact sorted.imp bne_iff_ne.1

/-- The keys tell the documents apart. -/
def Apart (keys : List SortKey) (documents : List Document) : Prop :=
  documents.Pairwise fun left right => compareAll keys left right ≠ .eq

theorem apart_iff_of_perm {keys : List SortKey} {documents others : List Document}
    (permuted : documents.Perm others) : Apart keys documents ↔ Apart keys others :=
  permuted.pairwise_iff fun different same => different (Std.OrientedCmp.eq_symm same)

/-- Documents that differ in the field of one key are told apart. -/
theorem apart_of_key {keys : List SortKey} {key : SortKey} (isKey : key ∈ keys)
    {documents : List Document}
    (discrete : ∀ document ∈ documents, Json.Discrete (document.get? key.field))
    (different : documents.Pairwise fun left right =>
      (left.get? key.field).getD .null ≠ (right.get? key.field).getD .null) :
    Apart keys documents := by
  refine different.imp_of_mem fun {left right} isLeft isRight apart same => apart ?_
  have equal := compare_eq_of_compareAll_eq same isKey
  exact (Json.compare_eq_iff (discrete left isLeft) (discrete right isRight)).1 equal

/-- Documents that the keys tell apart stand in strict order. -/
theorem Apart.pairwise_sort {keys : List SortKey} {documents : List Document}
    (apart : Apart keys documents) :
    (sort keys documents).Pairwise fun left right => compareAll keys left right = .lt := by
  have different : Apart keys (sort keys documents) :=
    (apart_iff_of_perm (sort_perm keys documents)).2 apart
  refine List.Pairwise.imp₂ (fun left right notAfter notSame => ?_)
    (SortKey.pairwise_sort keys documents) different
  cases order : compareAll keys left right with
  | lt => rfl
  | eq => exact absurd order notSame
  | gt => exact absurd order notAfter

/-- Sorting some of the documents leaves them as they stand among all of them. -/
theorem Apart.sort_filter {keys : List SortKey} {documents : List Document}
    (apart : Apart keys documents) (keep : Document → Bool) :
    sort keys (documents.filter keep) = (sort keys documents).filter keep := by
  have some : Apart keys (documents.filter keep) := List.Pairwise.filter keep apart
  refine List.Perm.eq_of_pairwise (fun left right _ _ before after => ?_) some.pairwise_sort
    (apart.pairwise_sort.filter keep)
    ((sort_perm keys _).trans ((sort_perm keys documents).filter keep).symm)
  exact absurd after (Std.OrientedCmp.not_lt_of_lt before)

/-- In strict order, the documents after one of them are those behind it. -/
theorem filter_after {keys : List SortKey} {before after : List Document} {pivot : Document}
    (sorted : (before ++ pivot :: after).Pairwise fun left right =>
      compareAll keys left right = .lt) :
    (before ++ pivot :: after).filter (fun row => compareAll keys row pivot == .gt) = after := by
  obtain ⟨_, rest, less⟩ := List.pairwise_append.1 sorted
  have front : before.filter (fun row => compareAll keys row pivot == .gt) = [] := by
    refine List.filter_eq_nil_iff.2 fun row member => ?_
    rw [less row member pivot List.mem_cons_self]
    decide
  have back : after.filter (fun row => compareAll keys row pivot == .gt) = after := by
    refine List.filter_eq_self.2 fun row member => ?_
    rw [Std.OrientedCmp.gt_of_lt ((List.pairwise_cons.1 rest).1 row member)]
    rfl
  have self : compareAll keys pivot pivot = .eq := Std.ReflCmp.compare_self
  rw [List.filter_append, front, List.nil_append, List.filter_cons, self, back]
  rfl

end SortKey

namespace Cursor

open SortKey (compareAll)

/-! ## Conditions and the order -/

/-- The cursor has the values of a document in the sort fields. -/
def Marks (cursor : Cursor) (keys : List SortKey) (document : Document) : Prop :=
  ∀ key ∈ keys, cursor.value key.field = (document.get? key.field).getD .null

theorem admits_past {cursor : Cursor} {key : SortKey} {pivot : Document}
    (marks : cursor.value key.field = (pivot.get? key.field).getD .null) (row : Document) :
    (cursor.past key).admits row = (key.compareBy row pivot == .gt) := by
  have value : (cursor.past key).value = (pivot.get? key.field).getD .null := marks
  have field : (cursor.past key).field = key.field := rfl
  unfold Filter.admits Filter.accepts
  rw [value, field, Json.compare_getD_right]
  unfold past SortKey.compareBy
  cases key.descending <;>
    cases Json.compare (row.get? key.field) (pivot.get? key.field) <;> rfl

theorem admits_tie {cursor : Cursor} {key : SortKey} {row pivot : Document}
    (marks : cursor.value key.field = (pivot.get? key.field).getD .null)
    (rowDiscrete : Json.Discrete (row.get? key.field))
    (pivotDiscrete : Json.Discrete (pivot.get? key.field)) :
    (cursor.tie key).admits row = (key.compareBy row pivot == .eq) := by
  have admits : (cursor.tie key).admits row =
      Json.equal (row.get? key.field) (some ((pivot.get? key.field).getD .null)) := by
    rw [← marks]
    rfl
  have equal : Json.equal (row.get? key.field) (some ((pivot.get? key.field).getD .null)) = true ↔
      Json.compare (row.get? key.field) (pivot.get? key.field) = .eq := by
    rw [Json.compare_eq_iff rowDiscrete pivotDiscrete]
    exact Json.equal_iff rowDiscrete pivotDiscrete
  rw [admits, Bool.eq_iff_iff, equal, SortKey.compareBy]
  cases key.descending <;>
    cases Json.compare (row.get? key.field) (pivot.get? key.field) <;> decide

/-- One of the alternatives holds of a row exactly if the row comes after the document that
the cursor marks: the first key that tells the two apart decides. -/
theorem any_alternatives {cursor : Cursor} {keys : List SortKey} {row pivot : Document}
    (marks : cursor.Marks keys pivot)
    (rowDiscrete : ∀ key ∈ keys, Json.Discrete (row.get? key.field))
    (pivotDiscrete : ∀ key ∈ keys, Json.Discrete (pivot.get? key.field)) :
    (cursor.alternatives keys).any (·.holds row) = (compareAll keys row pivot == .gt) := by
  induction keys with
  | nil => rfl
  | cons key rest ih =>
    have later := ih (fun other member => marks other (List.mem_cons_of_mem key member))
      (fun other member => rowDiscrete other (List.mem_cons_of_mem key member))
      (fun other member => pivotDiscrete other (List.mem_cons_of_mem key member))
    have past := admits_past (marks key List.mem_cons_self) row
    have tie := admits_tie (marks key List.mem_cons_self) (rowDiscrete key List.mem_cons_self)
      (pivotDiscrete key List.mem_cons_self)
    have tied : List.any ((cursor.alternatives rest).map fun condition => cursor.tie key :: condition)
        (Condition.holds · row) = ((cursor.tie key).admits row &&
          (cursor.alternatives rest).any (·.holds row)) := by
      rw [List.any_map, List.and_any_distrib_left]
      rfl
    have first : Condition.holds [cursor.past key] row = (cursor.past key).admits row :=
      Bool.and_true _
    rw [alternatives, List.any_cons, tied, later, first, past, tie, SortKey.compareAll_cons,
      compareLex]
    cases key.compareBy row pivot <;> cases compareAll rest row pivot <;> rfl

theorem compact_alternatives (cursor : Cursor) (keys : List SortKey) :
    Condition.compact (cursor.alternatives keys) = cursor.alternatives keys := by
  refine List.filter_eq_self.2 fun condition member => ?_
  cases keys with
  | nil => cases member
  | cons key rest =>
    rcases List.mem_cons.1 member with rfl | later
    · rfl
    · obtain ⟨_, _, rfl⟩ := List.mem_map.1 later
      rfl

/-- The conditions of a cursor with a value admit the rows after the marked document. -/
theorem anyHolds_conditions {cursor : Cursor} {keys : List SortKey} {row pivot : Document}
    (nonempty : cursor.last.isEmpty = false) (keyed : keys ≠ [])
    (marks : cursor.Marks keys pivot)
    (rowDiscrete : ∀ key ∈ keys, Json.Discrete (row.get? key.field))
    (pivotDiscrete : ∀ key ∈ keys, Json.Discrete (pivot.get? key.field)) :
    Condition.anyHolds (cursor.conditions keys) row = (compareAll keys row pivot == .gt) := by
  have some : (cursor.alternatives keys).isEmpty = false := by
    cases keys with
    | nil => exact absurd rfl keyed
    | cons key rest => rfl
  rw [conditions, nonempty, if_neg Bool.false_ne_true, Condition.anyHolds, compact_alternatives,
    some, Bool.false_or]
  exact any_alternatives marks rowDiscrete pivotDiscrete

/-! ## The cursor after a document -/

/-- The entries of the cursor after a document. -/
def entriesAfter (last : Document) (keys : List SortKey) : List (String × Json) :=
  keys.filterMap fun key =>
    match last.get? key.field with
    | some .null => none
    | some value => some (key.field, value)
    | none => none

theorem last_afterDocument (nonce : String) (last : Document) (keys : List SortKey) :
    (afterDocument nonce last keys).last = Dict.ofList (entriesAfter last keys) := rfl

theorem mem_entriesAfter_iff (last : Document) (keys : List SortKey) (name : String)
    (value : Json) : (name, value) ∈ entriesAfter last keys ↔
      (∃ key ∈ keys, key.field = name) ∧ last.get? name = some value ∧ value ≠ .null := by
  unfold entriesAfter
  rw [List.mem_filterMap]
  constructor
  · rintro ⟨key, member, entry⟩
    split at entry
    · cases entry
    · rename_i found nonnull get
      cases entry
      exact ⟨⟨key, member, rfl⟩, get, nonnull⟩
    · cases entry
  · rintro ⟨⟨key, member, rfl⟩, get, nonnull⟩
    refine ⟨key, member, ?_⟩
    rw [get]
    split
    · rename_i null
      cases null
      exact absurd rfl nonnull
    · rename_i same
      cases same
      rfl
    · rename_i nothing
      cases nothing

/-- The cursor holds the values of the sort fields that are not null. -/
theorem find?_afterDocument (nonce : String) (last : Document) (keys : List SortKey)
    (name : String) (value : Json) :
    (afterDocument nonce last keys).last.find? name = some value ↔
      (∃ key ∈ keys, key.field = name) ∧ last.get? name = some value ∧ value ≠ .null := by
  rw [← mem_entriesAfter_iff, last_afterDocument]
  have found : (Dict.ofList (entriesAfter last keys)).find? name =
      Assoc.find? name (entriesAfter last keys).reverse := Assoc.find?_ofList _ name
  rw [found]
  constructor
  · intro present
    exact List.mem_reverse.1 (Assoc.mem_of_find? present)
  · intro member
    cases present : Assoc.find? name (entriesAfter last keys).reverse with
    | none =>
      exact absurd rfl ((Assoc.find?_eq_none_iff name _).1 present _ (List.mem_reverse.2 member))
    | some other =>
      have otherMember := List.mem_reverse.1 (Assoc.mem_of_find? present)
      rw [mem_entriesAfter_iff] at member otherMember
      rw [← member.2.1, otherMember.2.1]

theorem marks_afterDocument (nonce : String) (last : Document) (keys : List SortKey) :
    (afterDocument nonce last keys).Marks keys last := by
  intro key member
  have lookup := find?_afterDocument nonce last keys key.field
  rw [value]
  cases found : (afterDocument nonce last keys).last.find? key.field with
  | some kept =>
    obtain ⟨_, get, _⟩ := (lookup kept).1 found
    rw [get]
  | none =>
    cases get : last.get? key.field with
    | none => rfl
    | some kept =>
      by_cases null : kept = .null
      · rw [null]
        rfl
      · rw [(lookup kept).2 ⟨⟨key, member, rfl⟩, get, null⟩] at found
        cases found

theorem isEmpty_afterDocument (nonce : String) {last : Document} {keys : List SortKey}
    {key : SortKey} {value : Json} (member : key ∈ keys) (get : last.get? key.field = some value)
    (nonnull : value ≠ .null) : (afterDocument nonce last keys).last.isEmpty = false := by
  refine Bool.eq_false_iff.2 fun empty => ?_
  have nothing := (Dict.isEmpty_iff _).1 empty key.field
  rw [(find?_afterDocument nonce last keys key.field value).2 ⟨⟨key, member, rfl⟩, get, nonnull⟩]
    at nothing
  cases nothing

/-- The token of a cursor after a document carries it, if it can carry the values of the
document's sort fields. -/
theorem decode_encode_afterDocument (nonce : String) {last : Document} {keys : List SortKey}
    (portable : ∀ key ∈ keys, ∀ value ∈ last.get? key.field, Portable value) :
    decode (afterDocument nonce last keys).encode = .ok (some (afterDocument nonce last keys)) := by
  refine decode_encode fun entry member => ?_
  obtain ⟨name, value⟩ := entry
  rw [Dict.mem_entries_iff, find?_afterDocument] at member
  obtain ⟨⟨key, isKey, rfl⟩, get, _⟩ := member
  exact portable key isKey value get

end Cursor
end DocStore
