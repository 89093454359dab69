import DocStore.Proofs.Listing.Keyset

/-!
# Sorting is by a total preorder

Fields are compared by three weights in a row, and documents by fields in a row, each in its own
direction.  So both comparisons are total preorders (`Preordering`), whatever the fields hold: no
three documents contradict each other, and sorting puts them in the order of the keys, those that
the keys do not tell apart as they stood (`SortKey.sorts_by_preorder`).
-/

namespace DocStore

/-- A comparison that is a total preorder. -/
structure Preordering {α : Type} (order : α → α → Ordering) : Prop where
  /-- Everything is level with itself. -/
  self : ∀ first, order first first = .eq
  /-- Seen from the other side, the comparison is the other way round. -/
  swapped : ∀ first second, order second first = (order first second).swap
  /-- What is not behind something else is not behind what that is not behind. -/
  notBehind : ∀ first second third,
    order first second ≠ .gt → order second third ≠ .gt → order first third ≠ .gt
  /-- One strict step in a row makes the whole strict. -/
  before : ∀ first second third, order first second ≠ .gt → order second third ≠ .gt →
    order first second = .lt ∨ order second third = .lt → order first third = .lt

/-- A lawful comparison is a total preorder. -/
theorem preordering_of_transCmp {α : Type} (order : α → α → Ordering) [Std.TransCmp order] :
    Preordering order where
  self _ := Std.ReflCmp.compare_self
  swapped _ _ := Std.OrientedCmp.eq_swap
  notBehind first second third := by
    simp only [← Ordering.isLE_iff_ne_gt]
    exact Std.TransCmp.isLE_trans
  before first second third := by
    simp only [← Ordering.isLE_iff_ne_gt]
    rintro notBehind stillNotBehind (strict | strict)
    · exact Std.TransCmp.lt_of_lt_of_isLE strict stillNotBehind
    · exact Std.TransCmp.lt_of_isLE_of_lt notBehind strict

namespace SortKey

/-- Documents that are in order as they stand keep their order when they are sorted. -/
theorem pair_sublist_sort {keys : List SortKey} {left right : Document}
    {documents : List Document} (notBehind : compareAll keys left right ≠ .gt)
    (inOrder : [left, right].Sublist documents) :
    [left, right].Sublist (sort keys documents) := by
  have laws := preordering_of_transCmp (compareAll keys)
  refine List.pair_sublist_mergeSort (fun first second third before after => ?_)
    (fun first second => ?_) (bne_iff_ne.2 notBehind) inOrder
  · have transitive := laws.notBehind first second third
    exact bne_iff_ne.2 (transitive (bne_iff_ne.1 before) (bne_iff_ne.1 after))
  · rw [laws.swapped first second]
    cases compareAll keys first second <;> rfl

/-- Documents are compared by a total preorder, and so are fields.  Sorting documents puts them in
that order; those that are in order as they stand keep their places. -/
theorem sorts_by_preorder (keys : List SortKey) :
    Preordering (compareAll keys) ∧ Preordering Json.compare ∧
      ∀ documents : List Document,
        (sort keys documents).Perm documents ∧
        (sort keys documents).Pairwise (fun left right => compareAll keys left right ≠ .gt) ∧
        ∀ left right : Document, compareAll keys left right ≠ .gt →
          [left, right].Sublist documents → [left, right].Sublist (sort keys documents) :=
  ⟨preordering_of_transCmp _, preordering_of_transCmp _, fun documents =>
    ⟨sort_perm keys documents, pairwise_sort keys documents, fun _ _ => pair_sublist_sort⟩⟩

/-- Integers that double precision confuses are level, and a missing field comes first where the
order descends. -/
example :
    let keys : List SortKey := [⟨"n", true⟩, ⟨"t", false⟩]
    let odd : Document := ⟨"a", ⟨1⟩, false, [("n", .int 9007199254740993), ("t", .arr [.int 1])]⟩
    let even : Document := ⟨"b", ⟨2⟩, false, [("n", .int 9007199254740992), ("t", .str "[1]")]⟩
    let missing : Document := ⟨"c", ⟨3⟩, false, [("t", .null)]⟩
    compareAll keys odd even = .lt ∧ compareAll keys missing odd = .lt ∧
      compareAll keys missing even = .lt := by
  decide +kernel

end SortKey
end DocStore
