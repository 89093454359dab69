import DocStore.Proofs.Listing.Keyset

/-!
# Cursors after a document without values

A cursor keeps the values of the sort fields other than null, and a cursor that keeps nothing
has no conditions: it stands for the start of the listing.  So the conditions of the cursor
after a document select the rows behind it as long as the document has a value in one of the
sort fields (`Cursor.selects_after_iff`).  After a document that has none every row is
admitted, that document among them.
-/

namespace DocStore
namespace Cursor

open SortKey (compareAll)

variable (nonce : String) {last : Document} {keys : List SortKey}

/-- The document has no value in any of the sort fields. -/
def Valueless (last : Document) (keys : List SortKey) : Prop :=
  ∀ key ∈ keys, (last.get? key.field).getD .null = .null

theorem not_valueless_iff : ¬ Valueless last keys ↔
    ∃ key ∈ keys, ∃ value, last.get? key.field = some value ∧ value ≠ .null := by
  simp only [Valueless, Classical.not_forall, exists_prop]
  refine exists_congr fun key => and_congr_right fun _ => ?_
  cases last.get? key.field with
  | none => simp
  | some value => simp

/-- The cursor after a document keeps nothing exactly if the document has no value in the sort
fields. -/
theorem isEmpty_afterDocument_iff :
    (afterDocument nonce last keys).last.isEmpty = true ↔ Valueless last keys := by
  constructor
  · intro empty
    refine Classical.byContradiction fun valued => ?_
    obtain ⟨key, member, value, get, nonnull⟩ := not_valueless_iff.1 valued
    rw [isEmpty_afterDocument nonce member get nonnull] at empty
    cases empty
  · intro valueless
    refine (Dict.isEmpty_iff _).2 fun name => ?_
    cases found : (afterDocument nonce last keys).last.find? name with
    | none => rfl
    | some value =>
      obtain ⟨⟨key, member, rfl⟩, get, nonnull⟩ := (find?_afterDocument ..).1 found
      refine absurd (valueless key member) ?_
      rw [get]
      exact nonnull

/-- After a document without values nothing is asked of the rows. -/
theorem conditions_of_valueless (valueless : Valueless last keys) :
    (afterDocument nonce last keys).conditions keys = [] :=
  if_pos ((isEmpty_afterDocument_iff nonce).2 valueless)

/-- The cursor after a document admits the rows behind it, and every row if the document has
no value in the sort fields. -/
theorem anyHolds_afterDocument_iff (keyed : keys ≠ [])
    (pivotDiscrete : ∀ key ∈ keys, Json.Discrete (last.get? key.field)) {row : Document}
    (rowDiscrete : ∀ key ∈ keys, Json.Discrete (row.get? key.field)) :
    Condition.anyHolds ((afterDocument nonce last keys).conditions keys) row = true ↔
      compareAll keys row last = .gt ∨ Valueless last keys := by
  cases kept : (afterDocument nonce last keys).last.isEmpty with
  | true =>
    have valueless := (isEmpty_afterDocument_iff nonce).1 kept
    rw [conditions_of_valueless nonce valueless]
    exact iff_of_true rfl (.inr valueless)
  | false =>
    have valued : ¬ Valueless last keys := fun valueless => by
      rw [(isEmpty_afterDocument_iff nonce).2 valueless] at kept
      cases kept
    rw [anyHolds_conditions kept keyed (marks_afterDocument nonce last keys) rowDiscrete
      pivotDiscrete, beq_iff_eq, or_iff_left valued]

/-- The cursor after a document selects exactly the rows behind it if and only if the document
has a value in one of the sort fields. -/
theorem selects_after_iff (keyed : keys ≠ [])
    (pivotDiscrete : ∀ key ∈ keys, Json.Discrete (last.get? key.field)) :
    (∀ row : Document, (∀ key ∈ keys, Json.Discrete (row.get? key.field)) →
      (Condition.anyHolds ((afterDocument nonce last keys).conditions keys) row = true ↔
        compareAll keys row last = .gt)) ↔
      ∃ key ∈ keys, ∃ value, last.get? key.field = some value ∧ value ≠ .null := by
  rw [← not_valueless_iff]
  constructor
  · intro selects valueless
    -- The document itself is admitted, and does not come after itself.
    have admitted := (anyHolds_afterDocument_iff nonce keyed pivotDiscrete pivotDiscrete).2
      (.inr valueless)
    have self : compareAll keys last last = .eq := Std.ReflCmp.compare_self
    rw [selects last pivotDiscrete, self] at admitted
    cases admitted
  · intro valued row rowDiscrete
    rw [anyHolds_afterDocument_iff nonce keyed pivotDiscrete rowDiscrete, or_iff_left valued]

/-- The document has a list in the second of two fields and nothing in the first, by which
greater values come first.  What has a value there comes after it, what has nothing there
either and a greater list too, but not what has the same list. -/
theorem selects_after_iff_missing :
    let keys : List SortKey := [⟨"rank", true⟩, ⟨"tags", false⟩]
    let last : Document := ⟨"a", ⟨1⟩, false, [("tags", .arr [.int 1, .null])]⟩
    let admitted (fields : Members) : Prop :=
      Condition.anyHolds ((afterDocument "n" last keys).conditions keys)
        ⟨"b", ⟨1⟩, false, fields⟩ = true
    keys ≠ [] ∧ (∀ key ∈ keys, Json.Discrete (last.get? key.field)) ∧
      admitted [("rank", .bool true)] ∧
      admitted [("rank", .null), ("tags", .arr [.int 2])] ∧
      ¬ admitted [("tags", .arr [.int 1, .null])] := by
  intro keys last admitted
  have keyed : keys ≠ [] := by decide
  have discrete : ∀ key ∈ keys, Json.Discrete (last.get? key.field) := by decide
  have selects := (selects_after_iff "n" keyed discrete).2
    ⟨⟨"tags", false⟩, by decide, .arr [.int 1, .null], rfl, nofun⟩
  refine ⟨keyed, discrete, (selects _ (by decide)).2 (by decide),
    (selects _ (by decide)).2 (by decide), fun same => ?_⟩
  exact absurd ((selects _ (by decide)).1 same) (by decide)

/-- The cursor after a document without the sort field admits that document once more. -/
theorem admits_valueless_pivot :
    let keys : List SortKey := [⟨"rank", false⟩]
    let last := Document.withId "a"
    (∀ key ∈ keys, Json.Discrete (last.get? key.field)) ∧
      Condition.anyHolds ((afterDocument "" last keys).conditions keys) last = true ∧
      compareAll keys last last ≠ .gt := by
  decide

end Cursor
end DocStore
