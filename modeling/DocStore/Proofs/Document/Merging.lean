import DocStore.Proofs.Dict
import DocStore.Proofs.Json.Integral
import DocStore.Proofs.Sql.Addressing

/-!
# Merging a patch

A patch names what it changes.  Each member of the merged document is found from the member of
its name before and in the patch alone (`find?_mergeMembers`), so a patch takes effect once
however often it is applied; what it gives at the end of its own objects is found there
afterwards, and what its objects leave out stays as it was (`patch_merges_deeply`).
-/

namespace DocStore

/-- A member of an object that is in order is in order itself. -/
theorem Json.Ordered.of_find? {members : Members} (ordered : Json.Ordered (.obj members))
    {name : String} {value : Json} (found : Assoc.find? name members = some value) :
    value.Ordered := by
  obtain ⟨-, each⟩ := ordered
  rw [orderedMembers_iff] at each
  exact each _ (Assoc.mem_of_find? found)

namespace Document

/-! ## One name -/

/-- What becomes of a member when a patch may have one of its name. -/
def merged (before : Option Json) : Option Json → Option Json
  | none => before
  | some .null => before
  | some value => some (mergeValue before value)

@[simp]
theorem merged_none (before : Option Json) : merged before none = before := rfl

@[simp]
theorem merged_null (before : Option Json) : merged before (some .null) = before := rfl

theorem merged_some {value : Json} (counts : value ≠ .null) (before : Option Json) :
    merged before (some value) = some (mergeValue before value) := by
  cases value with
  | null => exact absurd rfl counts
  | _ => rfl

theorem mergeMembers_null (name : String) (fields : Members) (rest : List (String × Json)) :
    mergeMembers fields ((name, .null) :: rest) = mergeMembers fields rest := by
  rw [mergeMembers]

theorem mergeMembers_cons {value : Json} (counts : value ≠ .null) (name : String)
    (fields : Members) (rest : List (String × Json)) :
    mergeMembers fields ((name, value) :: rest) =
      mergeMembers (Assoc.insert name (mergeValue (Assoc.find? name fields) value) fields)
        rest := by
  rw [mergeMembers]
  exact counts

/-- The members of a merged document, name by name. -/
theorem find?_mergeMembers {changes : Members} (sorted : Assoc.Sorted changes) (fields : Members)
    (name : String) :
    Assoc.find? name (mergeMembers fields changes) =
      merged (Assoc.find? name fields) (Assoc.find? name changes) := by
  induction changes generalizing fields with
  | nil => rfl
  | cons entry rest ih =>
    obtain ⟨key, value⟩ := entry
    have once : Assoc.find? key rest = none := sorted.find?_tail
    have tail : Assoc.Sorted rest := sorted.of_cons
    by_cases counts : value = .null
    · rw [counts, mergeMembers_null, ih tail]
      by_cases same : key = name
      · rw [← same, once]
        simp [Assoc.find?]
      · simp [Assoc.find?, same]
    · rw [mergeMembers_cons counts, ih tail, Assoc.find?_insert]
      by_cases same : key = name
      · rw [← same, once]
        simp [Assoc.find?, merged_some counts]
      · simp [Assoc.find?, same, Ne.symm same]

/-- Merging keeps the members in order. -/
theorem sorted_mergeMembers {fields : Members} (sorted : Assoc.Sorted fields)
    (changes : Members) : Assoc.Sorted (mergeMembers fields changes) := by
  induction changes generalizing fields with
  | nil => exact sorted
  | cons entry rest ih =>
    obtain ⟨name, value⟩ := entry
    by_cases counts : value = .null
    · rw [counts, mergeMembers_null]
      exact ih sorted
    · rw [mergeMembers_cons counts]
      exact ih (sorted.insert name _)

/-! ## Merging again -/

/-- Two sorted lists of members merge to a third one if they do name by name. -/
theorem mergeMembers_eq {fields changes result : Members} (fieldsSorted : Assoc.Sorted fields)
    (changesSorted : Assoc.Sorted changes) (resultSorted : Assoc.Sorted result)
    (each : ∀ name, merged (Assoc.find? name fields) (Assoc.find? name changes) =
      Assoc.find? name result) :
    mergeMembers fields changes = result := by
  refine (sorted_mergeMembers fieldsSorted changes).eq_of_find?_eq resultSorted fun name => ?_
  rw [find?_mergeMembers changesSorted, each]

/-- A value merged into itself stays. -/
theorem mergeValue_self {value : Json} (ordered : value.Ordered) :
    mergeValue (some value) value = value := by
  induction value with
  | obj members ih =>
    have sorted := ordered.1
    rw [mergeValue, mergeMembers_eq sorted sorted sorted]
    intro name
    cases found : Assoc.find? name members with
    | none => rfl
    | some inner =>
      by_cases counts : inner = .null
      · rw [counts, merged_null]
      · have inside := ordered.of_find? found
        rw [merged_some counts, ih _ (Assoc.mem_of_find? found) inside]
  | _ => rfl

/-- A value that is merged in twice changes as much as one that is merged in once. -/
theorem mergeValue_mergeValue {value : Json} (ordered : value.Ordered) {before : Option Json}
    (beforeOrdered : ∀ old, before = some old → old.Ordered) :
    mergeValue (some (mergeValue before value)) value = mergeValue before value := by
  induction value generalizing before with
  | obj changes ih =>
    have replaced : mergeValue (some (.obj changes)) (.obj changes) = .obj changes :=
      mergeValue_self ordered
    match before with
    | some (.obj members) =>
      have fieldsOrdered := beforeOrdered _ rfl
      have once := sorted_mergeMembers fieldsOrdered.1 changes
      simp only [mergeValue]
      rw [mergeMembers_eq once ordered.1 once]
      intro name
      rw [find?_mergeMembers ordered.1]
      cases found : Assoc.find? name changes with
      | none => rfl
      | some inner =>
        by_cases counts : inner = .null
        · rw [counts, merged_null, merged_null]
        · rw [merged_some counts, merged_some counts]
          congr 1
          exact ih _ (Assoc.mem_of_find? found) (ordered.of_find? found)
            fun old foundOld => fieldsOrdered.of_find? foundOld
    | none | some .null | some (.bool _) | some (.int _) | some (.float _) | some (.str _)
    | some (.arr _) => exact replaced
  | _ => rfl

theorem mergeMembers_mergeMembers {fields changes : Members}
    (ordered : Json.Ordered (.obj fields)) (changesOrdered : Json.Ordered (.obj changes)) :
    mergeMembers (mergeMembers fields changes) changes = mergeMembers fields changes := by
  have beforeOrdered : ∀ old, some (Json.obj fields) = some old → old.Ordered := by
    rintro _ ⟨⟩
    exact ordered
  simpa only [mergeValue, Json.obj.injEq] using mergeValue_mergeValue changesOrdered beforeOrdered

/-! ## Along paths -/

/-- A path with a step leads out of objects only. -/
theorem eq_obj_of_followMembers? {names : List String} (steps : names ≠ []) {value found : Json}
    (leads : followMembers? names value = some found) : ∃ members, value = .obj members := by
  cases names with
  | nil => exact absurd rfl steps
  | cons name rest =>
    cases value with
    | obj members => exact ⟨members, rfl⟩
    | _ => cases leads

theorem followMembers?_cons_iff {name : String} {rest : List String} {members : Members}
    {found : Json} :
    followMembers? (name :: rest) (.obj members) = some found ↔
      ∃ inner, Assoc.find? name members = some inner ∧ followMembers? rest inner = some found :=
  Option.bind_eq_some_iff

theorem followMembers?_of_find? {name : String} {members : Members} {inner : Json}
    (found : Assoc.find? name members = some inner) (rest : List String) :
    followMembers? (name :: rest) (.obj members) = followMembers? rest inner := by
  simp [followMembers?, Sql.member?, found]

/-- An object of a patch merges into an object, and replaces anything else. -/
theorem mergeValue_obj (before : Option Json) (changes : Members) :
    (∃ members, before = some (.obj members) ∧
        mergeValue before (.obj changes) = .obj (mergeMembers members changes)) ∨
      mergeValue before (.obj changes) = .obj changes := by
  match before with
  | some (.obj members) => exact .inl ⟨members, rfl, by rw [mergeValue]⟩
  | none | some .null | some (.bool _) | some (.int _) | some (.float _) | some (.str _)
  | some (.arr _) => exact .inr rfl

/-- What a patch has at the end of its objects is there after merging, unless it is an object
itself or null. -/
theorem followMembers?_of_change {changes : Members} (ordered : Json.Ordered (.obj changes))
    {names : List String} {value : Json} (found : followMembers? names (.obj changes) = some value)
    (whole : ∀ members, value ≠ .obj members) (counts : value ≠ .null) (fields : Members) :
    followMembers? names (.obj (mergeMembers fields changes)) = some value := by
  induction names generalizing fields changes with
  | nil => exact absurd (Option.some.inj found).symm (whole changes)
  | cons name rest ih =>
    obtain ⟨inner, member, later⟩ := followMembers?_cons_iff.1 found
    have here := find?_mergeMembers ordered.1 fields name
    cases rest with
    | nil =>
      cases later
      rw [member, merged_some counts] at here
      rw [followMembers?_of_find? here]
      cases value with
      | obj members => exact absurd rfl (whole members)
      | _ => rfl
    | cons next further =>
      obtain ⟨below, rfl⟩ := eq_obj_of_followMembers? (by simp) later
      rw [member, merged_some Json.noConfusion] at here
      rw [followMembers?_of_find? here]
      rcases mergeValue_obj (Assoc.find? name fields) below with ⟨members, -, merges⟩ | replaces
      · rw [merges]
        exact ih (ordered.of_find? member) later members
      · rw [replaces]
        exact later

/-- What lies below a name that the objects of a patch leave out stays as it was. -/
theorem followMembers?_of_omission {fields changes : Members}
    (ordered : Json.Ordered (.obj changes)) {above : List String} {name : String}
    {members : Members} (reached : followMembers? above (.obj changes) = some (.obj members))
    (omitted : Assoc.find? name members = none ∨ Assoc.find? name members = some .null)
    {below : List String} {value : Json}
    (found : followMembers? (above ++ name :: below) (.obj fields) = some value) :
    followMembers? (above ++ name :: below) (.obj (mergeMembers fields changes)) = some value := by
  induction above generalizing fields changes with
  | nil =>
    obtain rfl : changes = members := Json.obj.inj (Option.some.inj reached)
    obtain ⟨inner, member, later⟩ := followMembers?_cons_iff.1 found
    have kept : Assoc.find? name (mergeMembers fields changes) = some inner := by
      rw [find?_mergeMembers ordered.1, member]
      rcases omitted with absent | null
      · rw [absent, merged_none]
      · rw [null, merged_null]
    rw [List.nil_append, followMembers?_of_find? kept, later]
  | cons step above ih =>
    rw [List.cons_append] at found
    obtain ⟨inner, member, later⟩ := followMembers?_cons_iff.1 found
    obtain ⟨change, changed, onwards⟩ := followMembers?_cons_iff.1 reached
    -- Both sides go on through an object.
    obtain ⟨innerMembers, rfl⟩ := eq_obj_of_followMembers? (by simp) later
    obtain ⟨innerChanges, rfl⟩ : ∃ innerChanges, change = .obj innerChanges := by
      cases above with
      | nil => exact ⟨members, Option.some.inj onwards⟩
      | cons second others => exact eq_obj_of_followMembers? (by simp) onwards
    have here := find?_mergeMembers ordered.1 fields step
    rw [changed, merged_some Json.noConfusion, member, mergeValue] at here
    rw [List.cons_append, followMembers?_of_find? here]
    exact ih (ordered.of_find? changed) onwards later

/-! ## Patches -/

/-- A patch counts once however often it is applied.  What it gives at the end of its own objects
is found there afterwards, and everything stays that lies below a name which its objects leave out
or give as null.  It touches nothing but the fields. -/
theorem patch_merges_deeply {document other : Document}
    (ordered : Json.Ordered (.obj document.fields))
    (otherOrdered : Json.Ordered (.obj other.fields)) :
    (document.patch other).patch other = document.patch other ∧
      (∀ names value, followMembers? names (.obj other.fields) = some value →
        (∀ members, value ≠ .obj members) → value ≠ .null →
          followMembers? names (.obj (document.patch other).fields) = some value) ∧
      (∀ above name below members value,
        followMembers? above (.obj other.fields) = some (.obj members) →
        Assoc.find? name members = none ∨ Assoc.find? name members = some .null →
        followMembers? (above ++ name :: below) (.obj document.fields) = some value →
          followMembers? (above ++ name :: below) (.obj (document.patch other).fields) =
            some value) ∧
      (document.patch other).id = document.id ∧
      (document.patch other).modified = document.modified ∧
      (document.patch other).deleted = document.deleted := by
  refine ⟨?_, ?_, ?_, rfl, rfl, rfl⟩
  · exact congrArg (fun fields => { document with fields })
      (mergeMembers_mergeMembers ordered otherOrdered)
  · intro names value found whole counts
    exact followMembers?_of_change otherOrdered found whole counts document.fields
  · intro above name below members value reached omitted found
    exact followMembers?_of_omission otherOrdered reached omitted found

/-- A patch that goes two objects deep, brings a null inside a new object and has nulls and gaps
beside what it changes. -/
theorem patch_merges_deeply_two_levels :
    let document : Document := { withId "d" with
      fields := [("a", .obj [("x", .int 1), ("y", .obj [("k", .null), ("m", .arr [.int 3])])]),
        ("keep", .int 1)] }
    let other : Document := { withId "e" with
      fields := [("a", .obj [("y", .obj [("k", .int 2)]), ("z", .obj [("n", .null)])]),
        ("keep", .null)] }
    Json.Ordered (.obj document.fields) ∧ Json.Ordered (.obj other.fields) ∧
      (document.patch other).patch other = document.patch other ∧
      followMembers? ["a", "y", "k"] (.obj (document.patch other).fields) = some (.int 2) ∧
      followMembers? ["a", "y", "m"] (.obj (document.patch other).fields) =
        some (.arr [.int 3]) ∧
      followMembers? ["keep"] (.obj (document.patch other).fields) = some (.int 1) := by
  intro document other
  have ordered : Json.Ordered (.obj document.fields) := by decide
  have otherOrdered : Json.Ordered (.obj other.fields) := by decide
  obtain ⟨again, given, left, -⟩ := patch_merges_deeply ordered otherOrdered
  refine ⟨ordered, otherOrdered, again, ?_, ?_, ?_⟩
  · exact given _ _ rfl (fun _ => Json.noConfusion) Json.noConfusion
  · exact left ["a", "y"] "m" [] [("k", .int 2)] _ rfl (.inl rfl) rfl
  · exact left [] "keep" [] other.fields _ rfl (.inr rfl) rfl

end Document
end DocStore
