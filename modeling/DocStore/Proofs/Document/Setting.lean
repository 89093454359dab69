import DocStore.Proofs.Document.FieldName

/-!
# Setting fields

Putting a value at the end of a path makes objects on the way, and an array on the way is lost with
its items.  Reading takes a member of the whole name before it follows the path.  So a field that
was set is read as it was set unless such a member hides it, and fields apart from it are read as
before unless they were items of such an array (`set_like_lens_iff`).
-/

namespace DocStore
namespace Document

/-! ## Putting a value at the end of a path -/

/-- Whether the second path leads to a value by way of an array that lies on the first one. -/
def throughReplaced : List String → List String → Json → Bool
  | name :: rest, other :: later, .obj members =>
    name == other && (Assoc.find? name members).any (throughReplaced rest later)
  | _ :: _, others, .arr items => (follow? others (.arr items)).isSome
  | _, _, _ => false

theorem follow?_obj_cons (name : String) (rest : List String) (members : Members) :
    follow? (name :: rest) (.obj members) = (Assoc.find? name members).bind (follow? rest) := rfl

/-- A put changes the member of the first name. -/
theorem exists_put_eq_insert (value : Json) (name : String) (rest : List String)
    (fields : Members) :
    ∃ inner, put value (name :: rest) fields = Assoc.insert name inner fields := by
  cases rest with
  | nil => exact ⟨value, rfl⟩
  | cons next rest => exact ⟨_, rfl⟩

theorem find?_put_of_ne {name other : String} (differs : other ≠ name) (value : Json)
    (rest : List String) (fields : Members) :
    Assoc.find? other (put value (name :: rest) fields) = Assoc.find? other fields := by
  obtain ⟨inner, inserts⟩ := exists_put_eq_insert value name rest fields
  rw [inserts, Assoc.find?_insert, if_neg differs]

theorem find?_put_inner (value : Json) (name next : String) (rest : List String)
    (fields : Members) :
    Assoc.find? name (put value (name :: next :: rest) fields) =
      some (.obj (put value (next :: rest) (membersOf (Assoc.find? name fields)))) := by
  rw [put, Assoc.find?_insert, if_pos rfl]

/-- What was put at the end of a path is found there. -/
theorem follow?_put {names : List String} (steps : names ≠ []) (value : Json) (fields : Members) :
    follow? names (.obj (put value names fields)) = some value := by
  induction names generalizing fields with
  | nil => exact absurd rfl steps
  | cons name rest ih =>
    cases rest with
    | nil =>
      rw [follow?_obj_cons, put, Assoc.find?_insert, if_pos rfl]
      rfl
    | cons next further =>
      rw [follow?_obj_cons, find?_put_inner, Option.bind_some]
      exact ih (List.cons_ne_nil _ _) _

/-- At the end of a path that leaves the other one, there is what was there before, or nothing
if an array lay in between. -/
theorem follow?_put_apart {names others : List String} (notBelow : ¬names <+: others)
    (notAbove : ¬others <+: names) (value : Json) (fields : Members) :
    follow? others (.obj (put value names fields)) =
      if throughReplaced names others (.obj fields) then none
      else follow? others (.obj fields) := by
  induction names generalizing others fields with
  | nil => exact absurd (List.nil_prefix) notBelow
  | cons name rest ih =>
    cases others with
    | nil => exact absurd (List.nil_prefix) notAbove
    | cons other later =>
      rw [follow?_obj_cons, follow?_obj_cons]
      by_cases same : name = other
      · subst same
        have restNotBelow : ¬rest <+: later := fun below =>
          notBelow (List.cons_prefix_cons.2 ⟨rfl, below⟩)
        have laterNotAbove : ¬later <+: rest := fun above =>
          notAbove (List.cons_prefix_cons.2 ⟨rfl, above⟩)
        cases rest with
        | nil => exact absurd (List.nil_prefix) restNotBelow
        | cons next further =>
          cases later with
          | nil => exact absurd (List.nil_prefix) laterNotAbove
          | cons second others =>
            rw [find?_put_inner, Option.bind_some, ih restNotBelow laterNotAbove]
            -- Only an object on the way keeps its members, and only an array has items to lose.
            have nothing : follow? (second :: others) (.obj []) = none := rfl
            cases found : Assoc.find? name fields with
            | none => simp [throughReplaced, membersOf, found, nothing]
            | some inner =>
              cases inner with
              | obj members => simp [throughReplaced, membersOf, found]
              | arr items =>
                cases reached : follow? (second :: others) (.arr items) <;>
                  simp [throughReplaced, membersOf, found, nothing, reached]
              | _ => simp [throughReplaced, membersOf, found, follow?, step?]
      · rw [find?_put_of_ne (Ne.symm same)]
        simp [throughReplaced, same]

/-- What a path leads to by way of an array is a value. -/
theorem isSome_of_throughReplaced {names others : List String} {value : Json}
    (through : throughReplaced names others value = true) :
    (follow? others value).isSome = true := by
  induction names generalizing others value with
  | nil => cases others <;> cases value <;> cases through
  | cons name rest ih =>
    cases value with
    | arr items => cases others <;> exact through
    | obj members =>
      cases others with
      | nil => cases through
      | cons other later =>
        simp only [throughReplaced, Bool.and_eq_true, beq_iff_eq, Option.any_eq_true] at through
        obtain ⟨rfl, inner, found, below⟩ := through
        rw [follow?_obj_cons, found, Option.bind_some]
        exact ih below
    | _ => cases others <;> cases through

/-! ## User fields -/

/-- A member of the whole dotted name has another value than the one at the end of the path. -/
def Hides (fields : Members) (field : String) (value : Json) : Prop :=
  '.' ∈ field.toList ∧ ∃ other, Assoc.find? field fields = some other ∧ other ≠ value

/-- A field is an item of an array, or lies inside one, and another field goes through that
array. -/
def Loses (fields : Members) (field other : String) : Prop :=
  Assoc.find? other fields = none ∧
    throughReplaced (segments field) (segments other) (.obj fields) = true

theorem lookup?_put_iff {field : String} (named : field ≠ "") (value : Json) (fields : Members) :
    lookup? (put value (segments field) fields) field = some value ↔
      ¬Hides fields field value := by
  have ordinary : field.isEmpty = false := by simpa using named
  have reached := follow?_put (segments_ne_nil field) value fields
  unfold lookup?
  rw [ordinary, if_neg Bool.false_ne_true]
  by_cases dotted : '.' ∈ field.toList
  · obtain ⟨first, rest, steps, differs⟩ := segments_of_dotted dotted
    rw [steps] at reached ⊢
    rw [find?_put_of_ne differs.symm]
    cases found : Assoc.find? field fields with
    | none => simp [Hides, found, reached]
    | some other => simp [Hides, found, dotted]
  · rw [segments_of_flat dotted, put, Assoc.find?_insert, if_pos rfl]
    simp [Hides, dotted]

/-- A path of one step leaves another path before an array is reached. -/
theorem not_throughReplaced_of_single {names : List String} {other : String}
    (notAbove : ¬[other] <+: names) (members : Members) :
    throughReplaced names [other] (.obj members) = false := by
  cases names with
  | nil => rfl
  | cons name rest =>
    have differs : name ≠ other := fun same =>
      notAbove (List.cons_prefix_cons.2 ⟨same.symm, List.nil_prefix⟩)
    simp [throughReplaced, differs]

theorem lookup?_put_apart_iff {field other : String} (apart : Apart field other) (value : Json)
    (fields : Members) :
    lookup? (put value (segments field) fields) other = lookup? fields other ↔
      ¬Loses fields field other := by
  obtain ⟨notBelow, notAbove⟩ := apart
  rw [encloses_iff] at notBelow notAbove
  have followed := follow?_put_apart notBelow notAbove value fields
  have isFound := @isSome_of_throughReplaced (segments field) (segments other) (.obj fields)
  by_cases empty : other = ""
  · subst empty
    have kept : ¬Loses fields field "" := by
      rintro ⟨-, through⟩
      exact Bool.false_ne_true
        ((not_throughReplaced_of_single notAbove fields).symm.trans through)
    exact iff_of_true rfl kept
  have ordinary : other.isEmpty = false := by simpa using empty
  -- The member of the first step is not the one of the whole other name.
  have whole :
      Assoc.find? other (put value (segments field) fields) = Assoc.find? other fields := by
    obtain ⟨name, rest, steps⟩ := List.exists_cons_of_ne_nil (segments_ne_nil field)
    rw [steps] at notAbove ⊢
    refine find?_put_of_ne (fun same => ?_) value rest fields
    by_cases dotted : '.' ∈ other.toList
    · have piece : name ∈ segments field := by simp [steps]
      exact dot_not_mem_of_mem_segments piece (same ▸ dotted)
    · rw [segments_of_flat dotted] at notAbove
      exact notAbove (List.cons_prefix_cons.2 ⟨same, List.nil_prefix⟩)
  unfold lookup?
  rw [ordinary, if_neg Bool.false_ne_true, if_neg Bool.false_ne_true, whole, followed]
  cases found : Assoc.find? other fields with
  | some member => simp [Loses, found]
  | none =>
    cases through : throughReplaced (segments field) (segments other) (.obj fields) with
    | false => simp [Loses, found, through]
    | true =>
      obtain ⟨old, reached⟩ := Option.isSome_iff_exists.1 (isFound through)
      simp [Loses, found, through, reached]

/-! ## Documents -/

theorem get?_of_not_isReserved {field : String} (plain : isReserved field = false)
    (document : Document) : document.get? field = lookup? document.fields field := by
  obtain ⟨notId, notModified, notDeleted⟩ := ne_of_not_isReserved plain
  rw [get?, if_neg notId, if_neg notModified, if_neg notDeleted]

/-- Reserved fields are read from the metadata. -/
theorem get?_of_isReserved {field : String} (reserved : isReserved field = true)
    (document : Document) (fields : Members) :
    { document with fields }.get? field = document.get? field := by
  rcases (isReserved_iff field).1 reserved with rfl | rfl | rfl <;> rfl

/-- User fields are put among the fields, and nothing is refused. -/
theorem set_of_not_isReserved {field : String} (plain : isReserved field = false)
    (document : Document) (value : Json) :
    document.set field value =
      .ok { document with fields := put value (segments field) document.fields } := by
  obtain ⟨notId, notModified, notDeleted⟩ := ne_of_not_isReserved plain
  simp only [set, if_neg notId, if_neg notModified, if_neg notDeleted]

/-- A reserved field that is set has the value it was given, and nothing else has changed.  A new
epoch has 64 bits. -/
structure SetsMetadata (document next : Document) (field : String) (value : Json) : Prop where
  fields : next.fields = document.fields
  epoch : next.modified = document.modified ∨
    Number.Extended.clampInt64 next.modified.millis = next.modified.millis
  self : next.get? field = some value
  others : ∀ other, other ≠ field → next.get? other = document.get? other

theorem setsMetadata {document next : Document} {field : String} {value : Json}
    (reserved : isReserved field = true) (accepted : document.set field value = .ok next) :
    SetsMetadata document next field value := by
  rcases (isReserved_iff field).1 reserved with rfl | rfl | rfl
  · cases value with
    | str text =>
      cases accepted
      exact ⟨rfl, .inl rfl, rfl, fun other differs => by simp [get?, differs]⟩
    | _ => cases accepted
  · cases value with
    | int millis =>
      change (if Number.Extended.clampInt64 millis = millis then
        .ok { document with modified := ⟨millis⟩ } else _) = Except.ok next at accepted
      split at accepted
      · rename_i inside
        cases accepted
        exact ⟨rfl, .inr inside, rfl, fun other differs => by simp [get?, differs]⟩
      · cases accepted
    | _ => cases accepted
  · cases value with
    | bool mark =>
      cases accepted
      exact ⟨rfl, .inl rfl, rfl, fun other differs => by simp [get?, differs]⟩
    | _ => cases accepted

/-- The document after an attempt to give a field a value: a refusal leaves it as it was. -/
def attempt (document : Document) (field : String) (value : Json) : Document :=
  match document.set field value with
  | .ok next => next
  | .error _ => document

/-- A member of the whole name only hides a name with dots, and only such a name goes through
arrays. -/
theorem not_hides_of_flat {field : String} (flat : '.' ∉ field.toList) (fields : Members)
    (value : Json) : ¬Hides fields field value :=
  fun hides => flat hides.1

theorem not_loses_of_flat {field : String} (flat : '.' ∉ field.toList) (fields : Members)
    (other : String) : ¬Loses fields field other := by
  rintro ⟨-, through⟩
  obtain ⟨first, rest, steps⟩ := List.exists_cons_of_ne_nil (segments_ne_nil other)
  simp [segments_of_flat flat, steps, throughReplaced] at through

section Accepted

variable {document next : Document} {field : String} {value : Json}
  (accepted : document.set field value = .ok next)

include accepted

/-- A field that was set is read as it was set, unless a member of its whole dotted name hides
it. -/
theorem get?_set_iff (named : field ≠ "") :
    next.get? field = some value ↔ ¬Hides document.fields field value := by
  cases reserved : isReserved field with
  | true =>
    exact iff_of_true (setsMetadata reserved accepted).self
      (not_hides_of_flat (flat_of_isReserved reserved) _ _)
  | false =>
    rw [set_of_not_isReserved reserved] at accepted
    cases accepted
    rw [get?_of_not_isReserved reserved]
    exact lookup?_put_iff named value document.fields

/-- A field apart from the one that was set is read as before, unless it lay in an array on the
way. -/
theorem get?_set_apart_iff {other : String} (apart : Apart field other) :
    next.get? other = document.get? other ↔ ¬Loses document.fields field other := by
  cases reserved : isReserved field with
  | true =>
    have differs : other ≠ field := fun same => apart.1 (.inl same)
    exact iff_of_true ((setsMetadata reserved accepted).others other differs)
      (not_loses_of_flat (flat_of_isReserved reserved) _ _)
  | false =>
    rw [set_of_not_isReserved reserved] at accepted
    cases accepted
    cases otherReserved : isReserved other with
    | true =>
      have single := segments_of_flat (flat_of_isReserved otherReserved)
      have notAbove := mt encloses_iff.2 apart.2
      rw [single] at notAbove
      have kept : ¬Loses document.fields field other := by
        rintro ⟨-, through⟩
        rw [single, not_throughReplaced_of_single notAbove] at through
        cases through
      exact iff_of_true (get?_of_isReserved otherReserved document _) kept
    | false =>
      rw [get?_of_not_isReserved otherReserved, get?_of_not_isReserved otherReserved]
      exact lookup?_put_apart_iff apart value document.fields

end Accepted

/-- Setting a field is like a lens up to two exceptions, which only names with dots meet.  The
field is read as it was set unless a member of its whole name has another value, fields apart
from it are read as before unless they lay in an array on its path, and a refusal, which only
reserved fields meet, changes nothing. -/
theorem set_like_lens_iff {field : String} (named : field ≠ "") :
    (∀ (document : Document) (value : Json),
      (∀ next, document.set field value = .ok next →
        document.attempt field value = next ∧
        (next.get? field = some value ↔ ¬Hides document.fields field value) ∧
        ∀ other, Apart field other →
          (next.get? other = document.get? other ↔ ¬Loses document.fields field other)) ∧
      ∀ error, document.set field value = .error error →
        isReserved field = true ∧ document.attempt field value = document) ∧
    ((∀ (document : Document) (value : Json) next, document.set field value = .ok next →
        next.get? field = some value ∧
        ∀ other, Apart field other → next.get? other = document.get? other) ↔
      '.' ∉ field.toList) := by
  refine ⟨fun document value => ⟨fun next accepted => ?_, fun error refused => ?_⟩, ?_, ?_⟩
  · exact ⟨by rw [attempt, accepted], get?_set_iff accepted named,
      fun other apart => get?_set_apart_iff accepted apart⟩
  · refine ⟨?_, by rw [attempt, refused]⟩
    cases reserved : isReserved field with
    | true => rfl
    | false =>
      rw [set_of_not_isReserved reserved] at refused
      cases refused
  · intro lens dotted
    -- A member of the whole name hides whatever the path leads to.
    have plain : isReserved field = false := by
      cases reserved : isReserved field with
      | false => rfl
      | true => exact absurd dotted (flat_of_isReserved reserved)
    have accepted := set_of_not_isReserved plain { withId "" with fields := [(field, .null)] }
      (.bool true)
    have read := (lens _ _ _ accepted).1
    rw [get?_set_iff accepted named] at read
    exact read ⟨dotted, .null, by simp [Assoc.find?], Json.noConfusion⟩
  · intro flat document value next accepted
    exact ⟨(get?_set_iff accepted named).2 (not_hides_of_flat flat _ _),
      fun other apart => (get?_set_apart_iff accepted apart).2 (not_loses_of_flat flat _ _)⟩

/-- A scalar on the way gives way to an object, and an array beside the way keeps its items. -/
theorem set_like_lens_iff_beside_array :
    let document : Document := { withId "d" with
      fields := [("ary", .arr [.str "x"]),
        ("sub", .obj [("deep", .int 3), ("list", .arr [.int 1])])] }
    "sub.deep.num" ≠ "" ∧ Apart "sub.deep.num" "sub.list.0" ∧
      ∃ next, document.set "sub.deep.num" (.int 5) = .ok next ∧
        next.get? "sub.deep.num" = some (.int 5) ∧
        next.get? "sub.list.0" = document.get? "sub.list.0" := by
  intro document
  have named : "sub.deep.num" ≠ "" := by decide
  have apart : Apart "sub.deep.num" "sub.list.0" := by
    simp only [Apart, encloses_iff]
    decide
  have plain : isReserved "sub.deep.num" = false := by decide
  have accepted := set_of_not_isReserved plain document (.int 5)
  have shown : ¬Hides document.fields "sub.deep.num" (.int 5) := by
    rintro ⟨-, _, found, -⟩
    cases found
  have kept : ¬Loses document.fields "sub.deep.num" "sub.list.0" := by
    rintro ⟨-, through⟩
    cases through
  obtain ⟨-, self, others⟩ := ((set_like_lens_iff named).1 document (.int 5)).1 _ accepted
  exact ⟨named, apart, _, accepted, self.2 shown, (others _ apart).2 kept⟩

/-- A field is set, and the member of its whole name is read as before; an item of an array is
set, and the item beside it is gone. -/
theorem dotted_member_hides_and_item_loses :
    let document : Document := { withId "a" with
      fields := [("a.b", .int 1), ("ary", .arr [.str "x", .int 7])] }
    ∃ hidden replaced,
      document.set "a.b" (.int 2) = .ok hidden ∧ hidden.get? "a.b" = some (.int 1) ∧
      document.set "ary.1" (.int 8) = .ok replaced ∧ Apart "ary.1" "ary.0" ∧
      document.get? "ary.0" = some (.str "x") ∧ replaced.get? "ary.0" = none := by
  intro document
  have apart : Apart "ary.1" "ary.0" := by
    simp only [Apart, encloses_iff]
    decide
  exact ⟨_, _, set_of_not_isReserved (by decide) document _, rfl,
    set_of_not_isReserved (by decide) document _, apart, rfl, rfl⟩

end Document
end DocStore
