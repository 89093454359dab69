import DocStore.Proofs.Sql.Filtering
import DocStore.Proofs.Text.FormUrlEncoded

/-!
# What field names address

In memory, a field name is first a whole name and then a path whose steps may be positions in
arrays, and three names are reserved.  On a server a name that is no column is a path through
objects (`fieldIn_eq`).

In a live document both lead to one value as long as the path passes through no array, no name
with a dot shadows it, and the name is neither empty nor that of the tombstone mark
(`fields_addressed_alike_iff`).
-/

namespace DocStore

namespace Document

/-! ## Paths -/

/-- The value at the end of a path of names through objects alone. -/
def followMembers? : List String → Json → Option Json
  | [], value => some value
  | name :: rest, value => (Sql.member? name value).bind (followMembers? rest)

/-- Whether a path of names leads to a value by way of an item of an array. -/
def throughItem : List String → Json → Bool
  | [], _ => false
  | name :: rest, .obj members => (Assoc.find? name members).any (throughItem rest)
  | names, .arr items => (follow? names (.arr items)).isSome
  | _ :: _, _ => false

/-- Without arrays, a path leads to the same value. -/
theorem followMembers?_of_not_throughItem {names : List String} {value : Json}
    (apart : throughItem names value = false) :
    followMembers? names value = follow? names value := by
  induction names generalizing value with
  | nil => rfl
  | cons name rest ih =>
    cases value with
    | obj members =>
      unfold followMembers? follow?
      cases found : Assoc.find? name members with
      | none => simp [Sql.member?, step?, found]
      | some inner =>
        have below : throughItem rest inner = false := by simpa [throughItem, found] using apart
        simp [Sql.member?, step?, found, ih below]
    | arr items =>
      have missing : follow? (name :: rest) (.arr items) = none := by
        simpa [throughItem] using apart
      rw [missing]
      rfl
    | _ => rfl

/-- By way of an array, a path of members leads nowhere. -/
theorem followMembers?_of_throughItem {names : List String} {value : Json}
    (through : throughItem names value = true) :
    followMembers? names value = none ∧ (follow? names value).isSome = true := by
  induction names generalizing value with
  | nil => cases through
  | cons name rest ih =>
    cases value with
    | obj members =>
      obtain ⟨inner, found, below⟩ := (Option.any_eq_true _ _).1 through
      simpa [followMembers?, follow?, Sql.member?, step?, found] using ih below
    | arr items => exact ⟨rfl, through⟩
    | _ => cases through

theorem followMembers?_eq_iff (names : List String) (value : Json) :
    followMembers? names value = follow? names value ↔ throughItem names value = false := by
  refine ⟨fun same => ?_, followMembers?_of_not_throughItem⟩
  cases through : throughItem names value with
  | false => rfl
  | true =>
    obtain ⟨missing, found⟩ := followMembers?_of_throughItem through
    rw [← same, missing] at found
    cases found

/-- A name without dots is one step. -/
theorem segments_of_flat {field : String} (flat : '.' ∉ field.toList) :
    segments field = [field] := by
  simp [segments, Text.splitText, Text.splitOn_of_not_mem flat]

theorem followMembers?_of_flat {field : String} (flat : '.' ∉ field.toList) (fields : Members) :
    followMembers? (segments field) (.obj fields) = Assoc.find? field fields := by
  rw [segments_of_flat flat]
  simp [followMembers?, Sql.member?]

/-- The first step of a name with dots is another name. -/
theorem segments_of_dotted {field : String} (dotted : '.' ∈ field.toList) :
    ∃ first rest, segments field = first :: rest ∧ first ≠ field := by
  obtain ⟨first, rest, split, free⟩ := List.eq_append_cons_of_mem dotted
  refine ⟨String.ofList first, (Text.splitOn '.' rest).map String.ofList, ?_, ?_⟩
  · rw [segments, Text.splitText, split, Text.splitOn_append free, List.map_cons]
  · rintro rfl
    exact free (by simpa using dotted)

/-! ## Fields -/

/-- What it takes for the path of a field through objects to lead to the field's value in a live
document. -/
structure Addressed (document : Document) (field : String) : Prop where
  /-- The mark of a live document is false. -/
  mark : field = deletedField → Assoc.find? deletedField document.fields = some (.bool false)
  /-- The empty name has no value. -/
  unnamed : field = "" → Assoc.find? "" document.fields = none
  /-- A member of the whole name, dots included, comes first. -/
  whole : '.' ∈ field.toList → ∀ value, Assoc.find? field document.fields = some value →
    followMembers? (segments field) (.obj document.fields) = some value
  /-- Positions in arrays are no members. -/
  apart : Assoc.find? field document.fields = none →
    throughItem (segments field) (.obj document.fields) = false

section Addressed

variable {document : Document} {field : String}

/-- A name without dots can only be missing or be the name of a member. -/
theorem addressed_of_flat (flat : '.' ∉ field.toList)
    (mark : field = deletedField → Assoc.find? deletedField document.fields = some (.bool false))
    (unnamed : field = "" → Assoc.find? "" document.fields = none) :
    document.Addressed field where
  mark := mark
  unnamed := unnamed
  whole := fun dotted => absurd dotted flat
  apart := fun missing => by simp [segments_of_flat flat, throughItem, missing]

theorem addressed_deleted_iff : document.Addressed deletedField ↔
    Assoc.find? deletedField document.fields = some (.bool false) := by
  constructor
  · exact fun addressed => addressed.mark rfl
  · intro found
    exact addressed_of_flat (by decide) (fun _ => found) fun empty => absurd empty (by decide)

theorem addressed_empty_iff :
    document.Addressed "" ↔ Assoc.find? "" document.fields = none := by
  constructor
  · exact fun addressed => addressed.unnamed rfl
  · intro missing
    exact addressed_of_flat (by decide) (fun mark => absurd mark (by decide)) fun _ => missing

/-- An ordinary name is looked up as a whole before it is followed. -/
theorem followMembers?_eq_lookup?_iff (notMark : field ≠ deletedField) (notEmpty : field ≠ "") :
    followMembers? (segments field) (.obj document.fields) = lookup? document.fields field ↔
      document.Addressed field := by
  have ordinary : field.isEmpty = false := by simpa using notEmpty
  unfold lookup?
  rw [ordinary, if_neg Bool.false_ne_true]
  cases found : Assoc.find? field document.fields with
  | none =>
    rw [followMembers?_eq_iff]
    constructor
    · intro apart
      exact {
        mark := (absurd · notMark)
        unnamed := (absurd · notEmpty)
        whole := fun _ value other => by simp [found] at other
        apart := fun _ => apart }
    · exact fun addressed => addressed.apart found
  | some value =>
    constructor
    · intro same
      exact {
        mark := (absurd · notMark)
        unnamed := (absurd · notEmpty)
        whole := fun _ _ other => by rw [same, ← found, other]
        apart := fun missing => by simp [found] at missing }
    · intro addressed
      by_cases dotted : '.' ∈ field.toList
      · exact addressed.whole dotted value found
      · exact (followMembers?_of_flat dotted _).trans found

/-- In a live document, the path of a field leads to the field's value if that is addressed. -/
theorem followMembers?_eq_get?_iff (live : document.deleted = false)
    (data : Filter.isColumn field = false) :
    followMembers? (segments field) (.obj document.fields) = document.get? field ↔
      document.Addressed field := by
  simp only [Filter.isColumn, Bool.or_eq_false_iff, beq_eq_false_iff_ne] at data
  unfold get?
  rw [if_neg data.1, if_neg data.2]
  by_cases mark : field = deletedField
  · rw [if_pos mark, mark, followMembers?_of_flat (by decide), live, addressed_deleted_iff]
  rw [if_neg mark]
  by_cases empty : field = ""
  · rw [empty, followMembers?_of_flat (by decide), addressed_empty_iff]
    rfl
  · exact followMembers?_eq_lookup?_iff mark empty

end Addressed

/-- A field is addressed in every live document if its name is one step and not reserved. -/
theorem forall_addressed_iff (field : String) :
    (∀ document : Document, document.deleted = false → document.Addressed field) ↔
      field ≠ deletedField ∧ field ≠ "" ∧ '.' ∉ field.toList := by
  constructor
  · intro addressed
    have within (fields : Members) : Addressed { withId "" with fields } field :=
      addressed _ rfl
    refine ⟨?_, ?_, fun dotted => ?_⟩
    · rintro rfl
      have absent := addressed_deleted_iff.1 (within [])
      cases absent
    · rintro rfl
      have present := addressed_empty_iff.1 (within [("", .null)])
      simp [Assoc.find?] at present
    · -- The only member has the whole name, so the first step finds nothing.
      obtain ⟨first, rest, steps, other⟩ := segments_of_dotted dotted
      have led := (within [(field, .null)]).whole dotted .null (by simp [Assoc.find?])
      simp [steps, followMembers?, Sql.member?, Assoc.find?, other.symm] at led
  · rintro ⟨notMark, notEmpty, flat⟩ document -
    exact addressed_of_flat flat (absurd · notMark) (absurd · notEmpty)

end Document

namespace Sql

/-- A server whose steps select members of objects, and nothing anywhere else. -/
def Dialect.FollowsMembers (dialect : Dialect) : Prop :=
  ∀ data names, dialect.follow data names = Document.followMembers? names data

theorem Dialect.followsMembers_plain : Dialect.plain.FollowsMembers := by
  intro data names
  induction names generalizing data with
  | nil => rfl
  | cons name rest ih =>
    simp only [Dialect.plain, List.foldlM_cons, Document.followMembers?]
    exact congrArg _ (funext ih)

/-- What the path of a field gives in the row of a document. -/
def Dialect.fieldIn (dialect : Dialect) (collection : String) (document : Document)
    (field : String) : Datum :=
  (jsonField field).eval { dialect, row := documentRecord collection document }

section

variable {dialect : Dialect} (follows : dialect.FollowsMembers)

include follows

theorem fieldIn_eq (collection : String) (document : Document) (field : String) :
    dialect.fieldIn collection document field =
      (Document.followMembers? (Document.segments field) (.obj document.fields)).map .jsonb := by
  rw [Dialect.fieldIn, eval_jsonField, Scope.data?, documentRecord_data]
  exact congrArg (Option.map Value.jsonb) (follows _ _)

/-- In the row of a live document, the path of a field gives the field's value, or nothing if it
has none, exactly if the field is addressed. -/
theorem fieldIn_eq_get?_iff (collection : String) {document : Document}
    (live : document.deleted = false) {field : String} (data : Filter.isColumn field = false) :
    dialect.fieldIn collection document field = (document.get? field).map .jsonb ↔
      document.Addressed field := by
  have injective : Function.Injective Value.jsonb := fun _ _ same => Value.jsonb.inj same
  rw [fieldIn_eq follows, (Option.map_injective injective).eq_iff,
    Document.followMembers?_eq_get?_iff live data]

end

/-- A field name addresses the same value in memory and on a server in the live documents in which
it is addressed, and in all of them if it is one step and not reserved. -/
theorem fields_addressed_alike_iff {dialect : Dialect} (follows : dialect.FollowsMembers)
    {field : String} (data : Filter.isColumn field = false) :
    (∀ collection document, document.deleted = false →
      (dialect.fieldIn collection document field = (document.get? field).map .jsonb ↔
        document.Addressed field)) ∧
    ((∀ collection document, document.deleted = false →
        dialect.fieldIn collection document field = (document.get? field).map .jsonb) ↔
      field ≠ Document.deletedField ∧ field ≠ "" ∧ '.' ∉ field.toList) := by
  refine ⟨fun collection document live => fieldIn_eq_get?_iff follows collection live data, ?_⟩
  rw [← Document.forall_addressed_iff]
  constructor
  · exact fun alike document live =>
      (fieldIn_eq_get?_iff follows "" live data).1 (alike "" document live)
  · exact fun addressed collection document live =>
      (fieldIn_eq_get?_iff follows collection live data).2 (addressed document live)

/-- A document with an array, a nested member and a name that has a dot. -/
def nestedDocument : Document :=
  { Document.withId "a" with
    fields := [("a.b", .int 1), ("ary", .arr [.str "x", .int 7]),
      ("sub", .obj [("num", .int 11)])] }

/-- The path of a nested member leads to its value. -/
theorem fields_addressed_alike_iff_nested :
    Dialect.plain.FollowsMembers ∧ Filter.isColumn "sub.num" = false ∧
      nestedDocument.deleted = false ∧
      Dialect.plain.fieldIn "/x" nestedDocument "sub.num" =
        (nestedDocument.get? "sub.num").map .jsonb := by
  have follows := Dialect.followsMembers_plain
  have data : Filter.isColumn "sub.num" = false := by decide
  have live : nestedDocument.deleted = false := rfl
  refine ⟨follows, data, live, ((fields_addressed_alike_iff follows data).1 "/x" _ live).2 ?_⟩
  exact {
    mark := fun mark => absurd mark (by decide)
    unnamed := fun empty => absurd empty (by decide)
    whole := fun _ value found => by simp [nestedDocument, Assoc.find?] at found
    apart := fun _ => rfl }

/-- An item of an array and a member whose name has a dot have values, but their paths give
nothing. -/
theorem item_and_dotted_name_not_addressed :
    nestedDocument.deleted = false ∧
      nestedDocument.get? "ary.1" = some (.int 7) ∧
      Dialect.plain.fieldIn "/x" nestedDocument "ary.1" = none ∧
      nestedDocument.get? "a.b" = some (.int 1) ∧
      Dialect.plain.fieldIn "/x" nestedDocument "a.b" = none := by
  have follows := Dialect.followsMembers_plain
  refine ⟨rfl, rfl, ?_, rfl, ?_⟩
  · rw [fieldIn_eq follows]
    rfl
  · rw [fieldIn_eq follows]
    rfl

end Sql
end DocStore
