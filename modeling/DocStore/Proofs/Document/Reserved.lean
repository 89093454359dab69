import DocStore.Proofs.Document.Merging
import DocStore.Proofs.Document.Setting
import DocStore.Proofs.Text.Numeral

/-!
# Reserved names and user fields

Reading a document lifts its reserved members out, so a live document is read back as it was
written just when no user field has a reserved name (`ofJson_toJson_iff`).  Updating and merging
keep the user fields free of them, and so does setting any field except one below a reserved name,
whose path starts with that name (`free_attempt_iff`).  Hence every document that is built up by
such steps is free of reserved names just when no step sets a field below one
(`built_free_of_reserved_iff`).
-/

namespace DocStore

/-! ## Integers of 64 bits -/

namespace Number.Extended

theorem clampInt64_eq_self_iff {n : Int} :
    clampInt64 n = n ↔ leastInt64 ≤ n ∧ n ≤ greatestInt64 := by
  unfold clampInt64
  have ends : leastInt64 ≤ greatestInt64 := by decide
  omega

theorem clampInt64_clampInt64 (n : Int) : clampInt64 (clampInt64 n) = clampInt64 n := by
  rw [clampInt64_eq_self_iff]
  unfold clampInt64
  have ends : leastInt64 ≤ greatestInt64 := by decide
  omega

theorem clampInt64_toInt64 (x : Extended) : clampInt64 x.toInt64 = x.toInt64 := by
  cases x with
  | finite x => exact clampInt64_clampInt64 _
  | infinite negative => cases negative <;> rfl
  | notANumber => rfl

end Number.Extended

namespace Json

open Number.Extended (clampInt64)

theorem clampInt64_textToInt (text : String) : clampInt64 (textToInt text) = textToInt text := by
  unfold textToInt
  simp only []
  split
  · rename_i value read
    exact Number.Extended.clampInt64_eq_self_iff.2 (Text.Numeral.range_of_readInt read)
  · split
    · exact Number.Extended.clampInt64_toInt64 _
    · rfl

/-- A value is taken as an integer of 64 bits. -/
theorem clampInt64_toInt (value : Json) : clampInt64 value.toInt = value.toInt := by
  cases value with
  | bool value => cases value <;> rfl
  | int n => exact Number.Extended.clampInt64_clampInt64 n
  | float x => exact Number.Extended.clampInt64_toInt64 (.finite x)
  | str text => exact clampInt64_textToInt text
  | _ => rfl

end Json

namespace Document

/-! ## Read back -/

/-- No user field has a reserved name. -/
def FreeOfReserved (fields : Members) : Prop :=
  ∀ name, isReserved name = true → Assoc.find? name fields = none

/-- The fields are in order, and the epoch has 64 bits. -/
structure Regular (document : Document) : Prop where
  sorted : Assoc.Sorted document.fields
  epoch : Number.Extended.clampInt64 document.modified.millis = document.modified.millis

theorem free_nil : FreeOfReserved [] := fun _ _ => rfl

/-- The members of an object without the reserved ones. -/
theorem find?_lifted (members : Members) (name : String) :
    Assoc.find? name
        (Assoc.erase deletedField (Assoc.erase modifiedField (Assoc.erase idField members))) =
      if isReserved name then none else Assoc.find? name members := by
  simp only [Assoc.find?_erase, isReserved_iff]
  by_cases isId : name = idField <;> by_cases isModified : name = modifiedField <;>
    by_cases isDeleted : name = deletedField <;> simp [isId, isModified, isDeleted]

/-- A document that was read has no reserved names among its fields. -/
theorem free_of_ofJson {value : Json} {document : Document} (read : ofJson value = .ok document) :
    FreeOfReserved document.fields := by
  cases value with
  | obj members =>
    cases read
    intro name reserved
    simp only []
    split
    · rfl
    · rw [find?_lifted, if_pos reserved]
  | _ => cases read

theorem regular_of_ofJson {value : Json} (ordered : value.Ordered) {document : Document}
    (read : ofJson value = .ok document) : Regular document := by
  cases value with
  | obj members =>
    cases read
    refine ⟨?_, ?_⟩
    · simp only []
      split
      · exact List.Pairwise.nil
      · exact ((ordered.1.erase _).erase _).erase _
    · simp only []
      cases Assoc.find? modifiedField members with
      | none => rfl
      | some epoch => exact epoch.clampInt64_toInt
  | _ => cases read

/-- A member of a live document's JSON is a field, or else part of the metadata. -/
theorem find?_toJson {document : Document} (live : document.deleted = false)
    (sorted : Assoc.Sorted document.fields) (name : String) :
    Assoc.find? name (Assoc.ofList (document.metadata ++ document.content)) =
      (Assoc.find? name document.fields).or (Assoc.find? name document.metadata) := by
  have increasing : idField < modifiedField := by decide
  have metadataSorted : Assoc.Sorted document.metadata := List.pairwise_pair.2 increasing
  rw [content, if_neg (by simp [live]), Assoc.find?_ofList, List.reverse_append,
    Assoc.find?_append, Assoc.find?_reverse sorted, Assoc.find?_reverse metadataSorted]

theorem find?_metadata_of_not_isReserved {name : String} (plain : isReserved name = false)
    (document : Document) : Assoc.find? name document.metadata = none := by
  obtain ⟨notId, notModified, -⟩ := ne_of_not_isReserved plain
  simp [metadata, Assoc.find?, Ne.symm notId, Ne.symm notModified]

/-- A live document is read back as it was just when no field has a reserved name. -/
theorem ofJson_toJson_iff {document : Document} (regular : Regular document)
    (live : document.deleted = false) :
    ofJson document.toJson = .ok document ↔ FreeOfReserved document.fields := by
  refine ⟨free_of_ofJson, fun free => ?_⟩
  have found := find?_toJson live regular.sorted
  generalize written : Assoc.ofList (document.metadata ++ document.content) = members at found
  have described : ∀ name, isReserved name = true →
      Assoc.find? name members = Assoc.find? name document.metadata := by
    intro name reserved
    rw [found, free name reserved, Option.none_or]
  have idFound : Assoc.find? idField members = some (.str document.id) :=
    described _ (by decide)
  have epochFound : Assoc.find? modifiedField members = some (.int document.modified.millis) :=
    described _ (by decide)
  have unmarked : Assoc.find? deletedField members = none := described _ (by decide)
  have lifted :
      Assoc.erase deletedField (Assoc.erase modifiedField (Assoc.erase idField members)) =
        document.fields := by
    have membersSorted : Assoc.Sorted members := written ▸ Assoc.sorted_ofList _
    refine (((membersSorted.erase _).erase _).erase _).eq_of_find?_eq regular.sorted fun name => ?_
    rw [find?_lifted]
    cases reserved : isReserved name with
    | true => exact (free name reserved).symm
    | false => rw [if_neg Bool.false_ne_true, found, find?_metadata_of_not_isReserved reserved,
        Option.or_none]
  rw [toJson, written, ofJson, idFound, epochFound, unmarked, lifted]
  obtain ⟨id, ⟨millis⟩, deleted, fields⟩ := document
  cases live
  have epoch : Json.toInt (.int millis) = millis := regular.epoch
  simp [idOfJson, Json.toText, epoch]

/-! ## Setting fields below a reserved name -/

/-- Whether a field lies below a reserved name. -/
def BelowReserved (field : String) : Prop :=
  ∃ name rest, isReserved name = true ∧ field = name ++ "." ++ rest

/-- The path to a field that is not reserved starts with a reserved name just when the field
lies below one. -/
theorem belowReserved_iff {field : String} (plain : isReserved field = false) {name : String}
    {rest : List String} (steps : segments field = name :: rest) :
    BelowReserved field ↔ isReserved name = true := by
  constructor
  · rintro ⟨above, further, reserved, rfl⟩
    rw [segments_dot, segments_of_flat (flat_of_isReserved reserved)] at steps
    obtain ⟨rfl, -⟩ := List.cons.inj steps
    exact reserved
  · intro reserved
    have encloses : Encloses name field := by
      rw [encloses_iff, segments_of_flat (flat_of_isReserved reserved), steps]
      exact List.cons_prefix_cons.2 ⟨rfl, List.nil_prefix⟩
    rcases encloses with rfl | ⟨further, rfl⟩
    · rw [plain] at reserved
      cases reserved
    · exact ⟨name, further, reserved, rfl⟩

theorem not_belowReserved_of_isReserved {field : String} (reserved : isReserved field = true) :
    ¬BelowReserved field := by
  rintro ⟨name, rest, -, rfl⟩
  exact flat_of_isReserved reserved (by simp)

/-- Setting a field that is not reserved gives a value to the user field of its first step. -/
theorem exists_set_eq_insert {field : String} (plain : isReserved field = false)
    (document : Document) (value : Json) :
    ∃ name rest inner, segments field = name :: rest ∧ document.set field value =
      .ok { document with fields := Assoc.insert name inner document.fields } := by
  obtain ⟨name, rest, steps⟩ := List.exists_cons_of_ne_nil (segments_ne_nil field)
  obtain ⟨inner, inserts⟩ := exists_put_eq_insert value name rest document.fields
  exact ⟨name, rest, inner, steps, by rw [set_of_not_isReserved plain, steps, inserts]⟩

/-- Setting a reserved field, or failing to, leaves the user fields. -/
theorem fields_attempt_of_isReserved {field : String} (reserved : isReserved field = true)
    (document : Document) (value : Json) :
    (document.attempt field value).fields = document.fields := by
  unfold attempt
  split
  · rename_i accepted
    exact (setsMetadata reserved accepted).fields
  · rfl

/-- Setting a field below a reserved name makes a user field of that name, and setting any other
field keeps the user fields free. -/
theorem free_attempt_iff {document : Document} (free : FreeOfReserved document.fields)
    (field : String) (value : Json) :
    FreeOfReserved (document.attempt field value).fields ↔ ¬BelowReserved field := by
  cases reserved : isReserved field with
  | true =>
    rw [fields_attempt_of_isReserved reserved]
    exact iff_of_true free (not_belowReserved_of_isReserved reserved)
  | false =>
    obtain ⟨name, rest, inner, steps, inserts⟩ := exists_set_eq_insert reserved document value
    rw [attempt, inserts, belowReserved_iff reserved steps]
    simp only [FreeOfReserved, Assoc.find?_insert]
    constructor
    · intro stays below
      simpa using stays name below
    · intro plain other otherReserved
      have differs : other ≠ name := fun same => plain (same ▸ otherReserved)
      rw [if_neg differs, free other otherReserved]

theorem regular_set {document next : Document} (regular : Regular document) {field : String}
    {value : Json} (accepted : document.set field value = .ok next) : Regular next := by
  cases reserved : isReserved field with
  | false =>
    obtain ⟨name, rest, inner, -, inserts⟩ := exists_set_eq_insert reserved document value
    rw [inserts] at accepted
    cases accepted
    exact ⟨regular.sorted.insert name inner, regular.epoch⟩
  | true =>
    have sets := setsMetadata reserved accepted
    refine ⟨sets.fields ▸ regular.sorted, ?_⟩
    rcases sets.epoch with same | inside
    · exact same ▸ regular.epoch
    · exact inside

theorem regular_attempt {document : Document} (regular : Regular document) (field : String)
    (value : Json) : Regular (document.attempt field value) := by
  unfold attempt
  split
  · rename_i accepted
    exact regular_set regular accepted
  · exact regular

/-! ## Updating and merging -/

theorem regular_update {document other : Document} (regular : Regular document)
    (otherRegular : Regular other) : Regular (document.update other) := by
  refine ⟨otherRegular.sorted, ?_⟩
  simp only [update, Epoch.max]
  split
  · exact otherRegular.epoch
  · exact regular.epoch

theorem regular_patch {document : Document} (regular : Regular document) (other : Document) :
    Regular (document.patch other) :=
  ⟨sorted_mergeMembers regular.sorted other.fields, regular.epoch⟩

/-- Merging brings no name that neither side has. -/
theorem free_patch {document other : Document} (otherRegular : Regular other)
    (free : FreeOfReserved document.fields) (otherFree : FreeOfReserved other.fields) :
    FreeOfReserved (document.patch other).fields := by
  intro name reserved
  have found := find?_mergeMembers otherRegular.sorted document.fields name
  rw [free name reserved, otherFree name reserved] at found
  exact found

/-! ## Documents built step by step -/

/-- The documents that are made from an identifier or read from JSON, and edited by setting fields
of the permitted names, by updating and by merging. -/
inductive Built (permitted : String → Prop) : Document → Prop
  | withId (id : String) : Built permitted (withId id)
  | ofJson {value : Json} {document : Document} (ordered : value.Ordered)
      (read : ofJson value = .ok document) : Built permitted document
  | set {document : Document} (built : Built permitted document) {field : String}
      (permits : permitted field) (value : Json) : Built permitted (document.attempt field value)
  | update {document other : Document} (built : Built permitted document)
      (otherBuilt : Built permitted other) : Built permitted (document.update other)
  | patch {document other : Document} (built : Built permitted document)
      (otherBuilt : Built permitted other) : Built permitted (document.patch other)

namespace Built

variable {permitted : String → Prop} {document : Document}

theorem regular (built : Built permitted document) : Regular document := by
  induction built with
  | withId id => exact ⟨List.Pairwise.nil, rfl⟩
  | ofJson ordered read => exact regular_of_ofJson ordered read
  | set _ _ value ih => exact regular_attempt ih _ value
  | update _ _ ih otherIh => exact regular_update ih otherIh
  | patch _ _ ih _ => exact regular_patch ih _

theorem free (above : ∀ field, permitted field → ¬BelowReserved field)
    (built : Built permitted document) : FreeOfReserved document.fields := by
  induction built with
  | withId id => exact free_nil
  | ofJson _ read => exact free_of_ofJson read
  | set _ permits value ih => exact (free_attempt_iff ih _ value).2 (above _ permits)
  | update _ _ _ otherIh => exact otherIh
  | patch _ otherBuilt ih otherIh => exact free_patch otherBuilt.regular ih otherIh

end Built

/-- A live document that was built step by step is read back as it was written just when no user
field has a reserved name; and none ever has, so that every live document is read back, just when
no step sets a field below a reserved name. -/
theorem built_free_of_reserved_iff (permitted : String → Prop) :
    (∀ document, Built permitted document → document.deleted = false →
      (ofJson document.toJson = .ok document ↔ FreeOfReserved document.fields)) ∧
    ((∀ document, Built permitted document → FreeOfReserved document.fields ∧
        (document.deleted = false → ofJson document.toJson = .ok document)) ↔
      ∀ field, permitted field → ¬BelowReserved field) := by
  refine ⟨fun document built live => ofJson_toJson_iff built.regular live, ?_, ?_⟩
  · intro always field permits
    have built := (@Built.withId permitted "").set permits .null
    exact (free_attempt_iff free_nil field .null).1 (always _ built).1
  · intro above document built
    have free := built.free above
    exact ⟨free, fun live => (ofJson_toJson_iff built.regular live).2 free⟩

/-- A field is set below the identifier, and the document that is written is read with another
identifier and without the field. -/
theorem field_below_identifier_lifted :
    let document := (withId "a").attempt "id.x" (.int 1)
    Built (fun _ => True) document ∧ document.deleted = false ∧
      Assoc.find? idField document.fields = some (.obj [("x", .int 1)]) ∧
      ∃ back, ofJson document.toJson = .ok back ∧
        back.id = "\x7b\"x\":1\x7d" ∧ back.fields = [] := by
  intro document
  refine ⟨(Built.withId "a").set trivial _, rfl, rfl, _, rfl, ?_, List.eq_nil_of_length_eq_zero ?_⟩
  · decide +kernel
  · decide +kernel

end Document
end DocStore
