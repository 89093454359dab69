import Mathlib.Data.String.Basic
import DocStore.Proofs.Json.Whole
import DocStore.Proofs.Sql.Filtering

/-!
# Filters with bound values

Identifiers and epochs are columns, and whatever a filter compares them with is bound as a text
or as an integer of 64 bits.  Compared with bound values, documents are admitted as with the
values of the filter if these have the type of the column (`Filter.admits_asBound`).  Of
identifiers nothing else will do: a number is on one side of all texts, but its digits are not
(`Filter.admits_asBound_iff`).
-/

namespace DocStore

/-- A value other than null counts as present. -/
theorem Json.present?_some {value : Json} (notNull : value.isNull = false) :
    Json.present? (some value) = some value := by
  simp [Json.present?, Option.filter, notNull]

namespace Filter

theorem isColumn_iff {field : String} :
    isColumn field = true ↔ field = Document.idField ∨ field = Document.modifiedField := by
  rw [isColumn, Bool.or_eq_true, beq_iff_eq, beq_iff_eq]

/-- The operators that compare, and the one that asks whether a field is there. -/
def comparing : List Operator :=
  [.equal, .notEqual, .greaterThan, .lessThan, .atLeast, .atMost, .oneOf, .noneOf, .present]

/-- A filter that compares a column with one value or with a list of values. -/
structure OnColumn (filter : Filter) : Prop where
  /-- The field is a column. -/
  column : isColumn filter.field = true
  /-- The filter compares, or asks whether the field is there. -/
  operator : filter.operator ∈ comparing
  /-- Besides lists there is one value. -/
  single : filter.operator ≠ .oneOf → filter.operator ≠ .noneOf → ∃ value, filter.values = [value]

/-- A filter on a column compares it with one value, asks whether it is there, or looks it up. -/
theorem OnColumn.kind {filter : Filter} (onColumn : filter.OnColumn) :
    (filter.operator ∈ Sql.scalarOperators ∧ ∃ value, filter.values = [value]) ∨
      (filter.operator = .present ∧ ∃ value, filter.values = [value]) ∨
      filter.operator = .oneOf ∨ filter.operator = .noneOf := by
  obtain ⟨-, operator, single⟩ := onColumn
  cases asked : filter.operator with
  | like | contains | containsAny => simp [asked, comparing] at operator
  | equal | notEqual | greaterThan | lessThan | atLeast | atMost =>
    rw [asked] at single
    exact .inl ⟨by decide, single Operator.noConfusion Operator.noConfusion⟩
  | present =>
    rw [asked] at single
    exact .inr (.inl ⟨rfl, single Operator.noConfusion Operator.noConfusion⟩)
  | oneOf => exact .inr (.inr (.inl rfl))
  | noneOf => exact .inr (.inr (.inr rfl))

/-- The filters that parameters ask for have one value unless they look up a list. -/
theorem onColumn_ofParameter {name raw : String}
    (column : isColumn (ofParameter name raw).field = true)
    (operator : (ofParameter name raw).operator ∈ comparing) :
    (ofParameter name raw).OnColumn := by
  refine ⟨column, operator, fun notListed notExcluded => ?_⟩
  unfold ofParameter at operator notListed notExcluded ⊢
  generalize Operator.ofParameter name = parameter at operator notListed notExcluded ⊢
  obtain ⟨asked, field⟩ := parameter
  dsimp only at operator notListed notExcluded ⊢
  cases asked <;> first | exact ⟨_, rfl⟩ | simp [comparing] at operator notListed notExcluded

/-- What a value is bound as for a column. -/
def boundValue (field : String) (value : Json) : Json :=
  if field = Document.idField then .str value.toText else .int value.toInt

theorem isNull_boundValue (field : String) (value : Json) :
    (boundValue field value).isNull = false := by
  unfold boundValue
  split <;> rfl

/-- What a comparison with a value binds: a null is not bound but decides by itself. -/
def comparedWith (field : String) (value : Json) : Json :=
  if value.isNull then value else boundValue field value

/-- The filter with what is bound in place of its values.  In a list nulls are bound too, and
asking whether the field is there binds nothing. -/
def asBound (filter : Filter) : Filter :=
  { filter with
    values :=
      match filter.operator with
      | .present => filter.values
      | .oneOf => filter.values.map (boundValue filter.field)
      | .noneOf => filter.values.map (boundValue filter.field)
      | _ => filter.values.map (comparedWith filter.field) }

section Scalar

variable {operator : Operator} (scalar : operator ∈ Sql.scalarOperators) (field : String)
  {value : Json}
include scalar

/-- A null is not bound. -/
theorem asBound_null (null : value.isNull = true) :
    asBound ⟨field, operator, [value]⟩ = ⟨field, operator, [value]⟩ := by
  cases operator <;> simp [Sql.scalarOperators] at scalar <;> simp [asBound, comparedWith, null]

theorem asBound_value (notNull : value.isNull = false) :
    asBound ⟨field, operator, [value]⟩ = ⟨field, operator, [boundValue field value]⟩ := by
  cases operator <;> simp [Sql.scalarOperators] at scalar <;> simp [asBound, comparedWith, notNull]

end Scalar

/-! ## Values of the column's type -/

/-- Whether a value has the type of a column: texts are identifiers and whole numbers epochs. -/
def hasType (field : String) : Json → Bool
  | .str _ => field == Document.idField
  | value => field == Document.modifiedField && value.isWhole

/-- A filter on a column whose values have the type of the column. -/
structure Suits (filter : Filter) (document : Document) : Prop where
  /-- What is compared has the type of the column or is null. -/
  typed : filter.operator ≠ .present →
    ∀ value ∈ filter.values, value.isNull = true ∨ hasType filter.field value = true
  /-- The document does not have what a null in a list is bound as. -/
  filled : filter.operator.takesList = true → ∀ value ∈ filter.values, value.isNull = true →
    document.get? filter.field ≠ some (boundValue filter.field .null)

variable {field : String} {document : Document}
  (inside : field = Document.modifiedField → Json.Inside53 document.modified.millis)

include inside in
/-- A value of the column's type compares with the cell as what it is bound as. -/
theorem compare_boundValue {value : Json} (typed : hasType field value = true) :
    Json.compare (document.get? field) (some (boundValue field value)) =
        Json.compare (document.get? field) (some value) ∧
      Json.equal (document.get? field) (some (boundValue field value)) =
        Json.equal (document.get? field) (some value) := by
  have epoch (whole : (field == Document.modifiedField && value.isWhole) = true) :
      Json.compare (document.get? field) (some (boundValue field value)) =
          Json.compare (document.get? field) (some value) ∧
        Json.equal (document.get? field) (some (boundValue field value)) =
          Json.equal (document.get? field) (some value) := by
    rw [Bool.and_eq_true, beq_iff_eq] at whole
    obtain ⟨rfl, whole⟩ := whole
    have cell : document.get? Document.modifiedField = some (.int document.modified.millis) := rfl
    have bound : boundValue Document.modifiedField value = .int value.toInt := rfl
    rw [cell, bound, Json.compare_int (inside rfl), Json.compare_whole (inside rfl) whole,
      Json.equal_int (inside rfl), Json.equal_whole (inside rfl) whole]
    exact ⟨rfl, rfl⟩
  cases value with
  | str text =>
    rw [hasType, beq_iff_eq] at typed
    subst typed
    exact ⟨rfl, rfl⟩
  | _ => exact epoch typed

/-- A cell is there. -/
theorem exists_cell (document : Document) (column : isColumn field = true) :
    ∃ cell, document.get? field = some cell ∧ cell.isNull = false := by
  rcases isColumn_iff.1 column with rfl | rfl
  · exact ⟨.str document.id, rfl, rfl⟩
  · exact ⟨.int document.modified.millis, rfl, rfl⟩

include inside in
theorem equal_boundValue_null (column : isColumn field = true)
    (filled : document.get? field ≠ some (boundValue field .null)) :
    Json.equal (document.get? field) (some (boundValue field .null)) = false := by
  rcases isColumn_iff.1 column with rfl | rfl
  · have named : document.id ≠ "" := fun blank => filled (congrArg (some ∘ Json.str) blank)
    exact beq_eq_false_iff_ne.2 named
  · have dated : document.modified.millis ≠ 0 := fun blank =>
      filled (congrArg (some ∘ Json.int) blank)
    exact (Json.equal_int (inside rfl) 0).trans (beq_eq_false_iff_ne.2 dated)

/-- Values that compare alike are told apart by no comparison. -/
theorem accepts_congr {operator : Operator} (scalar : operator ∈ Sql.scalarOperators)
    {actual : Option Json} {value other : Json}
    (order : Json.compare actual (some value) = Json.compare actual (some other))
    (equal : Json.equal actual (some value) = Json.equal actual (some other)) :
    accepts ⟨field, operator, [value]⟩ actual = accepts ⟨field, operator, [other]⟩ actual := by
  cases operator <;> simp [Sql.scalarOperators] at scalar <;>
    simp [accepts, Filter.value, order, equal]

/-- Where the values have the type of the column, the filter with bound values admits the same
documents. -/
theorem admits_asBound {filter : Filter} (onColumn : filter.OnColumn)
    (inside : filter.field = Document.modifiedField → Json.Inside53 document.modified.millis)
    (suits : filter.Suits document) : filter.asBound.admits document = filter.admits document := by
  obtain ⟨field, operator, values⟩ := filter
  have typed := suits.typed
  have listed (takesList : operator.takesList = true) (notPresent : operator ≠ .present) :
      ((values.map (boundValue field)).any fun value =>
          Json.equal (document.get? field) (some value)) =
        values.any fun value => Json.equal (document.get? field) (some value) := by
    have each : (values.map fun value =>
          Json.equal (document.get? field) (some (boundValue field value))) =
        values.map fun value => Json.equal (document.get? field) (some value) := by
      refine List.map_congr_left fun value member => ?_
      rcases typed notPresent value member with null | ofType
      · have blank := suits.filled takesList value member null
        obtain ⟨cell, held, notNull⟩ := exists_cell document onColumn.column
        rw [Json.eq_null_of_isNull null, equal_boundValue_null inside onColumn.column blank, held]
        exact (Json.equal_null (Json.present?_some notNull)).symm
      · exact (compare_boundValue inside ofType).2
    simpa only [List.any_map, Function.comp_def, id] using congrArg (List.any · id) each
  rcases onColumn.kind with ⟨scalar, value, rfl⟩ | ⟨rfl, -⟩ | rfl | rfl
  · cases null : value.isNull with
    | true => rw [asBound_null scalar field null]
    | false =>
      have ofType : hasType field value = true := by
        refine (typed ?_ value List.mem_cons_self).resolve_left (by simp [null])
        rintro rfl
        simp [Sql.scalarOperators] at scalar
      obtain ⟨order, equal⟩ := compare_boundValue inside ofType
      rw [asBound_value scalar field null]
      exact accepts_congr scalar order equal
  · rfl
  · exact listed rfl Operator.noConfusion
  · exact congrArg Bool.not (listed rfl Operator.noConfusion)

/-! ## Identifiers -/

/-- A filter on identifiers whose values are texts.  A single value may be null, and a listed
one may be anything whose text is listed too. -/
def Textual (filter : Filter) : Prop :=
  match filter.operator with
  | .present => True
  | .oneOf => ∀ value ∈ filter.values, Json.str value.toText ∈ filter.values
  | .noneOf => ∀ value ∈ filter.values, Json.str value.toText ∈ filter.values
  | _ => ∀ value ∈ filter.values, value.isNull = true ∨ ∃ text, value = .str text

end Filter

/-- What a comparing operator makes of an order. -/
def Operator.ofOrder (operator : Operator) (order : Ordering) : Bool :=
  match operator with
  | .equal => order = .eq
  | .notEqual => order ≠ .eq
  | .greaterThan => order = .gt
  | .lessThan => order = .lt
  | .atLeast => order ≠ .lt
  | .atMost => order ≠ .gt
  | _ => false

/-- No comparing operator makes the same of every order. -/
theorem Operator.ofOrder_apart {operator : Operator} (scalar : operator ∈ Sql.scalarOperators)
    {order : Ordering} (unequal : order ≠ .eq)
    (level : operator.ofOrder .eq = operator.ofOrder order) :
    operator.ofOrder order.swap ≠ operator.ofOrder order := by
  cases order with
  | eq => exact absurd rfl unequal
  | lt => cases operator <;> simp [Sql.scalarOperators, ofOrder] at *
  | gt => cases operator <;> simp [Sql.scalarOperators, ofOrder] at *

/-- A text comes before what it is followed up to. -/
theorem Text.lt_append_singleton (c : Char) (chars : List Char) : chars < chars ++ [c] := by
  induction chars with
  | nil => exact List.nil_lt_cons c []
  | cons head rest ih => exact List.cons_lt_cons_iff.2 (.inr ⟨rfl, ih⟩)

namespace Json

theorem equal_str_eq_compare (text : String) (value : Json) :
    equal (some (str text)) (some value) =
      decide (compare (some (str text)) (some value) = .eq) := by
  cases value with
  | str other =>
    have level : (text == other) = decide (Ord.compare text other = .eq) := by
      rw [Bool.eq_iff_iff, beq_iff_eq, decide_eq_true_iff, Std.compare_eq_iff_eq]
    exact level
  | bool value => cases value <;> rfl
  | _ => rfl

/-- A text equals itself alone. -/
theorem equal_str_iff (text : String) (value : Json) :
    equal (some (str text)) (some value) = true ↔ value = str text := by
  cases value <;> simp [equal, toBinary64?, same, eq_comm (a := text)]

/-- A value that is no text lies on one side of all texts; its own text does not, since there
are texts on its other side. -/
theorem exists_one_sided {value : Json} (notNull : value.isNull = false)
    (notText : ∀ text, value ≠ str text) : ∃ order : Ordering, order ≠ .eq ∧
      (∀ text, compare (some (str text)) (some value) = order) ∧
      ∃ text, Ord.compare text value.toText = order.swap := by
  have greater : ∃ text, Ord.compare text value.toText = .gt := by
    refine ⟨value.toText ++ "a", ?_⟩
    rw [Std.OrientedCmp.gt_iff_lt]
    refine compareOfLessAndEq_eq_lt.2 (String.lt_iff_toList_lt.2 ?_)
    rw [String.toList_append]
    exact Text.lt_append_singleton 'a' _
  have less (opening : Char) (rest : List Char) (after : 'A' < opening)
      (written : value.toText = String.ofList (opening :: rest)) :
      ∃ text, Ord.compare text value.toText = .lt := by
    refine ⟨"A", ?_⟩
    have chars : value.toText.toList = opening :: rest := by rw [written, String.toList_ofList]
    refine compareOfLessAndEq_eq_lt.2 (String.lt_iff_toList_lt.2 ?_)
    rw [chars]
    exact List.cons_lt_cons_iff.2 (.inl after)
  cases value with
  | null => cases notNull
  | str text => exact absurd rfl (notText text)
  | bool truth => exact ⟨.lt, by decide, fun _ => by cases truth <;> rfl, greater⟩
  | int n => exact ⟨.lt, by decide, fun _ => rfl, greater⟩
  | float x => exact ⟨.lt, by decide, fun _ => rfl, greater⟩
  | arr items =>
    refine ⟨.gt, by decide, fun _ => rfl, ?_⟩
    cases items with
    | nil => exact less '[' _ (by decide) rfl
    | cons item rest => exact less '[' _ (by decide) rfl
  | obj members =>
    refine ⟨.gt, by decide, fun _ => rfl, ?_⟩
    rcases members with _ | ⟨⟨name, item⟩, rest⟩
    · exact less '\x7b' _ (by decide) rfl
    · exact less '\x7b' _ (by decide) rfl

end Json

namespace Filter

variable {field : String} {operator : Operator}

/-- A comparing operator looks at the order alone if the order finds equal what is. -/
theorem accepts_eq_ofOrder (scalar : operator ∈ Sql.scalarOperators) {actual : Option Json}
    {value : Json} (level : Json.equal actual (some value) =
      decide (Json.compare actual (some value) = .eq)) :
    accepts ⟨field, operator, [value]⟩ actual =
      operator.ofOrder (Json.compare actual (some value)) := by
  cases operator <;> simp [Sql.scalarOperators] at scalar <;>
    simp [accepts, Filter.value, level, Operator.ofOrder]

/-- Identifiers are compared with a value and with its text alike only if it is a text. -/
theorem isText_of_accepts (scalar : operator ∈ Sql.scalarOperators) {value : Json}
    (notNull : value.isNull = false)
    (alike : ∀ text : String, accepts ⟨field, operator, [.str value.toText]⟩ (some (.str text)) =
      accepts ⟨field, operator, [value]⟩ (some (.str text))) : ∃ text, value = .str text := by
  by_contra noText
  obtain ⟨order, unequal, sided, other, opposite⟩ :=
    Json.exists_one_sided notNull (not_exists.1 noText)
  have orders (text : String) : operator.ofOrder (Ord.compare text value.toText) =
      operator.ofOrder order := by
    have here := alike text
    rw [accepts_eq_ofOrder scalar (Json.equal_str_eq_compare _ _),
      accepts_eq_ofOrder scalar (Json.equal_str_eq_compare _ _), sided] at here
    exact here
  have level := orders value.toText
  rw [Std.ReflOrd.compare_self] at level
  have apart := Operator.ofOrder_apart scalar unequal level
  rw [← opposite] at apart
  exact apart (orders other)

/-- A look-up finds the same identifiers among the texts of values as among the values if and
only if the texts are values too. -/
theorem any_text_iff (values : List Json) :
    (∀ text : String, ((values.map (boundValue Document.idField)).any fun value =>
        Json.equal (some (.str text)) (some value)) =
      values.any fun value => Json.equal (some (.str text)) (some value)) ↔
      ∀ value ∈ values, Json.str value.toText ∈ values := by
  have bound (value : Json) : boundValue Document.idField value = .str value.toText := rfl
  refine Iff.trans (forall_congr' fun text => Bool.eq_iff_iff) ?_
  simp only [List.any_eq_true, List.mem_map, Json.equal_str_iff, bound,
    exists_exists_and_eq_and, Json.str.injEq, exists_eq_right]
  constructor
  · exact fun same value member => (same value.toText).1 ⟨value, member, rfl⟩
  · intro texts text
    constructor
    · rintro ⟨value, member, rfl⟩
      exact texts value member
    · exact fun member => ⟨.str text, member, rfl⟩

/-- A filter on identifiers admits with bound values the same documents if and only if its
values are texts. -/
theorem admits_asBound_iff {filter : Filter} (onColumn : filter.OnColumn)
    (onIds : filter.field = Document.idField) :
    (∀ document : Document, document.deleted = false →
      filter.asBound.admits document = filter.admits document) ↔ filter.Textual := by
  obtain ⟨field, operator, values⟩ := filter
  obtain rfl : field = Document.idField := onIds
  have cells : (∀ document : Document, document.deleted = false →
      (asBound ⟨Document.idField, operator, values⟩).admits document =
        admits ⟨Document.idField, operator, values⟩ document) ↔
      ∀ text : String, (asBound ⟨Document.idField, operator, values⟩).accepts (some (.str text)) =
        accepts ⟨Document.idField, operator, values⟩ (some (.str text)) :=
    ⟨fun same text => same (Document.withId text) rfl, fun same document _ => same document.id⟩
  rw [cells]
  rcases onColumn.kind with ⟨scalar, value, rfl⟩ | ⟨rfl, -⟩ | rfl | rfl
  · have textual : Textual ⟨Document.idField, operator, [value]⟩ ↔
        value.isNull = true ∨ ∃ text, value = .str text := by
      cases operator <;> simp [Sql.scalarOperators] at scalar <;> simp [Textual]
    rw [textual]
    cases null : value.isNull with
    | true => simp [asBound_null scalar _ null]
    | false =>
      rw [asBound_value scalar _ null]
      constructor
      · exact fun alike => .inr (isText_of_accepts scalar null alike)
      · rintro (isNull | ⟨text, rfl⟩)
        · cases isNull
        · exact fun _ => rfl
  · exact iff_of_true (fun _ => rfl) trivial
  · exact any_text_iff values
  · refine Iff.trans (forall_congr' fun text => ?_) (any_text_iff values)
    exact Bool.not_inj_iff

end Filter

end DocStore
