import DocStore.Proofs.Sql.Meaning
import DocStore.Sql.Listing

/-!
# Filters mean the same on a server

A filter on a field of the data becomes a condition on rows (`filterExpr`), and a listing
joins the conditions of its filters.  Nulls of JSON are made missing values first, so every
comparison with a missing field is unknown; what is added to the comparison says what becomes
of such rows.  `passes_filterExpr` says that the condition of a filter is true in the row of a
document exactly when the filter admits the document, and `shows_iff_holds` says so for whole
listings.

It is assumed that paths into the data lead to the values of fields and that the server
compares JSON values as filters do.
-/

namespace DocStore

/-! ## Missing and null fields -/

namespace Json

/-- A field in which null counts as missing. -/
def present? (field : Option Json) : Option Json := field.filter fun value => !value.isNull

theorem eq_some_of_present? {field : Option Json} {value : Json}
    (present : present? field = some value) : field = some value ∧ value.isNull = false := by
  obtain ⟨same, kept⟩ := Option.filter_eq_some_iff.1 present
  exact ⟨same, by simpa using kept⟩

theorem eq_null_of_isNull {value : Json} (null : value.isNull = true) : value = .null := by
  cases value with
  | null => rfl
  | _ => cases null

theorem eq_none_or_null {field : Option Json} (absent : present? field = none) :
    field = none ∨ field = some .null := by
  cases field with
  | none => exact .inl rfl
  | some value =>
    have null : value.isNull = true := by simpa [present?, Option.filter] using absent
    exact .inr (congrArg some (eq_null_of_isNull null))

theorem rank_lt_of_not_null {value : Json} (present : value.isNull = false) :
    rank (some value) < 5 := by
  cases value with
  | null => cases present
  | bool value => cases value <;> decide
  | _ => simp [rank]

/-- A missing field lies behind every value and level with null. -/
theorem compare_of_absent {field : Option Json} (absent : present? field = none) (value : Json) :
    compare field (some value) = if value.isNull then .eq else .gt := by
  by_cases null : value.isNull = true
  · rw [if_pos null, eq_null_of_isNull null]
    rcases eq_none_or_null absent with rfl | rfl <;> rfl
  · have before := rank_lt_of_not_null (by simpa using null)
    have last : rank field = 5 := by
      rcases eq_none_or_null absent with rfl | rfl <;> rfl
    unfold compare
    rw [if_neg null, last, if_neg (by omega)]
    exact Nat.compare_eq_gt.2 before

/-- A value lies before null. -/
theorem compare_null {field : Option Json} {value : Json} (present : present? field = some value) :
    compare field (some .null) = .lt := by
  obtain ⟨rfl, notNull⟩ := eq_some_of_present? present
  have before := rank_lt_of_not_null notNull
  have last : rank (some .null) = 5 := rfl
  unfold compare
  rw [last, if_neg (by omega)]
  exact Nat.compare_eq_lt.2 before

/-- A missing field equals null and nothing else. -/
theorem equal_of_absent {field : Option Json} (absent : present? field = none) (value : Json) :
    equal field (some value) = value.isNull := by
  rcases eq_none_or_null absent with rfl | rfl
  · rfl
  · cases value <;> rfl

/-- A value does not equal null. -/
theorem equal_null {field : Option Json} {value : Json} (present : present? field = some value) :
    equal field (some .null) = false := by
  obtain ⟨rfl, notNull⟩ := eq_some_of_present? present
  cases value with
  | null => cases notNull
  | _ => rfl

end Json

/-- A filter on a field of the data that compares it with one value or with a list of
values. -/
structure Filter.Compares (filter : Filter) : Prop where
  /-- The field is one of the data. -/
  data : Document.isReserved filter.field = false
  /-- The filter compares, or asks whether the field is there. -/
  operator : filter.operator ∈ [Operator.equal, .notEqual, .greaterThan, .lessThan, .atLeast,
    .atMost, .oneOf, .noneOf, .present]
  /-- Besides lists there is one value. -/
  single : filter.operator ≠ .oneOf → filter.operator ≠ .noneOf → ∃ value, filter.values = [value]

namespace Sql

/-- What a listing takes from a server: JSON values compare as they do in filters.  In the
order, nulls do not come up. -/
structure Dialect.Compares (dialect : Dialect) : Prop where
  equal : ∀ left right, dialect.equal left right = Json.equal (some left) (some right)
  order : ∀ left right, left.isNull = false → right.isNull = false →
    dialect.order left right = Json.compare (some left) (some right)

theorem Dialect.compares_plain : Dialect.plain.Compares := ⟨fun _ _ => rfl, fun _ _ _ _ => rfl⟩

/-! ## Fields -/

variable {scope : Scope} {filter : Filter} {actual : Option Json}

/-- Whatever its last step, a path follows its names in order. -/
theorem exists_followPath (last : Expr → String → Expr) (object : Expr) (first : String)
    (rest : List String) :
    ∃ inner name, followPath last object (first :: rest) = last inner name ∧
      (inner.member name).names? = object.names?.map (· ++ first :: rest) := by
  induction rest generalizing object first with
  | nil => exact ⟨object, first, rfl, rfl⟩
  | cons next others ih =>
    obtain ⟨inner, name, path, names⟩ := ih (object.member first) next
    refine ⟨inner, name, ?_, ?_⟩
    · rw [followPath, path]
      simp
    · rw [names]
      simp [Expr.names?, Option.map_map, Function.comp_def]

/-- The path of a field follows the field's segments from the column of the data. -/
theorem exists_fieldPath (last : Expr → String → Expr) (field : String) :
    ∃ inner name, followPath last dataColumn (Document.segments field) = last inner name ∧
      (inner.member name).names? = some (Document.segments field) := by
  cases split : Document.segments field with
  | nil =>
    have pieces := Text.splitOn_ne_nil '.' field.toList
    exact absurd (List.map_eq_nil_iff.1 split) pieces
  | cons first rest => exact exists_followPath last dataColumn first rest

theorem eval_jsonField (scope : Scope) (field : String) :
    (jsonField field).eval scope = (scope.data? (Document.segments field)).map .jsonb := by
  obtain ⟨inner, name, path, names⟩ := exists_fieldPath .member field
  rw [jsonField, path, Expr.eval, names]
  rfl

/-- In a comparison, null counts as missing. -/
theorem eval_rankedField (rules : scope.dialect.Compares) {field : String}
    (seen : scope.data? (Document.segments field) = actual) :
    (rankedField field).eval scope = (Json.present? actual).map .jsonb := by
  unfold rankedField
  rw [Expr.eval, eval_jsonField, seen]
  cases actual with
  | none => rfl
  | some value =>
    have tested : scope.dialect.compareData .equal (some (.jsonb value))
        (Expr.jsonNull.eval scope) = some value.isNull := by
      have same : scope.dialect.equal value .null = value.isNull := by
        rw [rules.equal]
        cases value <;> rfl
      simp [Expr.eval, Dialect.compareData, Dialect.compareValues, Dialect.compareJson,
        Comparison.test, same]
    cases null : value.isNull <;> simp [tested, null, Json.present?, Option.filter]

/-! ## Filters -/

/-- Rows without the field pass a comparison unless it demands the field. -/
theorem passes_settled (data : Filter.isColumn filter.field = false) (comparison : Expr)
    (required : Bool) : (settled filter comparison required).passes scope =
      if required then comparison.passes scope && ((filterField filter).eval scope).isSome
      else comparison.passes scope || ((filterField filter).eval scope).isNone := by
  unfold settled
  rw [data]
  cases required <;> simp

section Compared

variable (rules : scope.dialect.Compares) {field : String}
  (seen : scope.data? (Document.segments field) = actual)
  (data : Document.isReserved field = false)

include data in
theorem isColumn_data : Filter.isColumn field = false := by
  simp only [Document.isReserved, Bool.or_eq_false_iff] at data
  simp [Filter.isColumn, data.1]

include data in
theorem fieldValue_data (value : Json) : fieldValue field value = .jsonb value := by
  simp only [Document.isReserved, Bool.or_eq_false_iff, beq_eq_false_iff_ne] at data
  simp [fieldValue, data.1.1, data.1.2]

include data in
/-- Filters that compare values look at fields in which null counts as missing. -/
theorem filterField_ranked {operator : Operator} (values : List Json)
    (ordinary : operator ∉ [Operator.like, .present, .contains, .containsAny]) :
    filterField ⟨field, operator, values⟩ = rankedField field := by
  unfold filterField
  rw [isColumn_data data]
  cases operator <;> simp at ordinary ⊢

theorem compareJson_eq (dialect : Dialect) (left right : Json) {comparison : Comparison}
    (other : comparison ≠ .contains) : dialect.compareJson left right comparison =
      comparison.test (dialect.equal left right) (dialect.order left right) := by
  cases comparison with
  | contains => exact absurd rfl other
  | _ => rfl

include rules seen data in
/-- A comparison with a value other than null: the values are compared if the field is there,
and otherwise what is demanded counts. -/
theorem passes_compared {operator : Operator} {value : Json} {comparison : Comparison}
    {required : Bool} (notNull : value.isNull = false)
    (ordinary : operator ∉ [Operator.like, .present, .contains, .containsAny])
    (scalar : comparison ∉ [Comparison.overlaps, .contains])
    (planned : Plan.of ⟨field, operator, [value]⟩ = .compare comparison required) :
    (filterExpr ⟨field, operator, [value]⟩).passes scope =
      match Json.present? actual with
      | some found => (comparison.test (Json.equal (some found) (some value))
          (Json.compare (some found) (some value))).passes
      | none => !required := by
  have column := isColumn_data data
  have ranked := eval_rankedField rules seen
  have field' := filterField_ranked data [value] ordinary
  have bound : comparedValue ⟨field, operator, [value]⟩ = .jsonb value := by
    rw [← fieldValue_data data value]
    unfold comparedValue
    cases operator with
    | like | containsAny => simp at ordinary
    | _ => rfl
  simp only [List.mem_cons, List.not_mem_nil, or_false, not_or] at scalar
  rw [filterExpr, planned, passes_settled column, bareComparison, if_neg scalar.1, field', bound,
    Expr.passes_compare, ranked]
  cases found : Json.present? actual with
  | none => cases required <;> simp [Dialect.compareData]
  | some present =>
    have there := (Json.eq_some_of_present? found).2
    have tested := compareJson_eq scope.dialect present value scalar.2
    rw [rules.equal, rules.order _ _ there notNull] at tested
    cases required <;>
      simp [Expr.eval, Dialect.compareData, Dialect.compareValues, tested]

include rules in
/-- A value that is there is one of several values or none of them. -/
theorem isOneOf_present (found : Json) (values : List Json) :
    scope.dialect.isOneOf (some (.jsonb found)) (values.map .jsonb) =
      some (values.any fun value => Json.equal (some found) (some value)) := by
  have known : (values.map .jsonb).map (fun value =>
      scope.dialect.compareData .equal (some (.jsonb found)) (some value)) =
        (values.map fun value => Json.equal (some found) (some value)).map some := by
    simp [Dialect.compareData, Dialect.compareValues, Dialect.compareJson, Comparison.test,
      rules.equal]
  rw [Dialect.isOneOf, known, Truth.any_known]
  simp

/-- Whether a missing value is one of several is unknown. -/
theorem isOneOf_absent (dialect : Dialect) {values : List Value} (nonempty : values ≠ []) :
    dialect.isOneOf none values = none := by
  refine Truth.any_unknown (by simpa using nonempty) fun truth member => ?_
  obtain ⟨value, _, rfl⟩ := List.mem_map.1 member
  rfl

include rules seen data in
/-- A look-up in a list: the field is looked up if it is there, and otherwise what is demanded
counts. -/
theorem passes_lookup {operator : Operator} {values : List Json} {negated required : Bool}
    (nonempty : values ≠ [])
    (ordinary : operator ∉ [Operator.like, .present, .contains, .containsAny])
    (planned : Plan.of ⟨field, operator, values⟩ = .lookup negated required) :
    (filterExpr ⟨field, operator, values⟩).passes scope =
      match Json.present? actual with
      | some found => (values.any fun value => Json.equal (some found) (some value)) != negated
      | none => !required := by
  have column : Filter.isColumn (Filter.mk field operator values).field = false :=
    isColumn_data data
  have ranked := eval_rankedField rules seen
  have field' := filterField_ranked data values ordinary
  have bound : values.map (fieldValue field) = values.map .jsonb :=
    List.map_congr_left fun value _ => fieldValue_data data value
  rw [filterExpr, planned]
  simp only [passes_settled column, field', bound, Expr.passes_oneOf, ranked]
  cases found : Json.present? actual with
  | none =>
    rw [Option.map_none, isOneOf_absent _ (by simpa using nonempty)]
    cases negated <;> cases required <;> rfl
  | some present =>
    rw [Option.map_some, isOneOf_present rules]
    cases negated <;> cases required <;> simp [Truth.not]

/-- The operators that compare with one value. -/
def scalarOperators : List Operator :=
  [.equal, .notEqual, .greaterThan, .lessThan, .atLeast, .atMost]

include rules seen data in
/-- What a comparison with null comes to depends only on whether the field is there. -/
theorem passes_null {operator : Operator} (scalar : operator ∈ scalarOperators) :
    (filterExpr ⟨field, operator, [.null]⟩).passes scope =
      Filter.accepts ⟨field, operator, [.null]⟩ actual := by
  have column := isColumn_data data
  have ranked := eval_rankedField rules seen
  cases found : Json.present? actual with
  | none =>
    have level := Json.compare_of_absent found .null
    have same := Json.equal_of_absent found .null
    cases operator <;> simp [scalarOperators] at scalar <;>
      simp [filterExpr, Plan.of, Json.isNull, filterField, column, ranked, found,
        Filter.accepts, Filter.value, level, same]
  | some present =>
    have before := Json.compare_null found
    have other := Json.equal_null found
    cases operator <;> simp [scalarOperators] at scalar <;>
      simp [filterExpr, Plan.of, Json.isNull, filterField, column, ranked, found,
        Filter.accepts, Filter.value, before, other]

/-- How a comparison with a value other than null is planned: the comparison decides where the
field is there, and whether the field is demanded where it is not. -/
theorem scalar_plan {operator : Operator} {value : Json} (scalar : operator ∈ scalarOperators)
    (notNull : value.isNull = false) (field : String) :
    ∃ comparison required,
      Plan.of ⟨field, operator, [value]⟩ = .compare comparison required ∧
      comparison ∉ [Comparison.overlaps, .contains] ∧
      (∀ found, Filter.accepts ⟨field, operator, [value]⟩ (some found) =
        (comparison.test (Json.equal (some found) (some value))
          (Json.compare (some found) (some value))).passes) ∧
      ∀ absent, Json.present? absent = none →
        Filter.accepts ⟨field, operator, [value]⟩ absent = !required := by
  have behind : ∀ {absent}, Json.present? absent = none →
      Json.compare absent (some value) = .gt := fun missing => by
    simp [Json.compare_of_absent missing, notNull]
  have other : ∀ {absent}, Json.present? absent = none →
      Json.equal absent (some value) = false := fun missing => by
    simp [Json.equal_of_absent missing, notNull]
  simp only [scalarOperators, List.mem_cons, List.not_mem_nil, or_false] at scalar
  rcases scalar with rfl | rfl | rfl | rfl | rfl | rfl
  · refine ⟨.equal, true, by simp [Plan.of, notNull], by decide, fun _ => rfl, ?_⟩
    exact fun absent missing => by simp [Filter.accepts, Filter.value, other missing]
  · refine ⟨.notEqual, false, by simp [Plan.of, notNull], by decide, fun _ => rfl, ?_⟩
    exact fun absent missing => by simp [Filter.accepts, Filter.value, other missing]
  · refine ⟨.greater, false, by simp [Plan.of, notNull], by decide, fun _ => rfl, ?_⟩
    exact fun absent missing => by simp [Filter.accepts, Filter.value, behind missing]
  · refine ⟨.less, true, by simp [Plan.of, notNull], by decide, fun _ => rfl, ?_⟩
    exact fun absent missing => by simp [Filter.accepts, Filter.value, behind missing]
  · refine ⟨.atLeast, false, by simp [Plan.of, notNull], by decide, fun _ => rfl, ?_⟩
    exact fun absent missing => by simp [Filter.accepts, Filter.value, behind missing]
  · refine ⟨.atMost, true, by simp [Plan.of, notNull], by decide, fun _ => rfl, ?_⟩
    exact fun absent missing => by simp [Filter.accepts, Filter.value, behind missing]

include rules seen data in
/-- The condition of a comparison with a value other than null is true in the rows of the
documents that the filter admits. -/
theorem passes_value {operator : Operator} {value : Json} (scalar : operator ∈ scalarOperators)
    (notNull : value.isNull = false) : (filterExpr ⟨field, operator, [value]⟩).passes scope =
      Filter.accepts ⟨field, operator, [value]⟩ actual := by
  obtain ⟨comparison, required, planned, kind, there, missing⟩ := scalar_plan scalar notNull field
  have ordinary : operator ∉ [Operator.like, .present, .contains, .containsAny] := by
    intro member
    cases operator <;> simp [scalarOperators] at scalar member
  rw [passes_compared rules seen data notNull ordinary kind planned]
  cases found : Json.present? actual with
  | none => exact (missing actual found).symm
  | some present =>
    obtain ⟨rfl, _⟩ := Json.eq_some_of_present? found
    exact (there present).symm

include rules seen data in
/-- A missing field passes a look-up where null is listed, or where it is not and the look-up is
negated. -/
theorem passes_list {operator : Operator} {negated : Bool} (values : List Json)
    (kind : (operator, negated) = (.oneOf, false) ∨ (operator, negated) = (.noneOf, true)) :
    (filterExpr ⟨field, operator, values⟩).passes scope =
      ((values.any fun value => Json.equal actual (some value)) != negated) := by
  by_cases empty : values = []
  · rcases kind with kind | kind <;> cases kind <;> simp [empty, filterExpr, Plan.of]
  have planned : Plan.of ⟨field, operator, values⟩ =
      .lookup negated (values.any Json.isNull == negated) := by
    rcases kind with kind | kind <;> cases kind <;> simp [Plan.of, empty]
  have ordinary : operator ∉ [Operator.like, .present, .contains, .containsAny] := by
    rcases kind with kind | kind <;> cases kind <;> decide
  rw [passes_lookup rules seen data empty ordinary planned]
  cases found : Json.present? actual with
  | none =>
    have nulls : (values.any fun value => Json.equal actual (some value)) =
        values.any Json.isNull := by simp only [Json.equal_of_absent found]
    rw [nulls]
    rfl
  | some present =>
    obtain ⟨rfl, _⟩ := Json.eq_some_of_present? found
    rfl

include seen data in
/-- Asking for the presence of a field, null counts as a value. -/
theorem passes_present (value : Json) : (filterExpr ⟨field, .present, [value]⟩).passes scope =
    (value.truthy == actual.isSome) := by
  have there := eval_jsonField scope field
  rw [seen] at there
  have column := isColumn_data data
  cases asked : value.truthy <;> cases actual <;>
    simp [filterExpr, Plan.of, Filter.value, asked, filterField, column, there]

include rules seen data in
/-- The condition of a filter is true in the rows of the documents that the filter admits. -/
theorem passes_filterExpr {operator : Operator} {values : List Json}
    (compares : Filter.Compares ⟨field, operator, values⟩) :
    (filterExpr ⟨field, operator, values⟩).passes scope =
      Filter.accepts ⟨field, operator, values⟩ actual := by
  have single := compares.single
  have scalar : operator ∈ scalarOperators → (∃ value, values = [value]) →
      (filterExpr ⟨field, operator, values⟩).passes scope =
        Filter.accepts ⟨field, operator, values⟩ actual := by
    rintro member ⟨value, rfl⟩
    cases null : value.isNull with
    | true =>
      rw [Json.eq_null_of_isNull null]
      exact passes_null rules seen data member
    | false => exact passes_value rules seen data member null
  cases operator with
  | like | contains | containsAny => simpa using compares.operator
  | equal | notEqual | greaterThan | lessThan | atLeast | atMost =>
    exact scalar (by decide) (single Operator.noConfusion Operator.noConfusion)
  | present =>
    obtain ⟨value, rfl⟩ := single Operator.noConfusion Operator.noConfusion
    exact passes_present seen data value
  | oneOf =>
    rw [passes_list rules seen data values (.inl rfl)]
    simp [Filter.accepts]
  | noneOf =>
    rw [passes_list rules seen data values (.inr rfl)]
    simp [Filter.accepts]

end Compared

/-! ## Conditions and listings -/

/-- The restrictions of a listing, in order. -/
def Listing.restrictions (listing : Listing) : List Expr :=
  listing.clauses.filterMap fun clause =>
    match clause with
    | .restrict condition => some condition
    | .order _ _ => none
    | .limit _ => none

/-- The `WHERE` of a listing, none where it has no restriction. -/
def Listing.condition? (listing : Listing) : Option Expr :=
  match listing.restrictions with
  | [] => none
  | first :: rest => some (Expr.all first rest)

/-- Whether a listing shows a row. -/
def Listing.shows (scope : Scope) (listing : Listing) : Bool :=
  (listing.condition?.map (Expr.passes scope)).getD true

theorem shows_eq (scope : Scope) (listing : Listing) :
    listing.shows scope = listing.restrictions.all (Expr.passes scope) := by
  unfold Listing.shows Listing.condition?
  cases listing.restrictions with
  | nil => rfl
  | cons first rest => simp [Expr.passes_all]

@[simp] theorem restrictions_restrict (listing : Listing) (condition : Option Expr) :
    (listing.restrict condition).restrictions = listing.restrictions ++ condition.toList := by
  cases condition <;> simp [Listing.restrict, Listing.add, Listing.restrictions]

theorem all_toList {α : Type} (test : α → Bool) (value : Option α) :
    value.toList.all test = value.all test := by
  cases value <;> simp

/-- A filter that a server decides as memory does: it compares, and the path of its field leads
to the value of the field. -/
structure Dialect.Decides (dialect : Dialect) (document : Document) (filter : Filter) : Prop where
  compares : filter.Compares
  reached : dialect.follow (.obj document.fields) (Document.segments filter.field) =
    document.get? filter.field

section Rows

variable (rules : scope.dialect.Compares) {document : Document}
  (data : scope.row.find? "data" = some (.jsonb (.obj document.fields)))

include rules data in
/-- The condition of a filter is true in the row of a document exactly when the filter admits
the document. -/
theorem passes_filter {filter : Filter} (decides : scope.dialect.Decides document filter) :
    (filterExpr filter).passes scope = filter.admits document := by
  obtain ⟨field, operator, values⟩ := filter
  have seen : scope.data? (Document.segments field) = document.get? field := by
    simpa [Scope.data?, data] using decides.reached
  exact passes_filterExpr rules seen decides.compares.data decides.compares

include rules data in
/-- The filters of a condition are true together where the condition holds; a condition without
filters restricts nothing. -/
theorem passes_condition {condition : Condition}
    (decides : ∀ filter ∈ condition, scope.dialect.Decides document filter) :
    (conditionExpr? condition).all (Expr.passes scope) = condition.holds document := by
  have each : (condition.map filterExpr).all (Expr.passes scope) = condition.holds document := by
    rw [List.all_map]
    refine Bool.eq_iff_iff.2 ?_
    simp only [List.all_eq_true, Condition.holds]
    exact forall₂_congr fun filter member => by
      rw [Function.comp_apply, passes_filter rules data (decides filter member)]
  cases condition with
  | nil => rfl
  | cons filter rest => simpa [conditionExpr?, Expr.passes_all] using each

include rules data in
/-- One of several conditions is true where one of them holds; those without filters do not
count. -/
theorem passes_alternatives {alternatives : List Condition}
    (decides : ∀ condition ∈ alternatives, ∀ filter ∈ condition,
      scope.dialect.Decides document filter) :
    (alternativesExpr? alternatives).all (Expr.passes scope) =
      Condition.anyHolds alternatives document := by
  have each : ∀ conditions : List Condition, (∀ condition ∈ conditions, ∀ filter ∈ condition,
      scope.dialect.Decides document filter) →
      (conditions.filterMap conditionExpr?).isEmpty = (Condition.compact conditions).isEmpty ∧
      (conditions.filterMap conditionExpr?).any (Expr.passes scope) =
        (Condition.compact conditions).any (·.holds document) := by
    intro conditions
    induction conditions with
    | nil => exact fun _ => ⟨rfl, rfl⟩
    | cons condition rest ih =>
      intro decided
      obtain ⟨sameLength, sameOutcome⟩ := ih fun other member =>
        decided other (List.mem_cons_of_mem _ member)
      have head := passes_condition rules data (decided condition List.mem_cons_self)
      cases condition with
      | nil => exact ⟨sameLength, sameOutcome⟩
      | cons filter filters =>
        rw [conditionExpr?, Option.all_some] at head
        simp only [conditionExpr?, List.filterMap_cons, Condition.compact, List.filter_cons,
          List.isEmpty_cons, Bool.not_false, if_true, List.any_cons, head, true_and]
        rw [sameOutcome, Condition.compact]
  obtain ⟨sameLength, sameOutcome⟩ := each alternatives decides
  unfold alternativesExpr? Condition.anyHolds
  rw [← sameLength, ← sameOutcome]
  cases alternatives.filterMap conditionExpr? with
  | nil => rfl
  | cons first rest => simp [Expr.passes_any]

end Rows

/-- A listing restricted by a condition and by alternatives shows, of the rows that it showed
before, those of the documents for which the condition and one of the alternatives hold. -/
theorem shows_iff_holds (listing : Listing) (condition : Condition) (alternatives : List Condition)
    (collection : String) (document : Document)
    (rules : scope.dialect.Compares)
    (row : scope.row = documentRecord collection document)
    (decides : ∀ filter ∈ condition ++ alternatives.flatten,
      scope.dialect.Decides document filter) :
    ((listing.filtered condition).pagedBy alternatives).shows scope = true ↔
      listing.shows scope = true ∧ condition.holds document = true ∧
        Condition.anyHolds alternatives document = true := by
  have data : scope.row.find? "data" = some (.jsonb (.obj document.fields)) := by
    rw [row, documentRecord_data]
  have held := passes_condition rules data fun filter member =>
    decides filter (List.mem_append_left _ member)
  have oneHeld := passes_alternatives rules data fun other listed filter member =>
    decides filter (List.mem_append_right _ (List.mem_flatten.2 ⟨other, listed, member⟩))
  simp only [shows_eq, Listing.filtered, Listing.pagedBy, restrictions_restrict, List.all_append,
    Bool.and_eq_true, ← held, ← oneHeld, and_assoc, all_toList]

/-- A document with a null, a number and an object. -/
def nestedNote : Document :=
  ⟨"1", ⟨5⟩, false, [("a", .null), ("b", .int 3), ("c", .obj [("d", .str "x")])]⟩

/-- Filters on a null, on fields that are missing and on a member of an object. -/
def nestedCondition : Condition :=
  [⟨"a", .oneOf, [.int 3, .null]⟩, ⟨"a.z", .greaterThan, [.int 7]⟩, ⟨"c.d", .equal, [.str "x"]⟩,
    ⟨"z", .noneOf, [.int 1]⟩]

/-- Conditions of which the first is empty, the second fails and the third holds. -/
def nestedAlternatives : List Condition :=
  [[], [⟨"b", .lessThan, [.int 1]⟩],
    [⟨"b", .atMost, [.int 3]⟩, ⟨"c", .present, [.bool true]⟩]]

theorem shows_iff_holds_nested :
    (((Listing.start "SELECT id FROM storage_objects").filtered nestedCondition).pagedBy
      nestedAlternatives).shows
        { dialect := .plain, row := documentRecord "notes" nestedNote } = true := by
  refine (shows_iff_holds (Listing.start "SELECT id FROM storage_objects") nestedCondition
    nestedAlternatives "notes" nestedNote Dialect.compares_plain rfl ?_).2
    ⟨rfl, by decide +kernel, by decide +kernel⟩
  intro filter member
  simp only [nestedCondition, nestedAlternatives, List.flatten_cons, List.flatten_nil,
    List.mem_append, List.mem_cons, List.not_mem_nil, or_false, false_or] at member
  rcases member with ((rfl | rfl | rfl | rfl) | rfl | rfl | rfl) <;>
    exact ⟨⟨by decide, by decide, by simp⟩, by rfl⟩

end Sql
end DocStore
