import DocStore.Proofs.Sql.Binding

/-!
# Filters on columns

The condition of a filter on identifiers or epochs is true in the rows of the documents that
are admitted by the filter with bound values (`passes_row`).  So it says what the filter does as
long as the values have the type of the column; a document whose identifier is written like a
number is in a row that a comparison with the number picks out, though no text equals a number
(`column_filters_mean_same_iff`).
-/

namespace DocStore
namespace Sql

/-! ## Conditions on columns -/

/-- The comparisons of values that have an order. -/
def orderedComparisons : List Comparison := [.equal, .notEqual, .less, .greater, .atMost, .atLeast]

/-- Which value a filter compares with does not matter for the plan as long as it is not null. -/
theorem plan_scalar_congr {operator : Operator} (scalar : operator ∈ scalarOperators)
    {value other : Json} (notNull : value.isNull = false) (otherNotNull : other.isNull = false)
    (field : String) : Plan.of ⟨field, operator, [value]⟩ = Plan.of ⟨field, operator, [other]⟩ := by
  cases operator <;> simp [scalarOperators] at scalar <;> simp [Plan.of, notNull, otherNotNull]

theorem ordered_of_plan {operator : Operator} (scalar : operator ∈ scalarOperators) {value : Json}
    {field : String} {comparison : Comparison} {required : Bool}
    (planned : Plan.of ⟨field, operator, [value]⟩ = .compare comparison required) :
    comparison ∈ orderedComparisons := by
  cases operator <;> simp [scalarOperators] at scalar <;>
    cases null : value.isNull <;> simp [Plan.of, null] at planned <;>
    simp [orderedComparisons, ← planned.1]

section Column

variable {scope : Scope} {field : String} (column : Filter.isColumn field = true) {cell : Value}
  {actual : Json} (held : scope.row.find? field = some cell)
  (alike : ∀ comparison ∈ orderedComparisons, ∀ value,
    scope.dialect.compareValues comparison cell (fieldValue field value) =
      comparison.test (Json.equal (some actual) (some (Filter.boundValue field value)))
        (Json.compare (some actual) (some (Filter.boundValue field value))))
  (notNull : actual.isNull = false)

include column in
theorem filterField_column (operator : Operator) (values : List Json) :
    filterField ⟨field, operator, values⟩ = .column field :=
  if_pos column

include column held alike in
/-- A comparison with a value other than null compares the cell with what is bound. -/
theorem passes_column_value {operator : Operator} {value : Json}
    (scalar : operator ∈ scalarOperators) (valueNotNull : value.isNull = false) :
    (filterExpr ⟨field, operator, [value]⟩).passes scope =
      Filter.accepts ⟨field, operator, [Filter.boundValue field value]⟩ (some actual) := by
  have boundNotNull := Filter.isNull_boundValue field value
  obtain ⟨comparison, required, planned, kind, there, -⟩ := scalar_plan scalar boundNotNull field
  have samePlan := plan_scalar_congr scalar valueNotNull boundNotNull field
  have ordered := ordered_of_plan scalar planned
  have bound : comparedValue ⟨field, operator, [value]⟩ = fieldValue field value := by
    cases operator <;> simp [scalarOperators] at scalar <;> rfl
  have single : comparison ≠ .overlaps := by
    rintro rfl
    exact kind (by decide)
  rw [there actual, ← alike comparison ordered value, filterExpr, samePlan, planned]
  simp only [settled, column, if_true, bareComparison, single, if_false, bound,
    filterField_column column, Expr.passes_compare, Expr.eval, held, Dialect.compareData]

include column held notNull in
/-- A cell is there and lies before null. -/
theorem passes_column_null {operator : Operator} (scalar : operator ∈ scalarOperators) :
    (filterExpr ⟨field, operator, [.null]⟩).passes scope =
      Filter.accepts ⟨field, operator, [.null]⟩ (some actual) := by
  have present := Json.present?_some notNull
  have before := Json.compare_null present
  have other := Json.equal_null present
  cases operator <;> simp [scalarOperators] at scalar <;>
    simp [filterExpr, Plan.of, Json.isNull, filterField_column column, Expr.eval, held,
      Filter.accepts, Filter.value, before, other]

include column held alike in
/-- A look-up finds the cell among what is bound or does not. -/
theorem passes_column_list {operator : Operator} {negated : Bool} (values : List Json)
    (kind : (operator, negated) = (.oneOf, false) ∨ (operator, negated) = (.noneOf, true)) :
    (filterExpr ⟨field, operator, values⟩).passes scope =
      (((values.map (Filter.boundValue field)).any fun value =>
        Json.equal (some actual) (some value)) != negated) := by
  by_cases empty : values = []
  · rcases kind with kind | kind <;> cases kind <;> simp [empty, filterExpr, Plan.of]
  have planned : Plan.of ⟨field, operator, values⟩ =
      .lookup negated (values.any Json.isNull == negated) := by
    rcases kind with kind | kind <;> cases kind <;> simp [Plan.of, empty]
  have known : (values.map (fieldValue field)).map (fun value =>
      scope.dialect.compareData .equal (some cell) (some value)) =
        ((values.map (Filter.boundValue field)).map fun value =>
          Json.equal (some actual) (some value)).map some := by
    simp only [List.map_map]
    exact List.map_congr_left fun value _ => alike .equal (by decide) value
  have found : scope.dialect.isOneOf (some cell) (values.map (fieldValue field)) =
      some ((values.map (Filter.boundValue field)).any fun value =>
        Json.equal (some actual) (some value)) := by
    rw [Dialect.isOneOf, known, Truth.any_known]
    simp
  rw [filterExpr, planned]
  simp only [settled, column, if_true, Expr.passes_oneOf, filterField_column column, Expr.eval,
    held, found]
  cases negated <;> simp [Truth.not]

include column held in
theorem passes_column_present (value : Json) :
    (filterExpr ⟨field, .present, [value]⟩).passes scope = value.truthy := by
  cases asked : value.truthy <;>
    simp [filterExpr, Plan.of, Filter.value, asked, filterField_column column, Expr.eval, held]

include held alike notNull in
/-- The condition of a filter is true in the rows whose cell the filter with bound values
accepts. -/
theorem passes_column {operator : Operator} {values : List Json}
    (onColumn : Filter.OnColumn ⟨field, operator, values⟩) :
    (filterExpr ⟨field, operator, values⟩).passes scope =
      (Filter.asBound ⟨field, operator, values⟩).accepts (some actual) := by
  have column := onColumn.column
  rcases onColumn.kind with ⟨scalar, value, rfl⟩ | ⟨rfl, value, rfl⟩ | rfl | rfl
  · cases null : value.isNull with
    | true =>
      rw [Filter.asBound_null scalar field null, Json.eq_null_of_isNull null]
      exact passes_column_null column held notNull scalar
    | false =>
      rw [Filter.asBound_value scalar field null]
      exact passes_column_value column held alike scalar null
  · rw [passes_column_present column held]
    simp [Filter.asBound, Filter.accepts, Filter.value]
  · rw [passes_column_list column held alike values (.inl rfl)]
    simp [Filter.asBound, Filter.accepts]
  · rw [passes_column_list column held alike values (.inr rfl)]
    simp [Filter.asBound, Filter.accepts]

end Column

/-! ## Rows of documents -/

/-- Whether the condition of the filter is true in the rows of a document exactly if the filter
admits the document. -/
def MeansSame (filter : Filter) (document : Document) : Prop :=
  ∀ (collection : String) (scope : Scope), scope.row = documentRecord collection document →
    (filterExpr filter).passes scope = filter.admits document

/-- Texts compare in a row as identifiers do in a filter. -/
theorem compareValues_id (dialect : Dialect) (id : String) {comparison : Comparison}
    (ordered : comparison ∈ orderedComparisons) (value : Json) :
    dialect.compareValues comparison (.text id) (fieldValue Document.idField value) =
      comparison.test
        (Json.equal (some (.str id)) (some (Filter.boundValue Document.idField value)))
        (Json.compare (some (.str id)) (some (Filter.boundValue Document.idField value))) := by
  simp only [orderedComparisons, List.mem_cons, List.not_mem_nil, or_false] at ordered
  rcases ordered with rfl | rfl | rfl | rfl | rfl | rfl <;> rfl

/-- Integers compare in a row as epochs do in a filter. -/
theorem compareValues_modified (dialect : Dialect) {millis : Int} (inside : Json.Inside53 millis)
    {comparison : Comparison} (ordered : comparison ∈ orderedComparisons) (value : Json) :
    dialect.compareValues comparison (.int8 millis) (fieldValue Document.modifiedField value) =
      comparison.test
        (Json.equal (some (.int millis)) (some (Filter.boundValue Document.modifiedField value)))
        (Json.compare (some (.int millis))
          (some (Filter.boundValue Document.modifiedField value))) := by
  have bound : Filter.boundValue Document.modifiedField value = .int value.toInt := rfl
  rw [bound, Json.equal_int inside, Json.compare_int inside]
  simp only [orderedComparisons, List.mem_cons, List.not_mem_nil, or_false] at ordered
  rcases ordered with rfl | rfl | rfl | rfl | rfl | rfl <;> rfl

variable {filter : Filter} (onColumn : filter.OnColumn) {document : Document}

include onColumn in
/-- The condition of a filter is true in the rows of the documents that the filter with bound
values admits. -/
theorem passes_row (inside : filter.field = Document.modifiedField →
      Json.Inside53 document.modified.millis) {collection : String} {scope : Scope}
    (row : scope.row = documentRecord collection document) :
    (filterExpr filter).passes scope = filter.asBound.admits document := by
  obtain ⟨field, operator, values⟩ := filter
  have column := onColumn.column
  rcases Filter.isColumn_iff.1 column with rfl | rfl
  · have held : scope.row.find? Document.idField = some (.text document.id) := by
      rw [row]
      exact documentRecord_id collection document
    exact passes_column held (fun _ => compareValues_id scope.dialect document.id) rfl onColumn
  · have held : scope.row.find? Document.modifiedField = some (.int8 document.modified.millis) := by
      rw [row]
      exact documentRecord_modified collection document
    exact passes_column held (fun _ => compareValues_modified scope.dialect (inside rfl)) rfl
      onColumn

include onColumn in
theorem meansSame_iff (inside : filter.field = Document.modifiedField →
      Json.Inside53 document.modified.millis) :
    MeansSame filter document ↔ filter.asBound.admits document = filter.admits document := by
  constructor
  · intro same
    have here := same "" { dialect := .plain, row := documentRecord "" document } rfl
    rwa [passes_row onColumn inside rfl] at here
  · intro same collection scope row
    rw [passes_row onColumn inside row, same]

/-- What the condition of a filter on a column says.  It is true in the rows of the documents
that the filter admits if and only if the filter admits a document alike with bound values, and
so where the values have the type of the column.  On identifiers it says so of every live
document if and only if the values are texts. -/
theorem column_filters_mean_same_iff {name raw : String} {filter : Filter}
    (read : Filter.ofParameter name raw = filter) (column : Filter.isColumn filter.field = true)
    (operator : filter.operator ∈ Filter.comparing) :
    (∀ document : Document,
      (filter.field = Document.modifiedField → Json.Inside53 document.modified.millis) →
      (MeansSame filter document ↔
        filter.asBound.admits document = filter.admits document) ∧
      (filter.Suits document → MeansSame filter document)) ∧
    (filter.field = Document.idField →
      ((∀ document : Document, document.deleted = false → MeansSame filter document) ↔
        filter.Textual)) := by
  subst read
  have onColumn := Filter.onColumn_ofParameter column operator
  refine ⟨fun document inside => ?_, fun onIds => ?_⟩
  · have same := meansSame_iff onColumn inside
    exact ⟨same, fun suits => same.2 (Filter.admits_asBound onColumn inside suits)⟩
  · rw [← Filter.admits_asBound_iff onColumn onIds]
    refine forall₂_congr fun document _ => meansSame_iff onColumn fun onEpochs => ?_
    exact absurd (onIds.symm.trans onEpochs) (by decide)

/-- Of a list of bare and quoted identifiers the condition says what the filter does, and so does
the one of a bound on epochs that is written as a float without a fraction. -/
theorem column_filters_mean_same_iff_listed :
    (∀ document : Document, document.deleted = false →
      MeansSame (Filter.ofParameter "exclude_id" "a,\"7\"") document) ∧
    MeansSame (Filter.ofParameter "min_last_modified" "5.0") ⟨"a", ⟨5⟩, false, []⟩ := by
  constructor
  · have listed : Filter.ofParameter "exclude_id" "a,\"7\"" =
        ⟨"id", .noneOf, [.str "a", .str "7"]⟩ := by rfl
    rw [listed]
    refine ((column_filters_mean_same_iff listed (by decide) (by decide)).2 rfl).2 ?_
    exact List.forall_mem_cons.2 ⟨.head _, List.forall_mem_cons.2 ⟨.tail _ (.head _), by simp⟩⟩
  · have whole : (Filter.ofParameter "min_last_modified" "5.0").values.all
        (Filter.hasType "last_modified") = true := by decide +kernel
    refine ((column_filters_mean_same_iff rfl (by decide +kernel) (by decide +kernel)).1
      ⟨"a", ⟨5⟩, false, []⟩ fun _ => by decide).2 ⟨fun _ value member => .inr ?_, ?_⟩
    · exact List.all_eq_true.1 whole value member
    · exact fun listed => absurd listed (by decide +kernel)

/-- A document whose identifier is written like a number is in a row that the condition picks
out, but the filter does not admit it. -/
theorem numeric_id_not_admitted :
    ¬MeansSame (Filter.ofParameter "id" "5") ⟨"5", ⟨3⟩, false, []⟩ := by
  intro same
  have here := same "" { dialect := .plain, row := documentRecord "" ⟨"5", ⟨3⟩, false, []⟩ } rfl
  exact absurd here (by decide +kernel)

end Sql
end DocStore
