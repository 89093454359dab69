import Mathlib.Data.List.Basic
import DocStore.Sql.Documents

/-!
# Shapes of listings

The text of a listing depends on its shape alone: on which clauses there are, which operators
and columns they use, how many names, values and keys there are and which values are null.
Names of other fields, values, collections and limits are bound to placeholders
(`Listing.sql_eq_of_shape_eq`).
-/

namespace DocStore
namespace Sql

/-! ## What is seen of pieces -/

/-- What a piece shows in the text: a value shows only that it is there. -/
def Piece.shown : Piece → Option String
  | .text chars => some chars
  | .value _ => none

/-- What pieces show in the text. -/
abbrev shown (pieces : List Piece) : List (Option String) := pieces.map Piece.shown

theorem numberedChars_congr {left right : List Piece} (same : shown left = shown right)
    (number : Nat) : numberedChars number left = numberedChars number right := by
  induction left generalizing right number with
  | nil => rw [List.map_eq_nil_iff.1 same.symm]
  | cons piece rest ih =>
    obtain ⟨other, others, rfl, first, later⟩ := List.map_eq_cons_iff.1 same.symm
    cases piece with
    | text chars =>
      cases other with
      | text otherChars =>
        cases first
        rw [numberedChars, numberedChars, ih later.symm]
      | value bound => cases first
    | value bound =>
      cases other with
      | text otherChars => cases first
      | value otherBound => rw [numberedChars, numberedChars, ih later.symm]

theorem shown_valuePieces {left right : List Value} (same : left.length = right.length) :
    shown (valuePieces left) = shown (valuePieces right) := by
  induction left generalizing right with
  | nil => rw [List.length_eq_zero_iff.1 same.symm]
  | cons value rest ih =>
    obtain ⟨other, others, rfl⟩ := List.exists_cons_of_length_eq_add_one same.symm
    have later := ih (Nat.succ.inj same)
    cases rest with
    | nil => cases others with
      | nil => rfl
      | cons => cases same
    | cons => cases others with
      | nil => cases same
      | cons =>
        simp only [valuePieces, List.map_cons, Piece.shown]
        exact congrArg (none :: some ", " :: ·) later

/-! ## Fields -/

/-- What the text shows of a field: a column by its name, any other field by how many names
lead to it. -/
inductive FieldShape where
  | column (name : String)
  | path (names : Nat)
  deriving DecidableEq, Repr

/-- The shape of a field. -/
def fieldShape (field : String) : FieldShape :=
  if Filter.isColumn field then .column field else .path (Document.segments field).length

theorem eq_or_path_of_fieldShape {left right : String} (same : fieldShape left = fieldShape right) :
    left = right ∨ Filter.isColumn left = false ∧ Filter.isColumn right = false ∧
      (Document.segments left).length = (Document.segments right).length := by
  unfold fieldShape at same
  split at same <;> split at same <;> simp_all

theorem isColumn_of_fieldShape {left right : String} (same : fieldShape left = fieldShape right) :
    Filter.isColumn left = Filter.isColumn right := by
  rcases eq_or_path_of_fieldShape same with equal | ⟨noColumn, otherNoColumn, _⟩
  · rw [equal]
  · exact noColumn.trans otherNoColumn.symm

/-- Following names shows how many there are. -/
theorem shown_followPath {last : Expr → String → Expr}
    (step : ∀ {object other : Expr} (name otherName : String),
      shown object.pieces = shown other.pieces →
      shown (last object name).pieces = shown (last other otherName).pieces)
    {names others : List String} (count : names.length = others.length) {object other : Expr}
    (same : shown object.pieces = shown other.pieces) :
    shown (followPath last object names).pieces = shown (followPath last other others).pieces := by
  induction names generalizing others object other with
  | nil => rw [List.length_eq_zero_iff.1 count.symm]; exact same
  | cons name rest ih =>
    obtain ⟨otherName, othersRest, rfl⟩ := List.exists_cons_of_length_eq_add_one count.symm
    have member : shown (Expr.member object name).pieces =
        shown (Expr.member other otherName).pieces := by
      simp [Expr.pieces, Piece.shown, same]
    have later := ih (Nat.succ.inj count) member
    cases rest with
    | nil => cases othersRest with
      | nil => exact step name otherName same
      | cons => cases count
    | cons => cases othersRest with
      | nil => cases count
      | cons => exact later

section Fields

variable {left right : String}
    (same : (Document.segments left).length = (Document.segments right).length)
include same

theorem shown_jsonField : shown (jsonField left).pieces = shown (jsonField right).pieces :=
  shown_followPath (fun _ _ same => by simp [Expr.pieces, Piece.shown, same]) same rfl

theorem shown_textField : shown (textField left).pieces = shown (textField right).pieces :=
  shown_followPath (fun _ _ same => by simp [Expr.pieces, Piece.shown, same]) same rfl

theorem shown_rankedField : shown (rankedField left).pieces = shown (rankedField right).pieces := by
  have inner := shown_jsonField same
  simp only [rankedField, Expr.pieces, List.map_append, List.map_cons, inner]

end Fields

/-! ## Filters -/

/-- What the text shows of a filter: its field, its operator, what is asked of presence, how
many values there are and which of them are null. -/
structure FilterShape where
  field : FieldShape
  operator : Operator
  presence : Bool
  nulls : List Bool
  deriving DecidableEq, Repr

/-- The shape of a filter. -/
def filterShape (filter : Filter) : FilterShape where
  field := fieldShape filter.field
  operator := filter.operator
  presence := filter.operator = .present && filter.value.truthy
  nulls := filter.values.map Json.isNull

section Filters

variable {left right : Filter} (same : filterShape left = filterShape right)
include same

theorem plan_eq_of_filterShape : Plan.of left = Plan.of right := by
  obtain ⟨field, operator, presence, nulls⟩ := FilterShape.mk.inj same
  have null : left.values.any Json.isNull = right.values.any Json.isNull := by
    simpa [List.any_map] using congrArg (List.any · id) nulls
  have empty : left.values.isEmpty = right.values.isEmpty := by
    simpa using congrArg List.isEmpty nulls
  have column := isColumn_of_fieldShape field
  have epochs : left.field = Document.modifiedField ↔ right.field = Document.modifiedField := by
    rcases eq_or_path_of_fieldShape field with equal | ⟨noColumn, otherNoColumn, _⟩
    · rw [equal]
    · refine iff_of_false ?_ ?_ <;> intro modified
      · rw [modified] at noColumn
        exact absurd noColumn (by decide)
      · rw [modified] at otherNoColumn
        exact absurd otherNoColumn (by decide)
  simp only [Plan.of, null, empty, column, epochs, operator]
  cases asked : right.operator <;> simp_all

theorem shown_filterField : shown (filterField left).pieces = shown (filterField right).pieces := by
  obtain ⟨field, operator, -, -⟩ := FilterShape.mk.inj same
  unfold filterField
  rcases eq_or_path_of_fieldShape field with equal | ⟨noColumn, otherNoColumn, names⟩
  · rw [equal, operator]
  · simp only [noColumn, otherNoColumn, Bool.false_eq_true, if_false, operator]
    cases right.operator
    case like => exact shown_textField names
    case present | contains | containsAny => exact shown_jsonField names
    all_goals exact shown_rankedField names

theorem shown_bareComparison (comparison : Comparison) :
    shown (bareComparison left comparison).pieces =
      shown (bareComparison right comparison).pieces := by
  have field := shown_filterField same
  unfold bareComparison
  split <;> simp [Expr.pieces, Piece.shown, field]

theorem shown_settled {first second : Expr} (alike : shown first.pieces = shown second.pieces)
    (required : Bool) : shown (settled left first required).pieces =
      shown (settled right second required).pieces := by
  have field := shown_filterField same
  unfold settled
  rw [isColumn_of_fieldShape (FilterShape.mk.inj same).1]
  split
  · exact alike
  · split <;> simp [Expr.pieces, Piece.shown, field, alike]

theorem shown_filterExpr : shown (filterExpr left).pieces = shown (filterExpr right).pieces := by
  have field := shown_filterField same
  have count : left.values.length = right.values.length := by
    simpa using congrArg List.length (FilterShape.mk.inj same).2.2.2
  unfold filterExpr
  rw [plan_eq_of_filterShape same]
  split
  · rfl
  · simp [Expr.pieces, field]
  · simp [Expr.pieces, field]
  · exact shown_settled same (shown_bareComparison same _) _
  · have values := @shown_valuePieces (left.values.map (fieldValue left.field))
      (right.values.map (fieldValue right.field)) (by simpa using count)
    refine shown_settled same ?_ _
    simp [Expr.pieces, field, values]

end Filters

/-! ## Conditions -/

/-- What is a function of the items' shapes is the same for lists of the same shapes. -/
theorem map_eq_of_shapes {α β γ : Type} {shape : α → β} (view : α → γ)
    (factors : Function.FactorsThrough view shape) {left right : List α}
    (same : left.map shape = right.map shape) : left.map view = right.map view := by
  induction left generalizing right with
  | nil => rw [List.map_eq_nil_iff.1 same.symm]
  | cons item rest ih =>
    obtain ⟨other, others, rfl, first, later⟩ := List.map_eq_cons_iff.1 same.symm
    rw [List.map_cons, List.map_cons, factors first, ih later.symm]

/-- What an expression shows in the text. -/
abbrev Expr.seen (expr : Expr) : List (Option String) := shown expr.pieces

/-- Expressions that are joined one after the other show what they show and the joints. -/
theorem seen_joined {join : Expr → List Expr → Expr} {joint : Expr → Expr → Expr}
    (single : ∀ first, join first [] = first)
    (more : ∀ first next rest, join first (next :: rest) = joint first (join next rest))
    (congr : ∀ {first other second third : Expr}, first.seen = other.seen →
      second.seen = third.seen → (joint first second).seen = (joint other third).seen)
    {first other : Expr} {rest others : List Expr} (same : first.seen = other.seen)
    (later : rest.map Expr.seen = others.map Expr.seen) :
    (join first rest).seen = (join other others).seen := by
  induction rest generalizing first other others with
  | nil => rw [List.map_eq_nil_iff.1 later.symm, single, single, same]
  | cons next rest ih =>
    obtain ⟨otherNext, othersRest, rfl, head, tail⟩ := List.map_eq_cons_iff.1 later.symm
    rw [more, more]
    exact congr same (ih head.symm tail.symm)

theorem seen_all {first other : Expr} {rest others : List Expr} (same : first.seen = other.seen)
    (later : rest.map Expr.seen = others.map Expr.seen) :
    (Expr.all first rest).seen = (Expr.all other others).seen := by
  refine seen_joined (fun _ => rfl) (fun _ _ _ => rfl) (fun first second => ?_) same later
  simp only [Expr.seen, Expr.pieces, List.map_append, List.map_cons, first, second]

theorem seen_any {first other : Expr} {rest others : List Expr} (same : first.seen = other.seen)
    (later : rest.map Expr.seen = others.map Expr.seen) :
    (Expr.any first rest).seen = (Expr.any other others).seen := by
  refine seen_joined (fun _ => rfl) (fun _ _ _ => rfl) (fun first second => ?_) same later
  simp only [Expr.seen, Expr.pieces, List.map_append, List.map_cons, first, second]

theorem seen_group {first other : Expr} (same : first.seen = other.seen) :
    (Expr.group first).seen = (Expr.group other).seen := by
  simp only [Expr.seen, Expr.pieces, List.map_append, List.map_cons, same]

theorem seen_conditionExpr? {left right : Condition}
    (same : left.map filterShape = right.map filterShape) :
    (conditionExpr? left).map Expr.seen = (conditionExpr? right).map Expr.seen := by
  cases left with
  | nil => rw [List.map_eq_nil_iff.1 same.symm]
  | cons filter rest =>
    obtain ⟨other, others, rfl, first, later⟩ := List.map_eq_cons_iff.1 same.symm
    have exprs : (rest.map filterExpr).map Expr.seen = (others.map filterExpr).map Expr.seen := by
      rw [List.map_map, List.map_map]
      exact map_eq_of_shapes _ (fun _ _ => shown_filterExpr) later.symm
    exact congrArg some (seen_group (seen_all (shown_filterExpr first.symm) exprs))

theorem seen_alternativesExpr? {left right : List Condition}
    (same : left.map (·.map filterShape) = right.map (·.map filterShape)) :
    (alternativesExpr? left).map Expr.seen = (alternativesExpr? right).map Expr.seen := by
  have conditions : (left.filterMap conditionExpr?).map Expr.seen =
      (right.filterMap conditionExpr?).map Expr.seen := by
    have views := map_eq_of_shapes (fun condition => (conditionExpr? condition).map Expr.seen)
      (fun _ _ => seen_conditionExpr?) same
    have present := congrArg (List.filterMap id) views
    rwa [List.filterMap_map, List.filterMap_map, Function.id_comp, ← List.map_filterMap,
      ← List.map_filterMap] at present
  unfold alternativesExpr?
  generalize left.filterMap conditionExpr? = exprs at conditions
  generalize right.filterMap conditionExpr? = others at conditions
  cases exprs with
  | nil => rw [List.map_eq_nil_iff.1 conditions.symm]
  | cons expr rest =>
    obtain ⟨other, others, rfl, first, later⟩ := List.map_eq_cons_iff.1 conditions.symm
    exact congrArg some (seen_group (seen_any first.symm later.symm))

/-! ## Orders -/

/-- What the text shows of a sort key: its field and its direction. -/
def keyShape (key : SortKey) : FieldShape × Bool := (fieldShape key.field, key.descending)

theorem shown_keyPieces {left right : SortKey} (same : keyShape left = keyShape right) :
    shown (Listing.keyPieces (Listing.orderKey left)) =
      shown (Listing.keyPieces (Listing.orderKey right)) := by
  obtain ⟨field, direction⟩ := Prod.mk.inj same
  have key : shown (Listing.orderKey left).1.pieces = shown (Listing.orderKey right).1.pieces := by
    unfold Listing.orderKey
    rcases eq_or_path_of_fieldShape field with equal | ⟨noColumn, otherNoColumn, names⟩
    · rw [equal]
    · rw [if_neg (Bool.not_eq_true _ ▸ noColumn), if_neg (Bool.not_eq_true _ ▸ otherNoColumn)]
      exact shown_rankedField names
  have descending : (Listing.orderKey left).2 = (Listing.orderKey right).2 := direction
  simp only [Listing.keyPieces, List.map_append, key, descending]

/-! ## Clauses -/

/-- What a clause shows in the text: whether it is a restriction, and its content. -/
def Clause.seen : Clause → Bool × List (Option String)
  | .restrict condition => (true, condition.seen)
  | .order first others =>
    (false, some " ORDER BY " :: shown (Listing.keyPieces first ++ Listing.furtherKeys others))
  | .limit _ => (false, [some " LIMIT ", none])

namespace Listing

theorem shown_clausePieces_cons (restricted : Bool) (clause : Clause) (rest : List Clause) :
    shown (clausePieces restricted (clause :: rest)) =
      (if clause.seen.1 then [some (if restricted then " AND " else " WHERE ")] else []) ++
        clause.seen.2 ++ shown (clausePieces (restricted || clause.seen.1) rest) := by
  cases clause <;> simp [clausePieces, Clause.seen, Piece.shown]

theorem shown_clausePieces {left right : List Clause}
    (same : left.map Clause.seen = right.map Clause.seen) (restricted : Bool) :
    shown (clausePieces restricted left) = shown (clausePieces restricted right) := by
  induction left generalizing right restricted with
  | nil => rw [List.map_eq_nil_iff.1 same.symm]
  | cons clause rest ih =>
    obtain ⟨other, others, rfl, first, later⟩ := List.map_eq_cons_iff.1 same.symm
    rw [shown_clausePieces_cons, shown_clausePieces_cons, first, ih later.symm]

/-! ## Building a listing -/

/-- A step of building a listing. -/
inductive Step where
  | collection (name : String)
  | inclusion (inclusion : Inclusion)
  | condition (condition : Condition)
  | alternatives (alternatives : List Condition)
  | order (keys : List SortKey)
  | limit (limit : Nat)

/-- Takes a step. -/
def apply (listing : Listing) : Step → Listing
  | .collection name => listing.ofCollection name
  | .inclusion inclusion => listing.including inclusion
  | .condition condition => listing.filtered condition
  | .alternatives alternatives => listing.pagedBy alternatives
  | .order keys => listing.orderedBy keys
  | .limit limit => listing.limitedTo limit

/-- The listing that steps build behind a head. -/
def build (head : String) (steps : List Step) : Listing := steps.foldl apply (start head)

/-- What the text shows of a step. -/
inductive StepShape where
  | collection
  | inclusion (inclusion : Inclusion)
  | condition (filters : List FilterShape)
  | alternatives (conditions : List (List FilterShape))
  | order (keys : List (FieldShape × Bool))
  | limit (unbounded : Bool)
  deriving DecidableEq

/-- The shape of a step. -/
def Step.shape : Step → StepShape
  | .collection _ => .collection
  | .inclusion shows => .inclusion shows
  | .condition filters => .condition (filters.map filterShape)
  | .alternatives conditions => .alternatives (conditions.map (·.map filterShape))
  | .order keys => .order (keys.map keyShape)
  | .limit count => .limit (count == 0)

/-- Whether two listings have the same head and clauses that show the same. -/
def Alike (left right : Listing) : Prop :=
  left.head = right.head ∧ left.clauses.map Clause.seen = right.clauses.map Clause.seen

namespace Alike

variable {left right : Listing}

theorem sql_eq (alike : left.Alike right) : left.sent.sql = right.sent.sql := by
  have pieces : shown left.pieces = shown right.pieces := by
    simp only [Listing.pieces, List.map_cons, alike.1, shown_clausePieces alike.2]
  exact congrArg String.ofList (numberedChars_congr pieces 1)

theorem add (alike : left.Alike right) {clause other : Clause}
    (same : clause.seen = other.seen) : (left.add clause).Alike (right.add other) := by
  refine ⟨alike.1, ?_⟩
  simp only [Listing.add, List.map_append, alike.2, List.map_cons, same]

theorem restrict (alike : left.Alike right) {condition other : Option Expr}
    (same : condition.map Expr.seen = other.map Expr.seen) :
    (left.restrict condition).Alike (right.restrict other) := by
  cases condition with
  | none => cases other with
    | none => exact alike
    | some => cases same
  | some => cases other with
    | none => cases same
    | some => exact alike.add (congrArg (true, ·) (Option.some.inj same))

theorem orderedBy (alike : left.Alike right) {keys others : List SortKey}
    (same : keys.map keyShape = others.map keyShape) :
    (left.orderedBy keys).Alike (right.orderedBy others) := by
  cases keys with
  | nil =>
    rw [List.map_eq_nil_iff.1 same.symm]
    exact alike
  | cons key rest =>
    obtain ⟨other, others, rfl, first, later⟩ := List.map_eq_cons_iff.1 same.symm
    have views := map_eq_of_shapes (fun key => shown (.text ", " :: keyPieces (orderKey key)))
      (fun _ _ same => congrArg (_ :: ·) (shown_keyPieces same)) later.symm
    have further : shown (furtherKeys (rest.map orderKey)) =
        shown (furtherKeys (others.map orderKey)) := by
      simp only [furtherKeys, shown, List.map_flatMap, List.flatMap_map]
      exact congrArg List.flatten views
    refine alike.add (congrArg (false, some " ORDER BY " :: ·) ?_)
    simp only [List.map_append, shown_keyPieces first.symm, further]

theorem limitedTo (alike : left.Alike right) {count other : Nat}
    (same : (count == 0) = (other == 0)) :
    (left.limitedTo count).Alike (right.limitedTo other) := by
  have unbounded : count = 0 ↔ other = 0 := by simpa [Bool.beq_eq_decide_eq] using same
  have bounds (first second : Int) : (Clause.limit first).seen = (Clause.limit second).seen := rfl
  simp only [Listing.limitedTo, unbounded]
  split
  · exact alike
  · exact alike.add (bounds _ _)

/-- Steps of the same shape keep listings alike. -/
theorem apply (alike : left.Alike right) {step other : Step} (same : step.shape = other.shape) :
    (left.apply step).Alike (right.apply other) := by
  cases step with
  | collection => cases other with
    | collection => exact alike.add rfl
    | _ => cases same
  | inclusion inclusion => cases other with
    | inclusion otherInclusion =>
      cases same
      cases inclusion with
      | live => exact alike.add rfl
      | all => exact alike
    | _ => cases same
  | condition => cases other with
    | condition => exact alike.restrict (seen_conditionExpr? (StepShape.condition.inj same))
    | _ => cases same
  | alternatives => cases other with
    | alternatives =>
      exact alike.restrict (seen_alternativesExpr? (StepShape.alternatives.inj same))
    | _ => cases same
  | order => cases other with
    | order => exact alike.orderedBy (StepShape.order.inj same)
    | _ => cases same
  | limit => cases other with
    | limit => exact alike.limitedTo (StepShape.limit.inj same)
    | _ => cases same

/-- Steps of the same shapes keep listings alike. -/
theorem foldl_apply {steps others : List Step} (same : steps.map Step.shape = others.map Step.shape)
    {left right : Listing} (alike : left.Alike right) :
    (steps.foldl Listing.apply left).Alike (others.foldl Listing.apply right) := by
  induction steps generalizing others left right with
  | nil =>
    rw [List.map_eq_nil_iff.1 same.symm]
    exact alike
  | cons step rest ih =>
    obtain ⟨other, others, rfl, first, later⟩ := List.map_eq_cons_iff.1 same.symm
    exact ih later.symm (alike.apply first.symm)

end Alike

theorem alike_build (head : String) {left right : List Step}
    (same : left.map Step.shape = right.map Step.shape) :
    (build head left).Alike (build head right) :=
  Alike.foldl_apply same ⟨rfl, rfl⟩

/-- Listings that are built from the same head by steps of the same shapes have the same text,
whatever names of fields, values, collections and limits the steps carry. -/
theorem sql_eq_of_shape_eq (head : String) (left right : List Step)
    (same : left.map Step.shape = right.map Step.shape) :
    (build head left).sent.sql = (build head right).sent.sql :=
  (alike_build head same).sql_eq

/-- Names and values that are made to look like SQL leave the text as it is. -/
theorem sql_eq_of_hostile_names :
    let head := "SELECT id FROM storage_objects"
    let plain : List Step := [.collection "/a", .inclusion .live,
      .condition [⟨"title", .equal, [.str "x"]⟩, ⟨"id", .oneOf, [.str "x", .null]⟩],
      .alternatives [[], [⟨"size", .greaterThan, [.int 3]⟩]],
      .order [⟨"owner.name", true⟩, ⟨"last_modified", false⟩], .limit 10]
    let hostile : List Step := [.collection "'; --", .inclusion .live,
      .condition [⟨"') OR TRUE --", .equal, [.bool true]⟩, ⟨"id", .oneOf, [.int 7, .null]⟩],
      .alternatives [[], [⟨"", .greaterThan, [.str "$9"]⟩]],
      .order [⟨"id DESC.x", true⟩, ⟨"last_modified", false⟩], .limit 1]
    (build head hostile).sent.sql = (build head plain).sent.sql ∧
      (build head plain).sent.sql =
        "SELECT id FROM storage_objects WHERE path = $1 AND NOT deleted" ++
          " AND ( (NULLIF(data->$2, 'null'::jsonb) = $3" ++
          " AND NULLIF(data->$4, 'null'::jsonb) IS NOT NULL) AND id IN ($5, $6) )" ++
          " AND ( ( (NULLIF(data->$7, 'null'::jsonb) > $8" ++
          " OR NULLIF(data->$9, 'null'::jsonb) IS NULL) ) )" ++
          " ORDER BY NULLIF(data->$10->$11, 'null'::jsonb) DESC, last_modified ASC LIMIT $12" := by
  intro head plain hostile
  refine ⟨sql_eq_of_shape_eq head hostile plain (by decide +kernel), ?_⟩
  decide +kernel

end Listing

end Sql
end DocStore
