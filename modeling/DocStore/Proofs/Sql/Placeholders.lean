import Mathlib.Data.List.Forall2
import DocStore.Proofs.Sql.Wording
import DocStore.Proofs.Text.Numeral

/-!
# Placeholders and their values

Read from left to right, the placeholders of a listing are `$1`, `$2` and so on, as many as
there are values, and each of them stands where its value belongs: behind the text that asks for
a collection, behind the arrow that follows a name, behind the operator that compares a value or
behind the limit (`Listing.placeholders_in_step`).

What is asked for is told by the steps (`Listing.Step.roles`), and what pieces are written for by
`Writes`, which says of pieces one by one what stands before a value.
-/

namespace DocStore
namespace Sql

open Text (Nested occurrences)

/-! ## Reading placeholders -/

/-- The placeholders of a text, each with all that is before it and its number. -/
def placeholdersFrom (before : List Char) : List Char → List (List Char × Nat)
  | [] => []
  | c :: rest =>
    let further := placeholdersFrom (before ++ [c]) rest
    if c = '$' then (before, Text.Numeral.valueFrom 0 (rest.takeWhile Char.isDigit)) :: further
    else further

/-- The placeholders of a text. -/
def placeholders (sql : String) : List (List Char × Nat) := placeholdersFrom [] sql.toList

theorem placeholdersFrom_append {chars : List Char} (noDollar : '$' ∉ chars)
    (before rest : List Char) :
    placeholdersFrom before (chars ++ rest) = placeholdersFrom (before ++ chars) rest := by
  induction chars generalizing before with
  | nil => rw [List.nil_append, List.append_nil]
  | cons c more ih =>
    have other : c ≠ '$' := (List.ne_of_not_mem_cons noDollar).symm
    rw [List.cons_append, placeholdersFrom, if_neg other,
      ih (List.not_mem_of_not_mem_cons noDollar), List.append_assoc, List.singleton_append]

/-- A placeholder is read with its number, unless more digits follow. -/
theorem placeholdersFrom_placeholder (before : List Char) (number : Nat) {rest : List Char}
    (ends : ∀ c ∈ rest.head?, c.isDigit = false) :
    placeholdersFrom before (placeholder number ++ rest) =
      (before, number) :: placeholdersFrom (before ++ placeholder number) rest := by
  have digits : (Text.Numeral.showNat number ++ rest).takeWhile Char.isDigit =
      Text.Numeral.showNat number := by
    rw [List.takeWhile_append_of_pos fun c member => Json.Reader.isDigit_of_mem_showNat member]
    cases rest with
    | nil => exact List.append_nil _
    | cons c later =>
      rw [List.takeWhile_cons_of_neg (Bool.eq_false_iff.1 (ends c rfl)), List.append_nil]
  have noDollar : '$' ∉ Text.Numeral.showNat number := fun member =>
    absurd (Json.Reader.isDigit_of_mem_showNat member) (by decide)
  rw [placeholder, List.cons_append, placeholdersFrom, if_pos rfl, digits,
    Text.Numeral.valueFrom_showNat, placeholdersFrom_append noDollar, List.append_assoc,
    List.singleton_append]

/-- A value, or a text without a dollar sign that is not taken for the rest of a number. -/
def Piece.Unnumbered : Piece → Prop
  | .text chars => '$' ∉ chars.toList ∧ chars.toList.head?.map Char.isDigit = some false
  | .value _ => True

theorem Piece.Spelled.unnumbered {piece : Piece} (spelled : piece.Spelled) : piece.Unnumbered := by
  cases piece with
  | text chars =>
    obtain ⟨noDollar, start, -⟩ := apart_of_mem_vocabulary spelled
    exact ⟨noDollar, start⟩
  | value bound => exact trivial

/-- Such pieces do not go on with the number of a placeholder. -/
theorem not_isDigit_head_numberedChars {pieces : List Piece}
    (unnumbered : ∀ piece ∈ pieces, piece.Unnumbered) (number : Nat) :
    ∀ c ∈ (numberedChars number pieces).head?, c.isDigit = false := by
  cases pieces with
  | nil => exact fun c member => nomatch member
  | cons piece rest =>
    intro c member
    cases piece with
    | text chars =>
      obtain ⟨first, start, noDigit⟩ :=
        Option.map_eq_some_iff.1 (unnumbered _ List.mem_cons_self).2
      obtain ⟨more, shape⟩ := List.head?_eq_some_iff.1 start
      rw [numberedChars, shape] at member
      cases member
      exact noDigit
    | value bound =>
      cases member
      rfl

/-! ## Roles -/

/-- What a placeholder stands for: the text that asks for a value, and the value. -/
structure Role where
  mark : String
  value : Value

/-- The placeholder stands behind the mark. -/
def Role.Precedes (role : Role) (found : List Char × Nat) : Prop := role.mark.toList <:+ found.1

/-- What pieces are written for, behind a text without placeholders: each value is the next
one that is asked for, and the text between it and the value before ends with its mark. -/
inductive Writes : List Char → List Piece → List Role → Prop where
  | nil {before : List Char} : Writes before [] []
  | text {before : List Char} {chars : String} {rest : List Piece} {roles : List Role}
      (later : Writes (before ++ chars.toList) rest roles) :
      Writes before (.text chars :: rest) roles
  | value {before : List Char} {mark : String} {bound : Value} {rest : List Piece}
      {roles : List Role} (marked : mark.toList <:+ before) (later : Writes [] rest roles) :
      Writes before (.value bound :: rest) (⟨mark, bound⟩ :: roles)

namespace Writes

variable {before : List Char} {pieces more : List Piece} {roles further : List Role}

/-- More text before does no harm. -/
theorem behind (writes : Writes before pieces roles) (earlier : List Char) :
    Writes (earlier ++ before) pieces roles := by
  induction writes with
  | nil => exact .nil
  | text later ih =>
    rw [← List.append_assoc] at ih
    exact .text ih
  | value marked later ih => exact .value (marked.trans (List.suffix_append _ _)) later

theorem anywhere (writes : Writes [] pieces roles) (earlier : List Char) :
    Writes earlier pieces roles := by
  have moved := writes.behind earlier
  rwa [List.append_nil] at moved

theorem append (writes : Writes before pieces roles) (later : Writes [] more further) :
    Writes before (pieces ++ more) (roles ++ further) := by
  induction writes with
  | nil => exact later.anywhere _
  | text rest ih => exact .text ih
  | value marked rest ih => exact .value marked ih

/-- Behind a word that asks for nothing. -/
theorem opened (writes : Writes [] pieces roles) (word : String) :
    Writes before (.text word :: pieces) roles :=
  .text (writes.anywhere _)

/-- In front of pieces that ask for nothing. -/
theorem followed (writes : Writes before pieces roles) (later : Writes [] more []) :
    Writes before (pieces ++ more) roles := by
  have both := writes.append later
  rwa [List.append_nil] at both

/-- The values are bound in order. -/
theorem boundValues_eq (writes : Writes before pieces roles) :
    boundValues pieces = roles.map Role.value := by
  induction writes with
  | nil => rfl
  | text later ih => exact ih
  | value marked later ih => exact congrArg (_ :: ·) ih

/-- Read from the text, the placeholders have successive numbers, and each of them stands
behind the mark of its role. -/
theorem placeholders_read (writes : Writes before pieces roles)
    (unnumbered : ∀ piece ∈ pieces, piece.Unnumbered) {front : List Char}
    (ends : before <:+ front) (number : Nat) :
    (placeholdersFrom front (numberedChars number pieces)).map Prod.snd =
        List.range' number roles.length ∧
      List.Forall₂ Role.Precedes roles (placeholdersFrom front (numberedChars number pieces)) := by
  induction writes generalizing front number with
  | nil => exact ⟨rfl, .nil⟩
  | @text before chars rest roles later ih =>
    obtain ⟨first, others⟩ := List.forall_mem_cons.1 unnumbered
    rw [numberedChars, placeholdersFrom_append first.1]
    -- What was read goes on with the text, so it still ends with what stands before the rest.
    obtain ⟨earlier, rfl⟩ := ends
    rw [List.append_assoc]
    exact ih others (List.suffix_append earlier _) number
  | value marked later ih =>
    obtain ⟨-, others⟩ := List.forall_mem_cons.1 unnumbered
    obtain ⟨numbers, marks⟩ := ih others (List.nil_suffix) (number + 1)
    rw [numberedChars,
      placeholdersFrom_placeholder front number (not_isDigit_head_numberedChars others _),
      List.map_cons, List.length_cons, List.range'_succ]
    exact ⟨congrArg (number :: ·) numbers, .cons (marked.trans ends) marks⟩

end Writes

/-! ## What steps ask for -/

/-- The names that lead to a field, each behind an arrow; the first arrow follows the text that
opens the path, and the last one may be another. -/
def pathRoles (opening last : String) : List String → List Role
  | [] => []
  | [name] => [⟨opening ++ last, .text name⟩]
  | name :: rest => ⟨opening ++ "->", .text name⟩ :: pathRoles "" last rest

/-- What a field asks for: nothing, if it is a column. -/
def fieldRoles (field last : String) : List Role :=
  if Filter.isColumn field then [] else pathRoles "data" last (Document.segments field)

/-- What the field of a filter asks for. -/
def filterFieldRoles (filter : Filter) : List Role :=
  fieldRoles filter.field (if filter.operator = .like then "->>" else "->")

/-- A comparison asks for the value behind its operator, and that behind the field, if it is a
column. -/
def comparedRole (filter : Filter) (comparison : Comparison) : Role where
  mark := (if Filter.isColumn filter.field then filter.field else "") ++ " " ++
    comparison.symbol ++ " "
  value := comparedValue filter

/-- A list asks for its values behind commas, and for the first one behind the operator. -/
def listedRoles (negated : Bool) : List Value → List Role
  | [] => []
  | first :: rest =>
    ⟨if negated then " NOT IN (" else " IN (", first⟩ :: rest.map fun value => ⟨", ", value⟩

/-- What a filter asks for.  The field comes once more where rows without it are told apart, and
twice before an overlap. -/
def filterRoles (filter : Filter) : List Role :=
  let field := filterFieldRoles filter
  match Plan.of filter with
  | .constant _ => []
  | .absent => field
  | .present => field
  | .compare comparison _ =>
    field ++ (if comparison = .overlaps then field else []) ++ [comparedRole filter comparison] ++
      field
  | .lookup negated _ =>
    field ++ listedRoles negated (filter.values.map (fieldValue filter.field)) ++ field

namespace Listing.Step

/-- What a step asks for. -/
def roles : Step → List Role
  | .collection name => [⟨"path = ", .text name⟩]
  | .inclusion _ => []
  | .condition filters => filters.flatMap filterRoles
  | .alternatives conditions => conditions.flatMap (·.flatMap filterRoles)
  | .order keys => keys.flatMap fun key => fieldRoles key.field "->"
  | .limit count => if count = 0 then [] else [⟨" LIMIT ", .int8 (min count (2 ^ 63 - 1))⟩]

/-- Whether a step restricts the rows. -/
def restricts : Step → Bool
  | .collection _ => true
  | .inclusion shows => shows = .live
  | .condition filters => !filters.isEmpty
  | .alternatives conditions => conditions.any (!·.isEmpty)
  | .order _ | .limit _ => false

end Listing.Step

/-! ## Fields -/

/-- Names behind arrows. -/
def pathPieces (last : String) : List String → List Piece
  | [] => []
  | [name] => [.text last, .value (.text name)]
  | name :: rest => .text "->" :: .value (.text name) :: pathPieces last rest

theorem pieces_followPath {last : Expr → String → Expr} {arrow : String}
    (step : ∀ object name, (last object name).pieces =
      object.pieces ++ [.text arrow, .value (.text name)]) (object : Expr) (names : List String) :
    (followPath last object names).pieces = object.pieces ++ pathPieces arrow names := by
  induction names generalizing object with
  | nil => exact (List.append_nil _).symm
  | cons name rest ih =>
    cases rest with
    | nil => exact step object name
    | cons next later =>
      have inner : (Expr.member object name).pieces =
          object.pieces ++ [.text "->", .value (.text name)] := rfl
      have further := ih (.member object name)
      rw [inner, List.append_assoc] at further
      exact further

theorem writes_pathPieces {opening : String} {before : List Char}
    (ends : opening.toList <:+ before) (last : String) (names : List String) :
    Writes before (pathPieces last names) (pathRoles opening last names) := by
  induction names generalizing opening before with
  | nil => exact .nil
  | cons name rest ih =>
    have behind (arrow : String) : (opening ++ arrow).toList <:+ before ++ arrow.toList := by
      obtain ⟨earlier, rfl⟩ := ends
      rw [String.toList_append, List.append_assoc]
      exact List.suffix_append earlier _
    cases rest with
    | nil => exact .text (.value (behind last) .nil)
    | cons next later => exact .text (.value (behind "->") (ih List.nil_suffix))

section Fields

variable {field : String} (noColumn : Filter.isColumn field = false)
include noColumn

theorem writes_jsonField : Writes [] (jsonField field).pieces (fieldRoles field "->") := by
  rw [fieldRoles, if_neg (by rw [noColumn]; decide), jsonField,
    @pieces_followPath Expr.member "->" fun _ _ => rfl]
  exact .text (writes_pathPieces (List.suffix_refl _) "->" _)

theorem writes_textField : Writes [] (textField field).pieces (fieldRoles field "->>") := by
  rw [fieldRoles, if_neg (by rw [noColumn]; decide), textField,
    @pieces_followPath Expr.memberText "->>" fun _ _ => rfl]
  exact .text (writes_pathPieces (List.suffix_refl _) "->>" _)

theorem writes_rankedField : Writes [] (rankedField field).pieces (fieldRoles field "->") := by
  have opened := @Writes.opened [] _ _ (writes_jsonField noColumn) "NULLIF("
  exact (opened.followed (.text (.text .nil))).followed (.text .nil)

end Fields

theorem filterFieldRoles_of_column {filter : Filter}
    (column : Filter.isColumn filter.field = true) : filterFieldRoles filter = [] := by
  rw [filterFieldRoles, fieldRoles, if_pos column]

/-- The field of a filter is written for what it asks for. -/
theorem writes_filterField (filter : Filter) :
    Writes [] (filterField filter).pieces (filterFieldRoles filter) := by
  unfold filterField
  split
  · rename_i column
    rw [filterFieldRoles_of_column column]
    exact .text .nil
  · rename_i other
    have noColumn := Bool.eq_false_iff.2 other
    unfold filterFieldRoles
    cases filter.operator
    case like => exact writes_textField noColumn
    case present | contains | containsAny => exact writes_jsonField noColumn
    all_goals exact writes_rankedField noColumn

/-! ## Filters -/

/-- A value behind an operator, and what stands before it. -/
theorem writes_operand (opening : String) (comparison : Comparison) (value : Value) :
    Writes opening.toList [.text " ", .text comparison.symbol, .text " ", .value value]
      [⟨opening ++ " " ++ comparison.symbol ++ " ", value⟩] := by
  refine .text (.text (.text (.value ?_ .nil)))
  rw [String.toList_append, String.toList_append, String.toList_append]

theorem plan_overlaps {filter : Filter} {required : Bool}
    (plan : Plan.of filter = .compare .overlaps required) :
    Filter.isColumn filter.field = false := by
  unfold Plan.of at plan
  cases asked : filter.operator <;> simp only [asked] at plan <;> split at plan <;>
    first | exact Bool.eq_false_iff.2 ‹_› | cases plan

theorem writes_bareComparison {filter : Filter} {comparison : Comparison}
    (noColumn : comparison = .overlaps → Filter.isColumn filter.field = false) :
    Writes [] (bareComparison filter comparison).pieces
      (filterFieldRoles filter ++
        (if comparison = .overlaps then filterFieldRoles filter else []) ++
          [comparedRole filter comparison]) := by
  have field := writes_filterField filter
  unfold bareComparison comparedRole
  split
  · rename_i overlaps
    have isArray : Writes [] (Expr.compare .equal (.jsonType (filterField filter))
        (.word "array")).pieces (filterFieldRoles filter) :=
      ((field.opened _).followed (.text .nil)).followed
        (.text (.text (.text (.text (.text (.text .nil))))))
    have items : Writes [] (Expr.jsonItems (filterField filter)).pieces (filterFieldRoles filter) :=
      (field.opened _).followed (.text .nil)
    rw [noColumn overlaps, overlaps, List.append_assoc]
    exact isArray.append
      ((items.append (writes_operand "" .overlaps _)).opened " AND ")
  · rename_i other
    rw [List.append_nil]
    cases column : Filter.isColumn filter.field with
    | true =>
      have named : filterField filter = .column filter.field := if_pos column
      rw [named, filterFieldRoles_of_column column, if_pos rfl]
      exact .text (writes_operand filter.field comparison _)
    | false => exact field.append (writes_operand "" comparison _)

theorem writes_settled (filter : Filter) {comparison : Expr} {roles : List Role}
    (writes : Writes [] comparison.pieces roles) (required : Bool) :
    Writes [] (settled filter comparison required).pieces (roles ++ filterFieldRoles filter) := by
  have field := writes_filterField filter
  unfold settled
  split
  · rename_i column
    rwa [filterFieldRoles_of_column column, List.append_nil]
  · have missing {word test : String} : Writes [] (.text word :: ((filterField filter).pieces ++
        [.text test])) (filterFieldRoles filter) :=
      (field.followed (.text .nil)).opened word
    split <;> exact ((writes.append missing).opened "(").followed (.text .nil)

theorem writes_valuePieces (negated : Bool) (values : List Value) :
    Writes (if negated then " NOT IN (" else " IN (").toList (valuePieces values)
      (listedRoles negated values) := by
  have further (values : List Value) : Writes ", ".toList (valuePieces values)
      (values.map fun value => ⟨", ", value⟩) := by
    induction values with
    | nil => exact .nil
    | cons value rest ih =>
      cases rest with
      | nil => exact .value (List.suffix_refl _) .nil
      | cons next later => exact .value (List.suffix_refl _) (.text ih)
  cases values with
  | nil => exact .nil
  | cons first rest =>
    cases rest with
    | nil => exact .value (List.suffix_refl _) .nil
    | cons next later => exact .value (List.suffix_refl _) (.text (further (next :: later)))

/-- A filter is written for what it asks for. -/
theorem writes_filterExpr (filter : Filter) :
    Writes [] (filterExpr filter).pieces (filterRoles filter) := by
  have field := writes_filterField filter
  unfold filterExpr filterRoles
  cases plan : Plan.of filter with
  | constant value => cases value <;> exact .text .nil
  | absent => exact field.followed (.text .nil)
  | present => exact field.followed (.text .nil)
  | compare comparison required =>
    apply writes_settled
    apply writes_bareComparison
    rintro rfl
    exact plan_overlaps plan
  | lookup negated required =>
    apply writes_settled
    have listed := writes_valuePieces negated (filter.values.map (fieldValue filter.field))
    rw [Expr.pieces, List.append_assoc]
    exact field.append ((Writes.text listed).followed (.text .nil))

/-! ## Conditions -/

/-- Expressions that are joined one after the other are written for what they ask for in turn. -/
theorem writes_joined {join : Expr → List Expr → Expr} {word : String}
    (single : ∀ first, join first [] = first)
    (more : ∀ first next rest, (join first (next :: rest)).pieces =
      first.pieces ++ .text word :: (join next rest).pieces)
    {first : Expr} {rest : List Expr} {roles : List Role} {further : List (List Role)}
    (writes : Writes [] first.pieces roles)
    (later : List.Forall₂ (fun expr roles => Writes [] expr.pieces roles) rest further) :
    Writes [] (join first rest).pieces (roles ++ further.flatten) := by
  induction later generalizing first roles with
  | nil =>
    rw [single, List.flatten_nil, List.append_nil]
    exact writes
  | cons next others ih =>
    rw [more, List.flatten_cons]
    exact writes.append ((ih next).opened word)

theorem writes_group {content : Expr} {roles : List Role}
    (writes : Writes [] content.pieces roles) : Writes [] (Expr.group content).pieces roles :=
  (writes.opened "( ").followed (.text .nil)

theorem writes_conditionExpr? {condition : Condition} {expr : Expr}
    (written : conditionExpr? condition = some expr) :
    Writes [] expr.pieces (condition.flatMap filterRoles) := by
  cases condition with
  | nil => cases written
  | cons filter rest =>
    cases written
    have later : List.Forall₂ (fun expr roles => Writes [] expr.pieces roles)
        (rest.map filterExpr) (rest.map filterRoles) := by
      rw [List.forall₂_map_left_iff, List.forall₂_map_right_iff, List.forall₂_same]
      exact fun other _ => writes_filterExpr other
    exact writes_group
      (@writes_joined Expr.all " AND " (fun _ => rfl) (fun _ _ _ => rfl) _ _ _ _
        (writes_filterExpr filter) later)

/-- The conditions that are written ask for all that the conditions ask for. -/
theorem writes_conditions (conditions : List Condition) :
    ∃ parts, List.Forall₂ (fun expr roles => Writes [] expr.pieces roles)
        (conditions.filterMap conditionExpr?) parts ∧
      parts.flatten = conditions.flatMap (·.flatMap filterRoles) := by
  induction conditions with
  | nil => exact ⟨[], .nil, rfl⟩
  | cons condition rest ih =>
    obtain ⟨parts, writes, all⟩ := ih
    rw [List.flatMap_cons, ← all]
    cases written : conditionExpr? condition with
    | none =>
      rw [List.filterMap_cons_none written]
      cases condition with
      | nil => exact ⟨parts, writes, rfl⟩
      | cons => cases written
    | some expr =>
      rw [List.filterMap_cons_some written]
      exact ⟨_ :: parts, .cons (writes_conditionExpr? written) writes, rfl⟩

theorem writes_alternativesExpr? {alternatives : List Condition} {expr : Expr}
    (written : alternativesExpr? alternatives = some expr) :
    Writes [] expr.pieces (alternatives.flatMap (·.flatMap filterRoles)) := by
  obtain ⟨parts, writes, all⟩ := writes_conditions alternatives
  rw [← all]
  rcases alternativesExpr?_cases alternatives with ⟨-, nothing⟩ | ⟨first, rest, conditions, joined⟩
  · rw [nothing] at written
    cases written
  · rw [joined] at written
    rw [conditions] at writes
    cases written
    obtain ⟨roles, further, first, later, rfl⟩ := List.forall₂_cons_left_iff.1 writes
    exact writes_group
      (@writes_joined Expr.any " OR " (fun _ => rfl) (fun _ _ _ => rfl) _ _ _ _ first later)

/-! ## Clauses -/

namespace Listing

theorem writes_keyPieces (key : SortKey) :
    Writes [] (keyPieces (orderKey key)) (fieldRoles key.field "->") := by
  refine Writes.followed ?_ (.text .nil)
  unfold orderKey
  cases column : Filter.isColumn key.field with
  | true =>
    rw [fieldRoles, column]
    exact .text .nil
  | false => exact writes_rankedField column

theorem writes_furtherKeys (keys : List SortKey) :
    Writes [] (furtherKeys (keys.map orderKey))
      (keys.flatMap fun key => fieldRoles key.field "->") := by
  induction keys with
  | nil => exact .nil
  | cons key rest ih => exact ((writes_keyPieces key).opened ", ").append ih

namespace Step

/-- The clause of a step is written for what the step asks for. -/
theorem writes {step : Step} {clause : Clause} (added : step.clause? = some clause)
    (restricted : Bool) :
    Writes (clause.opening restricted).toList clause.content step.roles := by
  cases step with
  | collection name =>
    cases added
    refine Writes.anywhere (.text (.text (.text (.text (.value ?_ .nil))))) _
    exact List.suffix_refl _
  | inclusion shows =>
    cases shows with
    | live =>
      cases added
      exact .text (.text .nil)
    | all => cases added
  | condition filters =>
    obtain ⟨expr, written, rfl⟩ := Option.map_eq_some_iff.1 added
    exact (writes_conditionExpr? written).anywhere _
  | alternatives conditions =>
    obtain ⟨expr, written, rfl⟩ := Option.map_eq_some_iff.1 added
    exact (writes_alternativesExpr? written).anywhere _
  | order keys =>
    cases keys with
    | nil => cases added
    | cons key rest =>
      cases added
      exact ((writes_keyPieces key).append (writes_furtherKeys rest)).anywhere _
  | limit count =>
    simp only [clause?, Option.ite_none_left_eq_some, Option.some.injEq] at added
    obtain ⟨bounded, rfl⟩ := added
    have clamped : Number.Extended.clampInt64 count = min (count : Int) (2 ^ 63 - 1) := by
      rw [Number.Extended.clampInt64, Number.Extended.leastInt64, Number.Extended.greatestInt64]
      omega
    rw [roles, if_neg bounded, Clause.content, clamped]
    exact .value (List.suffix_refl _) .nil

/-- A step that adds no clause asks for nothing. -/
theorem roles_of_none {step : Step} (nothing : step.clause? = none) : step.roles = [] := by
  cases step with
  | collection name => cases nothing
  | inclusion shows => rfl
  | condition filters =>
    cases filters with
    | nil => rfl
    | cons => cases nothing
  | alternatives conditions =>
    obtain ⟨parts, writes, all⟩ := writes_conditions conditions
    rcases alternativesExpr?_cases conditions with ⟨none, -⟩ | ⟨first, rest, -, joined⟩
    · rw [none, List.forall₂_nil_left_iff] at writes
      rw [writes] at all
      exact all.symm
    · rw [clause?, joined] at nothing
      cases nothing
  | order keys =>
    cases keys with
    | nil => rfl
    | cons => cases nothing
  | limit count =>
    simp only [clause?, ite_eq_left_iff, reduceCtorEq, imp_false, not_not] at nothing
    exact if_pos nothing

theorem any_restricts_clause? (step : Step) :
    step.clause?.any Clause.restricts = step.restricts := by
  cases step with
  | collection name => rfl
  | inclusion shows => cases shows <;> rfl
  | condition filters => cases filters <;> rfl
  | alternatives conditions =>
    rw [restricts, ← isSome_alternativesExpr?, clause?]
    cases alternativesExpr? conditions <;> rfl
  | order keys => cases keys <;> rfl
  | limit count =>
    simp only [clause?]
    split <;> rfl

end Step

/-- What is written behind the head is what the steps ask for, in order. -/
theorem writes_clausePieces (steps : List Step) (restricted : Bool) :
    Writes [] (clausePieces restricted (steps.filterMap Step.clause?))
      (steps.flatMap Step.roles) := by
  induction steps generalizing restricted with
  | nil => exact .nil
  | cons step rest ih =>
    rw [List.flatMap_cons]
    cases added : step.clause? with
    | none =>
      rw [List.filterMap_cons_none added, Step.roles_of_none added]
      exact ih restricted
    | some clause =>
      rw [List.filterMap_cons_some added, clausePieces_cons]
      exact (Writes.text (step.writes added restricted)).append (ih _)

theorem unnumbered_clausePieces {clauses : List Clause} (plain : ∀ clause ∈ clauses, clause.Plain)
    (restricted : Bool) : ∀ piece ∈ clausePieces restricted clauses, piece.Unnumbered := by
  induction clauses generalizing restricted with
  | nil => exact List.forall_mem_nil _
  | cons clause rest ih =>
    obtain ⟨first, later⟩ := List.forall_mem_cons.1 plain
    rw [clausePieces_cons, List.cons_append, List.forall_mem_cons, List.forall_mem_append]
    have opening : ∀ word ∈ Clause.openings,
        '$' ∉ word.toList ∧ word.toList.head?.map Char.isDigit = some false := by decide
    exact ⟨opening _ (clause.opening_mem restricted),
      fun piece member => (first.spelled piece member).unnumbered, ih later _⟩

/-- Behind a head without placeholders, those of a listing are numbered from one in the order in
which they stand, as many as there are values; the values are what the steps ask for, and each
placeholder stands behind the text that asks for its value.  The parentheses are balanced, and
`WHERE` occurs once, if a step restricts the rows, and otherwise not at all. -/
theorem placeholders_in_step (head : String) (steps : List Step) (noDollar : '$' ∉ head.toList)
    (noWhere : occurrences whereWord head.toList = 0) (nested : Nested head.toList) :
    let sent := (build head steps).sent
    let roles := steps.flatMap Step.roles
    (placeholders sent.sql).map Prod.snd = List.range' 1 sent.binds.length ∧
      sent.binds = roles.map Role.value ∧
      List.Forall₂ Role.Precedes roles (placeholders sent.sql) ∧
      Nested sent.sql.toList ∧
      occurrences whereWord sent.sql.toList = if steps.any Step.restricts then 1 else 0 := by
  intro sent roles
  have plain : ∀ clause ∈ steps.filterMap Step.clause?, clause.Plain := by
    intro clause member
    obtain ⟨step, -, added⟩ := List.mem_filterMap.1 member
    exact step.plain added
  have sql : sent.sql.toList = head.toList ++
      numberedChars 1 (clausePieces false (steps.filterMap Step.clause?)) := by
    simp only [sent, build_eq, Listing.sent, Listing.pieces, Sent.ofPieces, String.toList_ofList,
      numberedChars]
  have writes := writes_clausePieces steps false
  have binds : sent.binds = roles.map Role.value := by
    rw [← writes.boundValues_eq]
    simp only [sent, build_eq]
    rfl
  have read := writes.placeholders_read (unnumbered_clausePieces plain false)
    (@List.nil_suffix _ head.toList) 1
  rw [← List.nil_append head.toList, ← placeholdersFrom_append noDollar, ← sql] at read
  refine ⟨?_, binds, read.2, ?_, ?_⟩
  · rw [binds, List.length_map]
    exact read.1
  · rw [Nested, sql, List.foldl_append, nested, foldl_nest_numberedChars]
    exact closed_clausePieces plain false 0
  · have restrict : (steps.filterMap Step.clause?).any Clause.restricts =
        steps.any Step.restricts := by
      rw [List.any_filterMap]
      congr 1
      funext step
      rw [← step.any_restricts_clause?]
      cases step.clause? <;> rfl
    rw [sql, occurrences_behind plain, noWhere, Nat.zero_add, restrict]

/-- Steps in another order than those of a listing of documents, with values that are made to
look like SQL: of their 18 placeholders the first is the name of an order and the second the
limit. -/
theorem placeholders_in_step_hostile :
    let head := "SELECT COUNT(*) FROM storage_objects"
    let steps : List Step := [.order [⟨"owner", true⟩, ⟨"id", false⟩], .limit (2 ^ 64),
      .condition [⟨"tags.$1", .containsAny, [.str ")"]⟩, ⟨"id", .oneOf, [.int 7, .str "$9"]⟩],
      .alternatives [[], [⟨"title", .like, [.str " WHERE "]⟩, ⟨"size", .greaterThan, [.int 3]⟩]],
      .inclusion .live, .collection "/a"]
    let sent := (build head steps).sent
    let roles := steps.flatMap Step.roles
    '$' ∉ head.toList ∧ occurrences whereWord head.toList = 0 ∧ Nested head.toList ∧
      (placeholders sent.sql).map Prod.snd = List.range' 1 18 ∧
      List.Forall₂ Role.Precedes roles (placeholders sent.sql) ∧
      roles.take 2 = [⟨"data->", .text "owner"⟩, ⟨" LIMIT ", .int8 (2 ^ 63 - 1)⟩] ∧
      Nested sent.sql.toList ∧ occurrences whereWord sent.sql.toList = 1 := by
  intro head steps sent roles
  have noDollar : '$' ∉ head.toList := by decide
  have noWhere : occurrences whereWord head.toList = 0 := by decide
  have nested : Nested head.toList := by decide
  obtain ⟨numbers, binds, marks, closed, once⟩ :=
    placeholders_in_step head steps noDollar noWhere nested
  have count : sent.binds.length = 18 := by rw [binds, List.length_map]; decide +kernel
  rw [count] at numbers
  exact ⟨noDollar, noWhere, nested, numbers, marks, rfl, closed, once⟩

end Listing
end Sql
end DocStore
