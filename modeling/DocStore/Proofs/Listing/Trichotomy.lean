import DocStore.Proofs.Sql.Binding

/-!
# Less, equal or greater

On fields without floats, whose integers double precision tells apart, the order finds equal what
equality does.  So a field is less than a value, equal to it or greater, and just one of the
three, and the other comparing filters ask for two of them
(`Filter.comparisons_trichotomous`).  The fields of a document without floats are such fields,
however deep they lie.
-/

namespace DocStore

namespace Json

/-- The order and equality agree on which fields are equal. -/
theorem compare_eq_iff_equal {left right : Option Json} (leftDiscrete : Discrete left)
    (rightDiscrete : Discrete right) :
    compare left right = .eq ↔ equal left right = true :=
  (compare_eq_iff leftDiscrete rightDiscrete).trans (equal_iff leftDiscrete rightDiscrete).symm

/-! ## Parts of values -/

theorem Discrete.of_mem_items {items : List Json} (discrete : Discrete (some (.arr items)))
    {item : Json} (member : item ∈ items) : Discrete (some item) := by
  obtain ⟨integral, ordered⟩ := discrete
  rw [Option.getD_some, Integral, integralItems_iff] at integral
  rw [Option.getD_some, Ordered, orderedItems_iff] at ordered
  exact ⟨integral item member, ordered item member⟩

theorem Discrete.of_find? {members : Members} (discrete : Discrete (some (.obj members)))
    {name : String} {value : Json} (found : Assoc.find? name members = some value) :
    Discrete (some value) := by
  obtain ⟨integral, -, ordered⟩ := discrete
  rw [Option.getD_some, Integral, integralMembers_iff] at integral
  rw [orderedMembers_iff] at ordered
  have member := Assoc.mem_of_find? found
  exact ⟨integral _ member, ordered _ member⟩

theorem Discrete.of_step? {value part : Json} (discrete : Discrete (some value)) {name : String}
    (found : Document.step? name value = some part) : Discrete (some part) := by
  cases value with
  | obj members => exact discrete.of_find? found
  | arr items =>
    simp only [Document.step?] at found
    split at found
    · exact discrete.of_mem_items (List.mem_of_getElem? found)
    · cases found
  | null | bool _ | int _ | float _ | str _ => cases found

/-- What lies at the end of a path is a part of the value. -/
theorem Discrete.of_follow? {value part : Json} (discrete : Discrete (some value))
    {names : List String} (found : Document.follow? names value = some part) :
    Discrete (some part) := by
  induction names generalizing value with
  | nil =>
    cases found
    exact discrete
  | cons name rest ih =>
    obtain ⟨inner, step, later⟩ := Option.bind_eq_some_iff.1 found
    exact ih (discrete.of_step? step) later

end Json

/-! ## Documents -/

/-- A document without floats, whose integers double precision tells apart. -/
structure Document.Discrete (document : Document) : Prop where
  epoch : Json.Fits53 document.modified.millis
  fields : Json.Discrete (some (.obj document.fields))

/-- Every field of such a document is such a field, missing ones and those deep inside included. -/
theorem Document.Discrete.get? {document : Document} (discrete : document.Discrete)
    (field : String) : Json.Discrete (document.get? field) := by
  unfold Document.get?
  split
  · exact ⟨trivial, trivial⟩
  split
  · exact ⟨discrete.epoch, trivial⟩
  split
  · exact ⟨trivial, trivial⟩
  cases found : lookup? document.fields field with
  | none => exact ⟨trivial, trivial⟩
  | some value =>
    unfold lookup? at found
    split at found
    · cases found
    · split at found
      · rename_i member
        cases found
        exact discrete.fields.of_find? member
      · exact discrete.fields.of_follow? found

/-! ## Filters -/

namespace Operator

/-- The filters of which just one admits a field. -/
def strict : List Operator := [.greaterThan, .equal, .lessThan]

/-- The one of them that asks for the order. -/
def asking : Ordering → Operator
  | .lt => .lessThan
  | .eq => .equal
  | .gt => .greaterThan

theorem asking_mem (order : Ordering) : asking order ∈ strict := by
  cases order <;> simp [asking, strict]

theorem scalar_of_strict {operator : Operator} (member : operator ∈ strict) :
    operator ∈ Sql.scalarOperators := by
  simp only [strict, List.mem_cons, List.not_mem_nil, or_false] at member
  rcases member with rfl | rfl | rfl <;> simp [Sql.scalarOperators]

theorem ofOrder_iff_eq_asking {operator : Operator} (member : operator ∈ strict)
    {order : Ordering} : operator.ofOrder order = true ↔ operator = asking order := by
  simp only [strict, List.mem_cons, List.not_mem_nil, or_false] at member
  rcases member with rfl | rfl | rfl <;> cases order <;> simp [ofOrder, asking]

end Operator

namespace Filter

/-- A comparing filter with one value asks for the order of the field and the value. -/
theorem admits_eq_ofOrder {document : Document} {field : String} {value : Json}
    (fieldDiscrete : Json.Discrete (document.get? field))
    (valueDiscrete : Json.Discrete (some value)) {operator : Operator}
    (scalar : operator ∈ Sql.scalarOperators) :
    admits ⟨field, operator, [value]⟩ document =
      operator.ofOrder (Json.compare (document.get? field) (some value)) := by
  have level : Json.equal (document.get? field) (some value) =
      decide (Json.compare (document.get? field) (some value) = .eq) := by
    rw [Bool.eq_iff_iff, decide_eq_true_iff]
    exact (Json.compare_eq_iff_equal fieldDiscrete valueDiscrete).symm
  exact accepts_eq_ofOrder scalar level

/-- The order and equality agree on fields without floats, whose integers double precision tells
apart.  All fields of a document without such numbers are of that kind, and a field of that kind
is admitted by just one of the filters that ask for greater, equal and less; the other comparing
filters admit it if one of two of these does. -/
theorem comparisons_trichotomous :
    (∀ left right : Option Json, Json.Discrete left → Json.Discrete right →
      (Json.compare left right = .eq ↔ Json.equal left right = true)) ∧
    (∀ (document : Document) (field : String), document.Discrete →
      Json.Discrete (document.get? field)) ∧
    ∀ (document : Document) (field : String) (value : Json),
      Json.Discrete (document.get? field) → Json.Discrete (some value) →
      let admitted (operator : Operator) : Prop :=
        admits ⟨field, operator, [value]⟩ document = true
      (∃! operator, operator ∈ Operator.strict ∧ admitted operator) ∧
        (admitted .atLeast ↔ admitted .greaterThan ∨ admitted .equal) ∧
        (admitted .atMost ↔ admitted .lessThan ∨ admitted .equal) ∧
        (admitted .notEqual ↔ admitted .greaterThan ∨ admitted .lessThan) := by
  refine ⟨fun left right => Json.compare_eq_iff_equal, fun document field discrete =>
    discrete.get? field, ?_⟩
  intro document field value fieldDiscrete valueDiscrete admitted
  have table (operator : Operator) (scalar : operator ∈ Sql.scalarOperators) :
      admitted operator ↔
        operator.ofOrder (Json.compare (document.get? field) (some value)) = true := by
    rw [← admits_eq_ofOrder fieldDiscrete valueDiscrete scalar]
  generalize Json.compare (document.get? field) (some value) = order at table
  have others : (admitted .atLeast ↔ admitted .greaterThan ∨ admitted .equal) ∧
      (admitted .atMost ↔ admitted .lessThan ∨ admitted .equal) ∧
      (admitted .notEqual ↔ admitted .greaterThan ∨ admitted .lessThan) := by
    rw [table .atLeast (by decide), table .atMost (by decide), table .notEqual (by decide),
      table .greaterThan (by decide), table .equal (by decide), table .lessThan (by decide)]
    cases order <;> simp [Operator.ofOrder]
  refine ⟨⟨Operator.asking order, ⟨Operator.asking_mem order, ?_⟩, ?_⟩, others⟩
  · rw [table _ (Operator.scalar_of_strict (Operator.asking_mem order))]
    exact (Operator.ofOrder_iff_eq_asking (Operator.asking_mem order)).2 rfl
  · rintro operator ⟨strict, accepted⟩
    rw [table _ (Operator.scalar_of_strict strict)] at accepted
    exact (Operator.ofOrder_iff_eq_asking strict).1 accepted

/-- Objects that differ in an escaped character of a nested text only. -/
theorem comparisons_trichotomous_nested :
    let sized (name : String) : Json :=
      .obj [("names", .arr [.str name, .null]), ("size", .int (-9007199254740992))]
    let document : Document := ⟨"a", ⟨5⟩, false, [("meta", .obj [("inner", sized "x\"y")])]⟩
    let field := document.get? "meta.inner"
    document.Discrete ∧ Json.Discrete field ∧ Json.Discrete (some (sized "x\\y")) ∧
      (Json.compare field (some (sized "x\\y")) = .eq ↔
        Json.equal field (some (sized "x\\y")) = true) ∧
      (∃! operator, operator ∈ Operator.strict ∧
        admits ⟨"meta.inner", operator, [sized "x\\y"]⟩ document = true) ∧
      admits ⟨"meta.inner", .lessThan, [sized "x\\y"]⟩ document = true := by
  intro sized document field
  obtain ⟨agree, fields, trichotomous⟩ := comparisons_trichotomous
  have discrete : document.Discrete := ⟨by decide, by decide⟩
  have fieldDiscrete : Json.Discrete field := fields document "meta.inner" discrete
  have valueDiscrete : Json.Discrete (some (sized "x\\y")) := by decide
  have less : admits ⟨"meta.inner", .lessThan, [sized "x\\y"]⟩ document = true := by decide +kernel
  exact ⟨discrete, fieldDiscrete, valueDiscrete, agree _ _ fieldDiscrete valueDiscrete,
    (trichotomous document "meta.inner" _ fieldDiscrete valueDiscrete).1, less⟩

end Filter

end DocStore
