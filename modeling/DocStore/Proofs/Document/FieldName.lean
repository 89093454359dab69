import DocStore.Proofs.Sql.Addressing
import DocStore.Proofs.Text.Split

/-!
# Field names

A field lies below another one if its name goes on after the other name with a dot, which is to
say that the steps of the other name are its first steps (`encloses_iff`).  The reserved names are
single steps, so a name that starts with one of them and goes on is not reserved itself.
-/

namespace DocStore

namespace Document

/-! ## Steps -/

theorem segments_ne_nil (field : String) : segments field ≠ [] := by
  simpa [segments, Text.splitText] using Text.splitOn_ne_nil '.' field.toList

theorem dot_not_mem_of_mem_segments {field step : String} (member : step ∈ segments field) :
    '.' ∉ step.toList := by
  obtain ⟨piece, found, rfl⟩ := List.mem_map.1 member
  rw [String.toList_ofList]
  exact Text.not_mem_of_mem_splitOn found

theorem segments_dot (field rest : String) :
    segments (field ++ "." ++ rest) = segments field ++ segments rest := by
  have dotted : (field ++ "." ++ rest).toList = field.toList ++ '.' :: rest.toList := by simp
  rw [segments, Text.splitText, dotted, Text.splitOn_append_cons, List.map_append]
  rfl

/-- The steps joined by dots are the name. -/
theorem toList_eq_join (field : String) :
    field.toList = Text.join '.' ((segments field).map String.toList) := by
  have pieces : (segments field).map String.toList = Text.splitOn '.' field.toList := by
    simp [segments, Text.splitText, Function.comp_def]
  rw [pieces, Text.join_splitOn]

/-- Names with the same steps are equal. -/
theorem segments_inj {field other : String} (same : segments field = segments other) :
    field = other := by
  rw [← String.toList_inj, toList_eq_join, same, ← toList_eq_join]

/-! ## Below a field -/

/-- Whether another field is this one or lies below it. -/
def Encloses (field other : String) : Prop :=
  other = field ∨ ∃ rest, other = field ++ "." ++ rest

theorem encloses_iff {field other : String} :
    Encloses field other ↔ segments field <+: segments other := by
  constructor
  · rintro (rfl | ⟨rest, rfl⟩)
    · exact List.prefix_rfl
    · rw [segments_dot]
      exact List.prefix_append _ _
  · rintro ⟨further, steps⟩
    by_cases done : further = []
    · rw [done, List.append_nil] at steps
      exact .inl (segments_inj steps).symm
    · refine .inr ⟨String.ofList (Text.join '.' (further.map String.toList)), ?_⟩
      have pieces := Text.join_append '.' ((segments field).map String.toList)
        (further.map String.toList) (by simpa using segments_ne_nil field) (by simpa using done)
      rw [← List.map_append, steps, ← toList_eq_join, ← toList_eq_join] at pieces
      rw [← String.toList_inj, pieces]
      simp

/-- Neither of two fields is the other one or lies below it. -/
def Apart (field other : String) : Prop := ¬Encloses field other ∧ ¬Encloses other field

/-! ## Reserved names -/

theorem isReserved_iff (field : String) :
    isReserved field = true ↔ field = idField ∨ field = modifiedField ∨ field = deletedField := by
  simp [isReserved, or_assoc]

theorem ne_of_not_isReserved {field : String} (plain : isReserved field = false) :
    field ≠ idField ∧ field ≠ modifiedField ∧ field ≠ deletedField := by
  simpa [isReserved, and_assoc] using plain

theorem flat_of_isReserved {field : String} (reserved : isReserved field = true) :
    '.' ∉ field.toList := by
  rcases (isReserved_iff field).1 reserved with rfl | rfl | rfl <;> decide

end Document
end DocStore
