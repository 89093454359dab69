import DocStore.Text.Split

/-!
# Pieces between separators

Splitting undoes joining where no piece contains the separator (`splitOn_join`), and the pieces of
a text do not contain it.
-/

namespace DocStore.Text

/-- No piece contains the separator. -/
theorem not_mem_of_mem_splitOn {separator : Char} {chars piece : List Char}
    (member : piece ∈ splitOn separator chars) : separator ∉ piece := by
  induction chars generalizing piece with
  | nil => simp [List.mem_singleton.1 member]
  | cons c rest ih =>
    by_cases same : c = separator
    · rw [splitOn, if_pos same, List.mem_cons] at member
      rcases member with rfl | later
      · exact List.not_mem_nil
      · exact ih later
    · obtain ⟨first, others, pieces⟩ := List.exists_cons_of_ne_nil (splitOn_ne_nil separator rest)
      simp only [pieces, List.mem_cons] at ih
      simp only [splitOn, if_neg same, pieces, List.mem_cons] at member
      rcases member with rfl | later
      · simp [Ne.symm same, ih (.inl rfl)]
      · exact ih (.inr later)

/-- The pieces around a separator are those before it and those behind it. -/
theorem splitOn_append_cons (separator : Char) (before after : List Char) :
    splitOn separator (before ++ separator :: after) =
      splitOn separator before ++ splitOn separator after := by
  induction before with
  | nil => simp [splitOn]
  | cons c rest ih =>
    by_cases same : c = separator
    · simp [splitOn, same, ih]
    · obtain ⟨first, others, pieces⟩ := List.exists_cons_of_ne_nil (splitOn_ne_nil separator rest)
      simp [splitOn, same, ih, pieces]

theorem splitOn_of_not_mem {separator : Char} {piece : List Char} (free : separator ∉ piece) :
    splitOn separator piece = [piece] := by
  induction piece with
  | nil => rfl
  | cons c rest ih =>
    obtain ⟨other, others⟩ : separator ≠ c ∧ separator ∉ rest := by simpa using free
    rw [splitOn, if_neg (Ne.symm other), ih others]

theorem splitOn_append {separator : Char} {piece : List Char} (free : separator ∉ piece)
    (rest : List Char) :
    splitOn separator (piece ++ separator :: rest) = piece :: splitOn separator rest := by
  rw [splitOn_append_cons, splitOn_of_not_mem free]
  rfl

/-- Splitting undoes joining where no piece contains the separator. -/
theorem splitOn_intercalate {separator : Char} {pieces : List (List Char)} (some : pieces ≠ [])
    (free : ∀ piece ∈ pieces, separator ∉ piece) :
    splitOn separator ([separator].intercalate pieces) = pieces := by
  induction pieces with
  | nil => exact absurd rfl some
  | cons piece rest ih =>
    have first := free piece List.mem_cons_self
    cases rest with
    | nil => simpa using splitOn_of_not_mem first
    | cons next others =>
      have later := ih (List.cons_ne_nil _ _) fun other member =>
        free other (List.mem_cons_of_mem _ member)
      rw [List.intercalate_cons_cons, List.append_assoc, List.singleton_append,
        splitOn_append first, later]

theorem join_append (separator : Char) (before after : List (List Char)) (some : before ≠ [])
    (more : after ≠ []) :
    join separator (before ++ after) =
      join separator before ++ separator :: join separator after := by
  induction before with
  | nil => exact absurd rfl some
  | cons piece rest ih =>
    obtain ⟨next, others, pieces⟩ := List.exists_cons_of_ne_nil more
    cases rest with
    | nil => simp [join, pieces]
    | cons second further => simpa [join] using ih (List.cons_ne_nil _ _)

theorem join_eq_intercalate (separator : Char) (pieces : List (List Char)) :
    join separator pieces = [separator].intercalate pieces := by
  induction pieces with
  | nil => rfl
  | cons piece rest ih =>
    cases rest with
    | nil => simp [join]
    | cons next others =>
      rw [List.intercalate_cons_cons, join, ih, List.append_assoc, List.singleton_append]

theorem splitOn_join {separator : Char} {pieces : List (List Char)} (some : pieces ≠ [])
    (free : ∀ piece ∈ pieces, separator ∉ piece) :
    splitOn separator (join separator pieces) = pieces := by
  rw [join_eq_intercalate]
  exact splitOn_intercalate some free

theorem mem_join {separator c : Char} {pieces : List (List Char)}
    (member : c ∈ join separator pieces) : c = separator ∨ ∃ piece ∈ pieces, c ∈ piece := by
  induction pieces with
  | nil => cases member
  | cons piece rest ih =>
    cases rest with
    | nil => exact .inr ⟨piece, List.mem_cons_self, member⟩
    | cons next others =>
      rcases List.mem_append.1 member with inside | behind
      · exact .inr ⟨piece, List.mem_cons_self, inside⟩
      · rcases List.mem_cons.1 behind with same | later
        · exact .inl same
        · exact (ih later).imp_right fun ⟨other, among, inside⟩ =>
            ⟨other, List.mem_cons_of_mem _ among, inside⟩

/-! ## Beginnings -/

variable {p : Char → Bool} {start rest : List Char}

/-- What is taken while something holds ends where it ends to hold. -/
theorem takeWhile_append_stop (inside : ∀ c ∈ start, p c = true)
    (stops : ∀ c, rest.head? = some c → p c = false) : (start ++ rest).takeWhile p = start := by
  rw [List.takeWhile_append_of_pos inside]
  cases rest with
  | nil => simp
  | cons c rest => simp [stops c rfl]

theorem dropWhile_append_stop (inside : ∀ c ∈ start, p c = true)
    (stops : ∀ c, rest.head? = some c → p c = false) : (start ++ rest).dropWhile p = rest := by
  rw [List.dropWhile_append_of_pos inside]
  cases rest with
  | nil => rfl
  | cons c rest => simp [stops c rfl]

end DocStore.Text
