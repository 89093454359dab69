import Mathlib.Data.List.Infix

/-!
# Parentheses and words in texts

Parentheses are balanced where each one is closed and none is closed that was not opened
(`Nested`).  A word that lacks a character does not reach over it, so that its occurrences on
both sides add up (`occurrences_append_cons`), and where its first letter is missing it does not
occur (`occurrences_append_of_not_mem`).
-/

namespace DocStore.Text

/-! ## Parentheses -/

/-- The depth of parentheses behind a character, if none is closed that was not opened. -/
def nest : Option Nat → Char → Option Nat
  | some depth, '(' => some (depth + 1)
  | some 0, ')' => none
  | some (depth + 1), ')' => some depth
  | depth, _ => depth

/-- The parentheses of a text are balanced. -/
def Nested (chars : List Char) : Prop := chars.foldl nest (some 0) = some 0

instance : DecidablePred Nested := fun chars =>
  inferInstanceAs (Decidable (chars.foldl nest (some 0) = some 0))

theorem nest_of_ne {c : Char} (noOpening : c ≠ '(') (noClosing : c ≠ ')') (depth : Option Nat) :
    nest depth c = depth := by
  unfold nest
  split <;> first | rfl | contradiction

/-- A text without parentheses leaves the depth as it is. -/
theorem foldl_nest_of_flat {chars : List Char} (noOpening : '(' ∉ chars) (noClosing : ')' ∉ chars)
    (depth : Option Nat) : chars.foldl nest depth = depth := by
  induction chars with
  | nil => rfl
  | cons c rest ih =>
    have flat : nest depth c = depth :=
      nest_of_ne (List.ne_of_not_mem_cons noOpening).symm (List.ne_of_not_mem_cons noClosing).symm
        depth
    rw [List.foldl_cons, flat]
    exact ih (List.not_mem_of_not_mem_cons noOpening) (List.not_mem_of_not_mem_cons noClosing)

/-! ## Occurrences of a word -/

/-- How many times a word occurs in a text. -/
def occurrences (word chars : List Char) : Nat := chars.tails.countP word.isPrefixOf

theorem occurrences_cons (word : List Char) (c : Char) (rest : List Char) :
    occurrences word (c :: rest) =
      occurrences word rest + if word.isPrefixOf (c :: rest) then 1 else 0 := by
  rw [occurrences, List.tails_cons, List.countP_cons, occurrences]

/-- A text without the first letter of a word holds no beginning of it. -/
theorem occurrences_append_of_not_mem {letter : Char} {chars : List Char}
    (absent : letter ∉ chars) (word rest : List Char) :
    occurrences (letter :: word) (chars ++ rest) = occurrences (letter :: word) rest := by
  induction chars with
  | nil => rfl
  | cons c more ih =>
    have apart : (letter :: word).isPrefixOf (c :: (more ++ rest)) = false := by
      rw [List.isPrefixOf_cons_cons, beq_eq_false_iff_ne.2 (List.ne_of_not_mem_cons absent),
        Bool.false_and]
    rw [List.cons_append, occurrences_cons, apart, ih (List.not_mem_of_not_mem_cons absent)]
    rfl

/-- A word does not reach over a character that it does not have. -/
theorem isPrefixOf_append_cons {word : List Char} {stop : Char} (absent : stop ∉ word)
    (chars rest : List Char) :
    word.isPrefixOf (chars ++ stop :: rest) = word.isPrefixOf chars := by
  induction word generalizing chars with
  | nil => rfl
  | cons letter word ih =>
    cases chars with
    | nil =>
      rw [List.nil_append, List.isPrefixOf_cons_cons,
        beq_eq_false_iff_ne.2 (List.ne_of_not_mem_cons absent).symm, Bool.false_and]
      rfl
    | cons c more =>
      rw [List.cons_append, List.isPrefixOf_cons_cons, List.isPrefixOf_cons_cons,
        ih (List.not_mem_of_not_mem_cons absent)]

/-- Occurrences on both sides of such a character add up. -/
theorem occurrences_append_cons {letter stop : Char} {word : List Char}
    (absent : stop ∉ letter :: word) (chars rest : List Char) :
    occurrences (letter :: word) (chars ++ stop :: rest) =
      occurrences (letter :: word) chars + occurrences (letter :: word) (stop :: rest) := by
  induction chars with
  | nil => exact (Nat.zero_add _).symm
  | cons c more ih =>
    have same := isPrefixOf_append_cons absent (c :: more) rest
    rw [List.cons_append] at same
    rw [List.cons_append, occurrences_cons, occurrences_cons, ih, same]
    omega

end DocStore.Text
