/-!
# Splitting at a separator

The pieces of a text between the occurrences of a separator, empty pieces
included, so joining the pieces with the separator gives the text back
(`join_splitOn`).
-/

namespace DocStore.Text

/-- The pieces between the occurrences of a separator: always one more than there
are occurrences. -/
def splitOn (separator : Char) : List Char → List (List Char)
  | [] => [[]]
  | c :: rest =>
    if c = separator then [] :: splitOn separator rest
    else
      match splitOn separator rest with
      | first :: others => (c :: first) :: others
      | [] => [[c]]

/-- Pieces joined by a separator. -/
def join (separator : Char) : List (List Char) → List Char
  | [] => []
  | [piece] => piece
  | piece :: next :: others => piece ++ separator :: join separator (next :: others)

theorem splitOn_ne_nil (separator : Char) (chars : List Char) : splitOn separator chars ≠ [] := by
  cases chars with
  | nil => simp [splitOn]
  | cons c rest =>
    unfold splitOn
    split
    · simp
    · split <;> simp

/-- Joining undoes splitting. -/
theorem join_splitOn (separator : Char) (chars : List Char) :
    join separator (splitOn separator chars) = chars := by
  induction chars with
  | nil => rfl
  | cons c rest ih =>
    have nonempty := splitOn_ne_nil separator rest
    unfold splitOn
    split
    · rename_i same
      match h : splitOn separator rest, nonempty with
      | first :: others, _ => rw [h] at ih; simp [join, ih, same]
    · match h : splitOn separator rest, nonempty with
      | [first], _ => rw [h] at ih; simp [join] at ih ⊢; exact ih
      | first :: second :: others, _ => rw [h] at ih; simp [join] at ih ⊢; exact ih

/-- The pieces of a text as texts. -/
def splitText (separator : Char) (text : String) : List String :=
  (splitOn separator text.toList).map String.ofList

/-- What follows a given beginning of a list, if the list begins so. -/
def afterStart? : List Char → List Char → Option (List Char)
  | [], chars => some chars
  | _ :: _, [] => none
  | s :: start, c :: rest => if s = c then afterStart? start rest else none

end DocStore.Text
