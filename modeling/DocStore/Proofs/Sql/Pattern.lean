import DocStore.Sql.Predicate

/-!
# What patterns match

A pattern is read as a list of marks: a percent sign is any run of characters, an
underscore any one, a character behind a backslash that character, and every other
character itself.  A text that is escaped (`likeStart`) is read as its own characters, so
in front of a slash and a percent sign it matches the texts that it starts, up to a slash
(`isLike_likeStart`).
-/

namespace DocStore
namespace Sql

/-- A part of a pattern. -/
inductive Mark where
  /-- Any run of characters. -/
  | run
  /-- Any one character. -/
  | one
  /-- The given character. -/
  | char (c : Char)

/-- Reads a pattern. -/
def readMarks : List Char → List Mark
  | [] => []
  | '\\' :: c :: rest => .char c :: readMarks rest
  | '%' :: rest => .run :: readMarks rest
  | '_' :: rest => .one :: readMarks rest
  | c :: rest => .char c :: readMarks rest

/-- Whether marks match a whole text. -/
def matchMarks : List Mark → List Char → Bool
  | [], text => text.isEmpty
  | .run :: marks, text => (Wildcard.suffixes text).any (matchMarks marks)
  | .one :: marks, _ :: text => matchMarks marks text
  | .char c :: marks, d :: text => c == d && matchMarks marks text
  | _ :: _, [] => false

/-- Whether a text is like a pattern. -/
def isLike (pattern text : String) : Bool := matchMarks (readMarks pattern.toList) text.toList

theorem readMarks_char {c : Char} (plain : ¬(c = '\\' ∨ c = '%' ∨ c = '_')) (rest : List Char) :
    readMarks (c :: rest) = .char c :: readMarks rest := by
  rw [readMarks] <;> grind

/-- An escaped text is read as its own characters. -/
theorem readMarks_escapePattern (chars rest : List Char) :
    readMarks (escapePattern chars ++ rest) = chars.map Mark.char ++ readMarks rest := by
  induction chars with
  | nil => rfl
  | cons c others ih =>
    have split : escapePattern (c :: others) ++ rest =
        (if c = '\\' ∨ c = '%' ∨ c = '_' then ['\\', c] else [c]) ++
          (escapePattern others ++ rest) := by
      simp [escapePattern]
    rw [split]
    by_cases special : c = '\\' ∨ c = '%' ∨ c = '_'
    · simp [special, readMarks, ih]
    · simp [special, readMarks_char special, ih]

theorem matchMarks_run (text : List Char) : matchMarks [.run] text = true := by
  induction text with
  | nil => rfl
  | cons c rest ih => simpa [matchMarks, Wildcard.suffixes] using ih

/-- Characters match the text that they start. -/
theorem matchMarks_chars (chars : List Char) (text : List Char) :
    matchMarks (chars.map Mark.char ++ [.run]) text = chars.isPrefixOf text := by
  induction chars generalizing text with
  | nil => simpa using matchMarks_run text
  | cons c others ih =>
    cases text with
    | nil => rfl
    | cons d rest => simp [matchMarks, ih, List.isPrefixOf]

/-- A text that is escaped in front of a slash and a percent sign matches what it starts, up
to a slash. -/
theorem isLike_likeStart (start text : String) :
    isLike (likeStart start ++ "/%") text = (start.toList ++ ['/']).isPrefixOf text.toList := by
  have marks : readMarks (likeStart start ++ "/%").toList =
      (start.toList ++ ['/']).map Mark.char ++ [.run] := by
    simp [likeStart, readMarks_escapePattern, readMarks]
  rw [isLike, marks, matchMarks_chars]

end Sql
end DocStore
