import DocStore.Proofs.Sql.Meaning
import DocStore.Sql.Grants

/-!
# Patterns of paths

A node path addresses the paths that have its collection in front of their last slash.  On a
server that is said with two patterns: the collection, a slash and anything, but not with
another slash in it.  Both say the same of paths that have a slash
(`passes_pathMatches`), whatever characters the collection is made of.
-/

namespace DocStore

namespace Path

/-! ## The last slash -/

theorem splitAtLast_of_not_mem {separator : Char} {chars : List Char} (free : separator ∉ chars) :
    splitAtLast separator chars = none := by
  induction chars with
  | nil => rfl
  | cons c rest ih =>
    obtain ⟨different, absent⟩ := not_or.1 (mt List.mem_cons.2 free)
    rw [splitAtLast, ih absent]
    exact if_neg (Ne.symm different)

theorem splitAtLast_append (separator : Char) (before : List Char) {after : List Char}
    (last : separator ∉ after) :
    splitAtLast separator (before ++ separator :: after) = some (before, after) := by
  induction before with
  | nil =>
    rw [List.nil_append, splitAtLast, splitAtLast_of_not_mem last]
    exact if_pos rfl
  | cons c rest ih => rw [List.cons_append, splitAtLast, ih]

/-- A text with the separator has a last one. -/
theorem exists_last {separator : Char} {chars : List Char} (present : separator ∈ chars) :
    ∃ before after, chars = before ++ separator :: after ∧ separator ∉ after := by
  induction chars with
  | nil => cases present
  | cons c rest ih =>
    by_cases later : separator ∈ rest
    · obtain ⟨before, after, rfl, last⟩ := ih later
      exact ⟨c :: before, after, rfl, last⟩
    · rcases List.mem_cons.1 present with rfl | inRest
      · exact ⟨[], rest, rfl, later⟩
      · exact absurd inRest later

/-- Whether the path has a slash. -/
def Slashed (path : Path) : Prop := '/' ∈ path.text.toList

instance (path : Path) : Decidable path.Slashed :=
  inferInstanceAs (Decidable ('/' ∈ path.text.toList))

/-- The collection of a path stands before its last slash. -/
theorem toList_collection {path : Path} {before after : List Char}
    (text : path.text.toList = before ++ '/' :: after) (last : '/' ∉ after) :
    path.collection.toList = before := by
  unfold collection split
  rw [text, splitAtLast_append '/' before last]
  exact String.toList_ofList

/-- The identifier of a path stands behind its last slash. -/
theorem toList_documentId {path : Path} {before after : List Char}
    (text : path.text.toList = before ++ '/' :: after) (last : '/' ∉ after) :
    path.documentId.toList = after := by
  unfold documentId split
  rw [text, splitAtLast_append '/' before last]
  exact String.toList_ofList

/-- Behind a slash, the end of the text tells whether a path is a node path. -/
theorem isNode_iff_of_slash {path : Path} {before after : List Char}
    (text : path.text.toList = before ++ '/' :: after) :
    path.isNode = true ↔ after.getLast? = some '*' := by
  rw [isNode, decide_eq_true_eq, text, List.getLast?_append, List.getLast?_cons, Option.some_or,
    Option.some.injEq]
  cases after.getLast? <;> simp

/-- A node path addresses what follows its collection after one more slash. -/
theorem contains_node_iff {path other : Path} (node : path.isNode = true)
    (slashed : other.Slashed) : path.contains other = true ↔
      ∃ id, other.text.toList = path.collection.toList ++ '/' :: id ∧ '/' ∉ id := by
  rw [contains, if_pos node, beq_iff_eq]
  constructor
  · intro same
    obtain ⟨before, after, text, last⟩ := exists_last slashed
    refine ⟨after, ?_, last⟩
    rw [same, toList_collection text last, text]
  · rintro ⟨id, text, last⟩
    exact String.toList_inj.1 (toList_collection text last).symm

end Path

namespace Sql

/-! ## Patterns -/

theorem mem_suffixes_iff {suffix text : List Char} :
    suffix ∈ Wildcard.suffixes text ↔ suffix <:+ text := by
  induction text with
  | nil => simp [Wildcard.suffixes]
  | cons c rest ih => rw [Wildcard.suffixes, List.mem_cons, ih, List.suffix_cons_iff]

/-- A run in front of marks matches the texts that end with what the marks match. -/
theorem matchMarks_run_iff (marks : List Mark) (text : List Char) :
    matchMarks (.run :: marks) text = true ↔
      ∃ run rest, text = run ++ rest ∧ matchMarks marks rest = true := by
  rw [matchMarks, List.any_eq_true]
  simp only [mem_suffixes_iff]
  constructor
  · rintro ⟨rest, ⟨run, text⟩, matched⟩
    exact ⟨run, rest, text.symm, matched⟩
  · rintro ⟨run, rest, text, matched⟩
    exact ⟨rest, ⟨run, text.symm⟩, matched⟩

/-- Characters in front of marks match the texts that they start and whose rest the marks
match. -/
theorem matchMarks_chars_append (chars : List Char) (marks : List Mark) (text : List Char) :
    matchMarks (chars.map Mark.char ++ marks) text = true ↔
      ∃ rest, text = chars ++ rest ∧ matchMarks marks rest = true := by
  induction chars generalizing text with
  | nil => simp
  | cons c others ih =>
    cases text with
    | nil => simp [matchMarks]
    | cons d text =>
      simp only [List.map_cons, List.cons_append, matchMarks, Bool.and_eq_true, beq_iff_eq, ih,
        List.cons.injEq]
      grind

/-- Any run around a character matches the texts that have it. -/
theorem matchMarks_around (c : Char) (text : List Char) :
    matchMarks [.run, .char c, .run] text = true ↔ c ∈ text := by
  have starts (suffix : List Char) :
      matchMarks [.char c, .run] suffix = true ↔ ∃ rest, suffix = c :: rest := by
    have matched := matchMarks_chars [c] suffix
    rw [List.map_singleton, List.singleton_append] at matched
    rw [matched, List.isPrefixOf_iff_prefix]
    exact ⟨fun ⟨rest, same⟩ => ⟨rest, same.symm⟩, fun ⟨rest, same⟩ => ⟨rest, same.symm⟩⟩
  rw [matchMarks, List.any_eq_true]
  simp only [mem_suffixes_iff, starts]
  constructor
  · rintro ⟨_, ⟨before, text⟩, rest, rfl⟩
    rw [← text]
    exact List.mem_append_right before List.mem_cons_self
  · intro present
    obtain ⟨before, rest, rfl⟩ := List.append_of_mem present
    exact ⟨c :: rest, ⟨before, rfl⟩, rest, rfl⟩

/-- An escaped text, a slash and two percent signs around another slash match what the text
starts up to a slash and what has another slash behind it. -/
theorem isLike_nested (start text : String) :
    isLike (likeStart start ++ "/%/%") text = true ↔
      ∃ rest, text.toList = start.toList ++ '/' :: rest ∧ '/' ∈ rest := by
  have marks : readMarks (likeStart start ++ "/%/%").toList =
      (start.toList ++ ['/']).map Mark.char ++ [.run, .char '/', .run] := by
    simp [likeStart, readMarks_escapePattern, readMarks]
  rw [isLike, marks, matchMarks_chars_append]
  simp only [matchMarks_around, List.append_assoc, List.singleton_append]

theorem isLike_below_iff (start text : String) :
    isLike (likeStart start ++ "/%") text = true ↔
      ∃ rest, text.toList = start.toList ++ '/' :: rest := by
  rw [isLike_likeStart, List.isPrefixOf_iff_prefix]
  constructor
  · rintro ⟨rest, text⟩
    exact ⟨rest, by rw [← text, List.append_assoc, List.singleton_append]⟩
  · rintro ⟨rest, text⟩
    exact ⟨rest, by rw [text, List.append_assoc, List.singleton_append]⟩

/-- What a node path addresses is like the first of its patterns and not like the second. -/
theorem isLike_children_iff {path other : Path} (node : path.isNode = true)
    (slashed : other.Slashed) :
    isLike (likeStart path.collection ++ "/%") other.text = true ∧
      ¬isLike (likeStart path.collection ++ "/%/%") other.text = true ↔
        path.contains other = true := by
  rw [isLike_below_iff, isLike_nested, Path.contains_node_iff node slashed]
  constructor
  · rintro ⟨⟨id, text⟩, apart⟩
    exact ⟨id, text, fun again => apart ⟨id, text, again⟩⟩
  · rintro ⟨id, text, last⟩
    refine ⟨⟨id, text⟩, ?_⟩
    rintro ⟨rest, same, again⟩
    rw [text] at same
    cases List.append_cancel_left same
    exact last again

/-! ## Paths of rows -/

section

variable {scope : Scope} {column value : String}
  (cell : scope.row.find? column = some (.text value))

include cell

theorem passes_columnIs (text : String) :
    (Expr.columnIs column text).passes scope = (value == text) := by
  simp only [Expr.columnIs, Expr.passes_compare, Expr.eval, cell]
  rfl

theorem passes_columnLike (pattern : String) :
    (Expr.compare .like (.column column) (.bound (.text pattern))).passes scope =
      isLike pattern value := by
  simp only [Expr.passes_compare, Expr.eval, cell]
  rfl

theorem passes_columnNotLike (pattern : String) :
    (Expr.compare .notLike (.column column) (.bound (.text pattern))).passes scope =
      !isLike pattern value := by
  simp only [Expr.passes_compare, Expr.eval, cell]
  rfl

end

/-- The path of a row is matched by that of a grant if the grant's path addresses it. -/
theorem passes_pathMatches {scope : Scope} {path other : Path}
    (cell : scope.row.find? "path" = some (.text other.text)) (slashed : other.Slashed) :
    (pathMatches path).passes scope = path.contains other := by
  unfold pathMatches
  cases node : path.isNode with
  | false =>
    rw [if_neg Bool.false_ne_true, passes_columnIs cell, Path.contains, node,
      if_neg Bool.false_ne_true, Bool.eq_iff_iff, beq_iff_eq, beq_iff_eq]
    constructor
    · intro same
      cases path
      cases other
      exact congrArg Path.mk same.symm
    · intro same
      rw [same]
  | true =>
    have below : likeStart path.collection ++ "/" ++ "%" = likeStart path.collection ++ "/%" :=
      String.append_assoc
    have nested : likeStart path.collection ++ "/" ++ "%/%" =
        likeStart path.collection ++ "/%/%" := String.append_assoc
    rw [if_pos rfl, Expr.passes_and, passes_columnLike cell, passes_columnNotLike cell, below,
      nested, Bool.eq_iff_iff, Bool.and_eq_true, Bool.not_eq_true', ← Bool.not_eq_true]
    exact isLike_children_iff node slashed

end Sql
end DocStore
