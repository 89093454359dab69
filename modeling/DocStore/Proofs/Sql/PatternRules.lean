import DocStore.Proofs.Sql.PathPattern

/-!
# The rules of patterns

A percent sign in a pattern is any run of characters, an underscore any one character, and a
backslash takes the character behind it as it is (`Like`).  Patterns that do not end in a lone
backslash match by these rules what their marks match (`isLike_iff`).

A text is escaped in three steps, its backslashes first (`escapePattern_eq`), and then stands for
itself: with a slash and a percent sign behind it, it matches what it starts, up to a slash, and the
two patterns of a node path match what the path addresses (`escaped_starts_literal`).
-/

namespace DocStore
namespace Sql

/-! ## Rules -/

/-- The characters of patterns that do not stand for themselves. -/
def patternSigns : List Char := ['\\', '%', '_']

/-- What is like a pattern. -/
inductive Like : List Char → List Char → Prop
  /-- Nothing is like nothing. -/
  | done : Like [] []
  /-- A percent sign is any run of characters. -/
  | run {pattern rest : List Char} (skipped : List Char) :
      Like pattern rest → Like ('%' :: pattern) (skipped ++ rest)
  /-- An underscore is any one character. -/
  | one {pattern rest : List Char} (c : Char) :
      Like pattern rest → Like ('_' :: pattern) (c :: rest)
  /-- A backslash takes a character as it is. -/
  | escaped {pattern rest : List Char} (c : Char) :
      Like pattern rest → Like ('\\' :: c :: pattern) (c :: rest)
  /-- Every other character stands for itself. -/
  | plain {pattern rest : List Char} {c : Char} (unsigned : c ∉ patternSigns) :
      Like pattern rest → Like (c :: pattern) (c :: rest)

/-- Whether no backslash stands alone at the end of a pattern. -/
def isComplete : List Char → Bool
  | [] => true
  | ['\\'] => false
  | '\\' :: _ :: rest => isComplete rest
  | _ :: rest => isComplete rest

theorem isComplete_cons {c : Char} {rest : List Char} (other : c ≠ '\\') :
    isComplete (c :: rest) = isComplete rest := by
  cases rest <;> simp [isComplete, other]

theorem like_nil_iff {text : List Char} : Like [] text ↔ text = [] := by
  constructor
  · rintro ⟨⟩
    rfl
  · rintro rfl
    exact .done

theorem like_run_iff {pattern text : List Char} :
    Like ('%' :: pattern) text ↔ ∃ skipped rest, text = skipped ++ rest ∧ Like pattern rest := by
  constructor
  · intro like
    cases like with
    | run skipped like => exact ⟨skipped, _, rfl, like⟩
    | plain unsigned => exact absurd (by decide) unsigned
  · rintro ⟨skipped, rest, rfl, like⟩
    exact .run skipped like

theorem like_one_iff {pattern text : List Char} :
    Like ('_' :: pattern) text ↔ ∃ c rest, text = c :: rest ∧ Like pattern rest := by
  constructor
  · intro like
    cases like with
    | one c like => exact ⟨c, _, rfl, like⟩
    | plain unsigned => exact absurd (by decide) unsigned
  · rintro ⟨c, rest, rfl, like⟩
    exact .one c like

theorem like_escaped_iff {pattern text : List Char} {c : Char} :
    Like ('\\' :: c :: pattern) text ↔ ∃ rest, text = c :: rest ∧ Like pattern rest := by
  constructor
  · intro like
    cases like with
    | escaped c like => exact ⟨_, rfl, like⟩
    | plain unsigned => exact absurd (by decide) unsigned
  · rintro ⟨rest, rfl, like⟩
    exact .escaped c like

theorem like_plain_iff {pattern text : List Char} {c : Char} (unsigned : c ∉ patternSigns) :
    Like (c :: pattern) text ↔ ∃ rest, text = c :: rest ∧ Like pattern rest := by
  constructor
  · intro like
    cases like with
    | plain _ like => exact ⟨_, rfl, like⟩
    | run | one | escaped => exact absurd (by decide) unsigned
  · rintro ⟨rest, rfl, like⟩
    exact .plain unsigned like

theorem matchMarks_char_iff (c : Char) (marks : List Mark) (text : List Char) :
    matchMarks (.char c :: marks) text = true ↔
      ∃ rest, text = c :: rest ∧ matchMarks marks rest = true :=
  matchMarks_chars_append [c] marks text

theorem matchMarks_one_iff (marks : List Mark) (text : List Char) :
    matchMarks (.one :: marks) text = true ↔
      ∃ c rest, text = c :: rest ∧ matchMarks marks rest = true := by
  cases text with
  | nil => simp [matchMarks]
  | cons c rest =>
    rw [matchMarks]
    constructor
    · exact fun matched => ⟨c, rest, rfl, matched⟩
    · rintro ⟨_, _, ⟨⟩, matched⟩
      exact matched

/-- The marks of a complete pattern match what is like it. -/
theorem matchMarks_readMarks_iff {pattern : List Char} (complete : isComplete pattern = true)
    (text : List Char) : matchMarks (readMarks pattern) text = true ↔ Like pattern text := by
  fun_induction readMarks pattern generalizing text with
  | case1 => simp [matchMarks, like_nil_iff]
  | case2 c rest ih =>
    rw [matchMarks_char_iff, like_escaped_iff]
    exact exists_congr fun others => and_congr_right fun _ => ih complete others
  | case3 rest ih =>
    rw [matchMarks_run_iff, like_run_iff]
    exact exists₂_congr fun skipped others => and_congr_right fun _ => ih complete others
  | case4 rest ih =>
    rw [matchMarks_one_iff, like_one_iff]
    exact exists₂_congr fun c others => and_congr_right fun _ => ih complete others
  | case5 c rest noEscape noRun noOne ih =>
    by_cases backslash : c = '\\'
    · -- A backslash that escapes nothing is the last character.
      subst backslash
      cases rest with
      | nil => exact absurd complete (by decide)
      | cons d others => exact (noEscape d others rfl rfl).elim
    · have unsigned : c ∉ patternSigns := by
        simp only [patternSigns, List.mem_cons, List.not_mem_nil, or_false, not_or]
        exact ⟨backslash, noRun, noOne⟩
      rw [matchMarks_char_iff, like_plain_iff unsigned]
      exact exists_congr fun others => and_congr_right fun _ =>
        ih (isComplete_cons backslash ▸ complete) others

/-- A text is like a complete pattern by the rules. -/
theorem isLike_iff {pattern : String} (complete : isComplete pattern.toList = true) (text : String) :
    isLike pattern text = true ↔ Like pattern.toList text.toList :=
  matchMarks_readMarks_iff complete text.toList

/-! ## Escaped texts -/

/-- Puts a backslash in front of a character wherever it occurs. -/
def escapeChar (sign : Char) (chars : List Char) : List Char :=
  chars.flatMap fun c => if c = sign then ['\\', c] else [c]

/-- Escaping backslashes, then percent signs and then underscores escapes each of them once: what
is put in later is not escaped again. -/
theorem escapePattern_eq (chars : List Char) :
    escapePattern chars = escapeChar '_' (escapeChar '%' (escapeChar '\\' chars)) := by
  simp only [escapePattern, escapeChar, List.flatMap_assoc]
  refine congrArg (chars.flatMap ·) (funext fun c => ?_)
  by_cases backslash : c = '\\'
  · subst backslash
    rfl
  by_cases percent : c = '%'
  · subst percent
    rfl
  by_cases underscore : c = '_'
  · subst underscore
    rfl
  simp [backslash, percent, underscore]

/-- What follows an escaped text decides whether the pattern is complete. -/
theorem isComplete_escapePattern (chars rest : List Char) :
    isComplete (escapePattern chars ++ rest) = isComplete rest := by
  induction chars with
  | nil => rfl
  | cons c others ih =>
    rw [← ih, escapePattern, List.flatMap_cons, List.append_assoc]
    by_cases special : c = '\\' ∨ c = '%' ∨ c = '_'
    · rw [if_pos special]
      rfl
    · rw [if_neg special]
      exact isComplete_cons fun backslash => special (.inl backslash)

theorem isComplete_likeStart (start rest : String) :
    isComplete (likeStart start ++ rest).toList = isComplete rest.toList := by
  rw [String.toList_append, likeStart, String.toList_ofList, isComplete_escapePattern]

/-! ## Literal starts -/

/-- Escaped in three steps, a text with a slash and a percent sign behind it is a pattern of what
begins with the text and a slash, whatever the text is made of.  The patterns that a grant on a node
path asks for, of which the first is to match and the second is not, tell of every path with a slash
whether the node path addresses it. -/
theorem escaped_starts_literal :
    (∀ start : String, likeStart start =
      String.ofList (escapeChar '_' (escapeChar '%' (escapeChar '\\' start.toList)))) ∧
    (∀ start text : String, Like (likeStart start ++ "/%").toList text.toList ↔
      (start ++ "/").toList <+: text.toList) ∧
    ∀ grant : Grant, grant.path.isNode = true → ∃ below nested : String,
      grantMatches grant = .paren (.and (Expr.columnIs "permission" grant.permission)
        (.and (.compare .like (.column "path") (.bound (.text below)))
          (.compare .notLike (.column "path") (.bound (.text nested))))) ∧
      ∀ path : Path, path.Slashed →
        (Like below.toList path.text.toList ∧ ¬Like nested.toList path.text.toList ↔
          grant.path.contains path = true) := by
  have below (start : String) : isComplete (likeStart start ++ "/%").toList = true :=
    isComplete_likeStart start "/%"
  have nested (start : String) : isComplete (likeStart start ++ "/%/%").toList = true :=
    isComplete_likeStart start "/%/%"
  refine ⟨fun start => ?_, fun start text => ?_, fun grant node => ?_⟩
  · rw [likeStart, escapePattern_eq]
  · rw [← isLike_iff (below start), isLike_likeStart, List.isPrefixOf_iff_prefix,
      String.toList_append]
    rfl
  · refine ⟨likeStart grant.path.collection ++ "/%", likeStart grant.path.collection ++ "/%/%",
      ?_, fun path slashed => ?_⟩
    · rw [grantMatches, pathMatches, if_pos node]
      simp only [String.append_assoc]
      rfl
    · rw [← isLike_iff (below _), ← isLike_iff (nested _)]
      exact isLike_children_iff node slashed

/-- A collection with all of the signs, the last of them at its end. -/
theorem escaped_starts_literal_signs :
    (Path.mk "/50%_\\/*").isNode = true ∧ (Path.mk "/50%_\\/x").Slashed ∧
      ∃ below nested : String,
        grantMatches ⟨"read", ⟨"/50%_\\/*"⟩⟩ =
          .paren (.and (Expr.columnIs "permission" "read")
            (.and (.compare .like (.column "path") (.bound (.text below)))
              (.compare .notLike (.column "path") (.bound (.text nested))))) ∧
        Like below.toList "/50%_\\/x".toList ∧ ¬Like nested.toList "/50%_\\/x".toList := by
  have node : (Path.mk "/50%_\\/*").isNode = true := by decide
  have slashed : (Path.mk "/50%_\\/x").Slashed := by decide
  obtain ⟨below, nested, condition, addressed⟩ :=
    escaped_starts_literal.2.2 ⟨"read", ⟨"/50%_\\/*"⟩⟩ node
  exact ⟨node, slashed, below, nested, condition,
    (addressed ⟨"/50%_\\/x"⟩ slashed).2 (by decide)⟩

end Sql
end DocStore
