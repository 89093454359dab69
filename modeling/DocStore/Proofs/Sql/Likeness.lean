import DocStore.Proofs.Filter.Regex
import DocStore.Proofs.Sql.Filtering
import DocStore.Proofs.Sql.PathPattern

/-!
# Likeness means the same on a server

A filter looks for a text with stars by a regular expression, a server by a pattern in which
stars became percent signs.  Each of the two escapes characters that the other leaves alone.

The marks of a server's pattern are those of the filter's text, one for each character
(`readMarks_likePattern`), so they match what is obtained from that text (`ilike_iff`).  Of plain
texts, both sides say the same (`like_means_same`).
-/

namespace DocStore

/-- A text of ASCII characters other than line feeds. -/
def PlainText (text : String) : Prop := ∀ c ∈ text.toList, c.toNat < 0x80 ∧ c ≠ '\n'

instance (text : String) : Decidable (PlainText text) :=
  List.decidableBAll (fun c : Char => c.toNat < 0x80 ∧ c ≠ '\n') text.toList

namespace Wildcard

/-- What a text with stars stands for: a star for any run, and another character for itself in
upper or lower case. -/
def StandsFor (pattern text : String) : Prop :=
  LikeBy (fun p c => p.toLower = c.toLower) (fun _ => True) pattern.toList text.toList

theorem sameLetter_iff {p c : Char} (ascii : p.toNat < 0x80) (other : c.toNat < 0x80) :
    SameLetter p c ↔ p.toLower = c.toLower := by
  unfold SameLetter Text.CaseFold.same Text.CaseFold.fold
  rw [if_pos ascii, if_pos other, Bool.or_eq_true, beq_iff_eq, beq_iff_eq]
  exact or_iff_right_of_imp (congrArg Char.toLower)

/-- Of plain texts, likeness has the simple meaning. -/
theorem likeBy_iff_standsFor {pattern text : String} (plain : PlainText pattern)
    (plainText : PlainText text) :
    LikeBy SameLetter FillsRun pattern.toList text.toList ↔ StandsFor pattern text :=
  LikeBy.congr
    (fun p inPattern c inText => sameLetter_iff (plain p inPattern).1 (plainText c inText).1)
    (fun c inText => iff_true_intro (plainText c inText).2)

end Wildcard

namespace Sql

/-! ## The marks of a text with stars -/

/-- The characters that mean something in a pattern or in a text with stars. -/
def signCharacters : List Char := ['\\', '%', '_', '*']

/-- The characters of a pattern for a character of a text with stars. -/
def patternChars (c : Char) : List Char :=
  if c = '*' then ['%'] else if c = '\\' ∨ c = '%' ∨ c = '_' then ['\\', c] else [c]

/-- The mark of a pattern for a character of a text with stars. -/
def charMark (fold : Char → Char) (c : Char) : Mark :=
  if c = '*' then .run else .char (fold c)

/-- A server that folds the letters of ASCII to lower case. -/
def Dialect.FoldsAscii (dialect : Dialect) : Prop :=
  ∀ c, c.toNat < 0x80 → dialect.fold c = c.toLower

theorem Dialect.foldsAscii_plain : Dialect.plain.FoldsAscii := fun _ _ => rfl

/-- Lower case neither makes nor loses a character that means something. -/
theorem toLower_eq_sign_iff {c sign : Char} (member : sign ∈ signCharacters) :
    c.toLower = sign ↔ c = sign := by
  have kept : ∀ sign ∈ signCharacters, sign.toLower = sign := by
    simp [signCharacters]
  refine ⟨fun lowered => ?_, fun same => same ▸ kept sign member⟩
  unfold Char.toLower at lowered
  split at lowered
  · -- A letter would come out behind all of the signs.
    rename_i upper
    have bounds : 65 ≤ c.toNat ∧ c.toNat ≤ 90 := upper
    have code := congrArg (·.val.toNat) lowered
    simp only [signCharacters, List.mem_cons, List.not_mem_nil, or_false] at member
    rcases member with rfl | rfl | rfl | rfl <;> simp [UInt32.toNat_add] at code <;> omega
  · exact lowered

theorem starred_escapePattern (chars : List Char) : '*' ∈ escapePattern chars ↔ '*' ∈ chars := by
  unfold escapePattern
  rw [List.mem_flatMap]
  constructor
  · rintro ⟨c, member, written⟩
    have same : '*' = c := by
      split at written <;> simpa using written
    exact same ▸ member
  · exact fun member => ⟨'*', member, by simp⟩

/-- Where stars become percent signs, every character is written as its own part. -/
theorem map_escapePattern (chars : List Char) :
    (escapePattern chars).map (fun c => if c = '*' then '%' else c) =
      chars.flatMap patternChars := by
  unfold escapePattern
  rw [List.map_flatMap]
  refine congrArg (chars.flatMap ·) (funext fun c => ?_)
  unfold patternChars
  by_cases star : c = '*'
  · simp [star]
  · split <;> simp [star]

section Marks

variable {dialect : Dialect} (folds : dialect.FoldsAscii)

include folds

/-- A folded part of a pattern is read as its mark. -/
theorem readMarks_patternChars {c : Char} (ascii : c.toNat < 0x80) (rest : List Char) :
    readMarks ((patternChars c).map dialect.fold ++ rest) =
      charMark dialect.fold c :: readMarks rest := by
  have percent : dialect.fold '%' = '%' := folds '%' (by decide)
  have backslash : dialect.fold '\\' = '\\' := folds '\\' (by decide)
  unfold patternChars charMark
  by_cases star : c = '*'
  · simp [star, percent, readMarks]
  by_cases special : c = '\\' ∨ c = '%' ∨ c = '_'
  · simp [star, special, backslash, readMarks]
  · have ordinary : ¬(dialect.fold c = '\\' ∨ dialect.fold c = '%' ∨ dialect.fold c = '_') := by
      rwa [folds c ascii, toLower_eq_sign_iff (by decide), toLower_eq_sign_iff (by decide),
        toLower_eq_sign_iff (by decide)]
    simp [star, special, readMarks_char ordinary]

/-- A folded pattern is read as the marks of its characters. -/
theorem readMarks_pattern {chars : List Char} (ascii : ∀ c ∈ chars, c.toNat < 0x80)
    (rest : List Char) :
    readMarks ((chars.flatMap patternChars).map dialect.fold ++ rest) =
      chars.map (charMark dialect.fold) ++ readMarks rest := by
  induction chars with
  | nil => rfl
  | cons c others ih =>
    obtain ⟨first, later⟩ := List.forall_mem_cons.1 ascii
    rw [List.flatMap_cons, List.map_append, List.append_assoc, readMarks_patternChars folds first,
      ih later]
    rfl

/-- The marks of a text with stars, between two runs if it has none. -/
theorem readMarks_likePattern {text : String} (ascii : ∀ c ∈ text.toList, c.toNat < 0x80) :
    readMarks (dialect.folded (likePattern text)).toList =
      if '*' ∈ text.toList then text.toList.map (charMark dialect.fold)
      else .run :: text.toList.map (charMark dialect.fold) ++ [.run] := by
  have percent : dialect.fold '%' = '%' := folds '%' (by decide)
  simp only [Dialect.folded, likePattern, String.toList_ofList, List.contains_eq_mem,
    decide_eq_true_eq, starred_escapePattern]
  by_cases starred : '*' ∈ text.toList
  · have marks := readMarks_pattern folds ascii []
    rw [List.append_nil] at marks
    simp [starred, map_escapePattern, marks, readMarks]
  · have unopened : escapePattern text.toList = text.toList.flatMap patternChars := by
      rw [← map_escapePattern]
      refine ((List.map_congr_left fun c member => if_neg ?_).trans (List.map_id _)).symm
      rintro rfl
      exact starred ((starred_escapePattern _).1 member)
    have marks := readMarks_pattern folds ascii ['%']
    simp [starred, unopened, percent, readMarks, marks]

end Marks

/-! ## What the marks match -/

/-- The marks of a pattern match what is obtained from it. -/
theorem matchMarks_pattern_iff (fold : Char → Char) (marks : List Mark) (pattern text : List Char) :
    matchMarks (pattern.map (charMark fold) ++ marks) (text.map fold) = true ↔
      ∃ front back, text = front ++ back ∧
        Wildcard.Obtained (fun p c => fold p = fold c) (fun _ => True) pattern front ∧
        matchMarks marks (back.map fold) = true := by
  induction pattern generalizing text with
  | nil =>
    simp only [List.map_nil, List.nil_append, Wildcard.obtained_nil_iff]
    constructor
    · exact fun matched => ⟨[], text, rfl, rfl, matched⟩
    · rintro ⟨_, back, rfl, rfl, matched⟩
      exact matched
  | cons p pattern ih =>
    by_cases star : p = '*'
    · subst star
      have mark : charMark fold '*' = .run := rfl
      rw [List.map_cons, mark, List.cons_append, matchMarks_run_iff]
      constructor
      · rintro ⟨_, _, split, matched⟩
        obtain ⟨run, rest, rfl, rfl, rfl⟩ := List.map_eq_append_iff.1 split
        obtain ⟨front, back, rfl, obtained, after⟩ := (ih rest).1 matched
        exact ⟨run ++ front, back, by simp, .star (fun _ _ => trivial) obtained, after⟩
      · rintro ⟨_, back, rfl, obtained, after⟩
        obtain ⟨run, rest, rfl, -, behind⟩ := Wildcard.obtained_star_iff.1 obtained
        refine ⟨run.map fold, (rest ++ back).map fold, by simp, ?_⟩
        exact (ih _).2 ⟨rest, back, rfl, behind, after⟩
    · have mark : charMark fold p = .char (fold p) := if_neg star
      rw [List.map_cons, mark, List.cons_append]
      cases text with
      | nil => simp [matchMarks, Wildcard.obtained_char_iff star]
      | cons c rest =>
        rw [List.map_cons, matchMarks, Bool.and_eq_true, beq_iff_eq, ih]
        constructor
        · rintro ⟨same, front, back, rfl, obtained, after⟩
          exact ⟨c :: front, back, rfl, .char star same obtained, after⟩
        · rintro ⟨_, back, split, obtained, after⟩
          obtain ⟨d, front, rfl, same, behind⟩ := (Wildcard.obtained_char_iff star).1 obtained
          obtain ⟨rfl, rfl⟩ := List.cons.inj split
          exact ⟨same, front, back, rfl, behind, after⟩

/-- A server finds a text like the pattern of a text with stars by what is obtained from that. -/
theorem ilike_iff {dialect : Dialect} (folds : dialect.FoldsAscii) {pattern : String}
    (ascii : ∀ c ∈ pattern.toList, c.toNat < 0x80) (text : String) :
    dialect.compareTexts text (likePattern pattern) .ilike = some true ↔
      Wildcard.LikeBy (fun p c => dialect.fold p = dialect.fold c) (fun _ => True) pattern.toList
        text.toList := by
  rw [Dialect.compareTexts, Option.some_inj, isLike, readMarks_likePattern folds ascii,
    Dialect.folded, String.toList_ofList]
  unfold Wildcard.LikeBy
  by_cases starred : '*' ∈ pattern.toList
  · have matched := matchMarks_pattern_iff dialect.fold [] pattern.toList text.toList
    rw [List.append_nil] at matched
    rw [if_pos starred, matched]
    simp [starred, matchMarks]
  · rw [if_neg starred, List.cons_append, matchMarks_run_iff]
    simp only [starred, not_false_eq_true, true_and, false_and, false_or]
    constructor
    · rintro ⟨_, _, split, matched⟩
      obtain ⟨before, rest, same, rfl, rfl⟩ := List.map_eq_append_iff.1 split
      obtain ⟨part, after, rfl, obtained, -⟩ := (matchMarks_pattern_iff _ _ _ rest).1 matched
      exact ⟨before, part, after, by simp [same], obtained⟩
    · rintro ⟨before, part, after, split, obtained⟩
      refine ⟨before.map dialect.fold, (part ++ after).map dialect.fold, by simp [split], ?_⟩
      exact (matchMarks_pattern_iff _ _ _ _).2 ⟨part, after, rfl, obtained, matchMarks_run _⟩

/-- Of plain texts, likeness on a server has the simple meaning. -/
theorem ilike_iff_standsFor {dialect : Dialect} (folds : dialect.FoldsAscii)
    {pattern text : String} (plain : PlainText pattern) (plainText : PlainText text) :
    dialect.compareTexts text (likePattern pattern) .ilike = some true ↔
      Wildcard.StandsFor pattern text := by
  rw [ilike_iff folds fun c member => (plain c member).1]
  refine Wildcard.LikeBy.congr (fun p inPattern c inText => ?_) fun _ _ => Iff.rfl
  rw [folds p (plain p inPattern).1, folds c (plainText c inText).1]

/-! ## Filters -/

/-- A field that is missing, null or a plain text. -/
def PlainField (field : Option Json) : Prop :=
  ∀ value, field = some value → value = .null ∨ ∃ text, value = .str text ∧ PlainText text

theorem PlainField.text {text : String} (plain : PlainField (some (.str text))) :
    PlainText text := by
  obtain null | ⟨_, same, plainText⟩ := plain _ rfl
  · cases null
  · cases same
    exact plainText

section Filters

variable {filter : Filter} (like : filter.operator = .like)

include like

/-- What passes a likeness filter is a text. -/
theorem accepts_iff_text {actual : Option Json} (plain : PlainField actual) :
    filter.accepts actual = true ↔
      ∃ text, actual = some (.str text) ∧ filter.accepts (some (.str text)) = true := by
  constructor
  · intro accepted
    cases actual with
    | none => simp [Filter.accepts, like, Filter.matchesLike] at accepted
    | some value =>
      obtain rfl | ⟨text, rfl, -⟩ := plain value rfl
      · simp [Filter.accepts, like, Filter.matchesLike] at accepted
      · exact ⟨text, rfl, accepted⟩
  · rintro ⟨text, rfl, accepted⟩
    exact accepted

variable (field : filter.field ≠ Document.modifiedField)

include field

/-- Texts pass a likeness filter by likeness. -/
theorem accepts_text (text : String) :
    filter.accepts (some (.str text)) = Wildcard.isLike filter.value.toText text := by
  simp only [Filter.accepts, like, Filter.matchesLike, if_neg field]
  rfl

/-- Of plain texts, those pass a likeness filter that its text stands for. -/
theorem accepts_iff_standsFor (nonempty : filter.value.toText ≠ "")
    (plain : PlainText filter.value.toText) {text : String} (plainText : PlainText text) :
    filter.accepts (some (.str text)) = true ↔
      Wildcard.StandsFor filter.value.toText text := by
  rw [accepts_text like field, Wildcard.isLike_iff, Wildcard.likeBy_iff_standsFor plain plainText]
  exact and_iff_right nonempty

/-- A plain field passes a likeness filter if a server finds it like the filter's pattern. -/
theorem accepts_iff_ilike {dialect : Dialect} (folds : dialect.FoldsAscii)
    (nonempty : filter.value.toText ≠ "") (plain : PlainText filter.value.toText)
    {actual : Option Json} (plainField : PlainField actual) :
    filter.accepts actual = true ↔ ∃ text, actual = some (.str text) ∧
      dialect.compareTexts text (likePattern filter.value.toText) .ilike = some true := by
  rw [accepts_iff_text like plainField]
  refine exists_congr fun text => and_congr_right ?_
  rintro rfl
  rw [accepts_iff_standsFor like field nonempty plain plainField.text,
    ilike_iff_standsFor folds plain plainField.text]

end Filters

/-! ## Both sides -/

/-- Likeness means the same on both sides.  A document passes the filter if its field is a text
that a server finds like the filter's pattern; the filter's regular expression is one and finds the
texts that pass; and the plain texts that pass, and those that a server finds, are the ones that
the filter's text stands for. -/
theorem like_means_same {dialect : Dialect} (folds : dialect.FoldsAscii) {filter : Filter}
    (like : filter.operator = .like) (field : filter.field ≠ Document.modifiedField)
    (nonempty : filter.value.toText ≠ "") (plain : PlainText filter.value.toText) :
    (∀ document : Document, PlainField (document.get? filter.field) →
      (filter.admits document = true ↔ ∃ text, document.get? filter.field = some (.str text) ∧
        dialect.compareTexts text (likePattern filter.value.toText) .ilike = some true)) ∧
    (∃ regex, Regex.read? (Wildcard.regexChars filter.value.toText.toList) = some regex ∧
      ∀ text, filter.accepts (some (.str text)) = true ↔ regex.Finds text.toList) ∧
    ∀ text, PlainText text →
      (filter.accepts (some (.str text)) = true ↔
        Wildcard.StandsFor filter.value.toText text) ∧
      (dialect.compareTexts text (likePattern filter.value.toText) .ilike = some true ↔
        Wildcard.StandsFor filter.value.toText text) := by
  obtain ⟨regex, read, finds⟩ := Wildcard.exists_regex filter.value.toText.toList
  refine ⟨fun document plainField => ?_, ⟨regex, read, fun text => ?_⟩, fun text plainText => ?_⟩
  · exact accepts_iff_ilike like field folds nonempty plain plainField
  · rw [accepts_text like field, Wildcard.isLike_iff, finds]
    exact and_iff_right nonempty
  · exact ⟨accepts_iff_standsFor like field nonempty plain plainText,
      ilike_iff_standsFor folds plain plainText⟩

/-- A text with a backslash, a star, a percent sign and a dot, and a name that it stands for. -/
theorem like_means_same_mixed :
    let filter : Filter := ⟨"name", .like, [.str "\\*%.B"]⟩
    let document : Document := { Document.withId "a" with fields := [("name", .str "\\x.%.b")] }
    filter.operator = .like ∧ filter.field ≠ Document.modifiedField ∧
      filter.value.toText ≠ "" ∧ PlainText filter.value.toText ∧
      PlainField (document.get? filter.field) ∧ filter.admits document = true ∧
      ∃ text, document.get? filter.field = some (.str text) ∧
        Dialect.plain.compareTexts text (likePattern filter.value.toText) .ilike = some true := by
  intro filter document
  have found : document.get? filter.field = some (.str "\\x.%.b") := rfl
  have plain : PlainText filter.value.toText := by decide
  have plainField : PlainField (document.get? filter.field) := by
    rw [found]
    rintro _ ⟨⟩
    exact .inr ⟨_, rfl, by decide⟩
  have same := like_means_same Dialect.foldsAscii_plain (show filter.operator = .like from rfl)
    (by decide) (by decide) plain
  have admitted : filter.admits document = true := by decide
  exact ⟨rfl, by decide, by decide, plain, plainField, admitted,
    (same.1 document plainField).1 admitted⟩

end Sql
end DocStore
