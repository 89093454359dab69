import DocStore.Filter.Wildcard

/-!
# What patterns with stars stand for

A text is obtained from a pattern by putting a run of characters for each star and a character of
its kind for each other character (`Wildcard.Obtained`).  The texts that a pattern covers are the
ones obtained from it, a text occurs in another one if a part of that is obtained from it, and
likeness is one or the other (`Wildcard.isLike_iff`).
-/

namespace DocStore
namespace Wildcard

/-- Whether a text is obtained from a pattern.  Runs are made of characters that `filling` admits,
and a character stands for those that are `alike`. -/
inductive Obtained (alike : Char → Char → Prop) (filling : Char → Prop) :
    List Char → List Char → Prop
  /-- Nothing is obtained from nothing. -/
  | done : Obtained alike filling [] []
  /-- A star stands for any run. -/
  | star {pattern run rest : List Char} (fills : ∀ c ∈ run, filling c)
      (obtained : Obtained alike filling pattern rest) :
      Obtained alike filling ('*' :: pattern) (run ++ rest)
  /-- Any other character stands for one character. -/
  | char {p c : Char} {pattern rest : List Char} (other : p ≠ '*') (same : alike p c)
      (obtained : Obtained alike filling pattern rest) :
      Obtained alike filling (p :: pattern) (c :: rest)

/-- Whether a text is like a pattern: with a star the whole text is obtained from it, and without
one a part of it is. -/
def LikeBy (alike : Char → Char → Prop) (filling : Char → Prop) (pattern text : List Char) : Prop :=
  ('*' ∈ pattern ∧ Obtained alike filling pattern text) ∨
    '*' ∉ pattern ∧ ∃ before part after,
      text = before ++ part ++ after ∧ Obtained alike filling pattern part

section Obtained

variable {alike other : Char → Char → Prop} {filling room : Char → Prop}

theorem obtained_nil_iff {text : List Char} : Obtained alike filling [] text ↔ text = [] := by
  constructor
  · rintro ⟨⟩
    rfl
  · rintro rfl
    exact .done

theorem obtained_star_iff {pattern text : List Char} :
    Obtained alike filling ('*' :: pattern) text ↔
      ∃ run rest, text = run ++ rest ∧ (∀ c ∈ run, filling c) ∧
        Obtained alike filling pattern rest := by
  constructor
  · intro obtained
    cases obtained with
    | star fills rest => exact ⟨_, _, rfl, fills, rest⟩
    | char different _ _ => exact absurd rfl different
  · rintro ⟨run, rest, rfl, fills, obtained⟩
    exact .star fills obtained

theorem obtained_char_iff {p : Char} (plain : p ≠ '*') {pattern text : List Char} :
    Obtained alike filling (p :: pattern) text ↔
      ∃ c rest, text = c :: rest ∧ alike p c ∧ Obtained alike filling pattern rest := by
  constructor
  · intro obtained
    cases obtained with
    | star _ _ => exact absurd rfl plain
    | char _ same rest => exact ⟨_, _, rfl, same, rest⟩
  · rintro ⟨c, rest, rfl, same, obtained⟩
    exact .char plain same obtained

/-- What is obtained depends on which characters of the pattern and of the text are alike, and on
which characters of the text fill runs. -/
theorem Obtained.mono {pattern text : List Char} (obtained : Obtained alike filling pattern text)
    (alikes : ∀ p ∈ pattern, ∀ c ∈ text, alike p c → other p c)
    (fillings : ∀ c ∈ text, filling c → room c) : Obtained other room pattern text := by
  induction obtained with
  | done => exact .done
  | star fills _ ih =>
    refine .star (fun c member => fillings c (List.mem_append_left _ member) (fills c member)) ?_
    exact ih
      (fun p inPattern c inRest =>
        alikes p (List.mem_cons_of_mem _ inPattern) c (List.mem_append_right _ inRest))
      (fun c inRest => fillings c (List.mem_append_right _ inRest))
  | char different same _ ih =>
    refine .char different (alikes _ List.mem_cons_self _ List.mem_cons_self same) ?_
    exact ih
      (fun p inPattern c inRest =>
        alikes p (List.mem_cons_of_mem _ inPattern) c (List.mem_cons_of_mem _ inRest))
      (fun c inRest => fillings c (List.mem_cons_of_mem _ inRest))

/-- Likeness depends on which characters of the pattern and of the text are alike, and on which
characters of the text fill runs. -/
theorem LikeBy.congr {pattern text : List Char}
    (alikes : ∀ p ∈ pattern, ∀ c ∈ text, alike p c ↔ other p c)
    (fillings : ∀ c ∈ text, filling c ↔ room c) :
    LikeBy alike filling pattern text ↔ LikeBy other room pattern text := by
  have within {part : List Char} (sub : ∀ c ∈ part, c ∈ text) :
      Obtained alike filling pattern part ↔ Obtained other room pattern part :=
    ⟨fun obtained => obtained.mono
        (fun p inPattern c inPart => (alikes p inPattern c (sub c inPart)).1)
        (fun c inPart => (fillings c (sub c inPart)).1),
      fun obtained => obtained.mono
        (fun p inPattern c inPart => (alikes p inPattern c (sub c inPart)).2)
        (fun c inPart => (fillings c (sub c inPart)).2)⟩
  refine or_congr (and_congr_right fun _ => within fun _ => id) (and_congr_right fun _ => ?_)
  refine exists₃_congr fun before part after => and_congr_right ?_
  rintro rfl
  exact within fun c inPart => List.mem_append_left _ (List.mem_append_right _ inPart)

end Obtained

/-! ## What is found out -/

/-- The characters that a run is made of. -/
def FillsRun (c : Char) : Prop := c ≠ '\n'

/-- Characters that are the same but for case. -/
def SameLetter (p c : Char) : Prop := Text.CaseFold.same p c = true

/-- A pattern covers the texts obtained from it. -/
theorem covers_iff (pattern text : List Char) :
    covers pattern text = true ↔ Obtained SameLetter FillsRun pattern text := by
  induction pattern generalizing text with
  | nil => rw [covers_nil, List.isEmpty_iff, obtained_nil_iff]
  | cons p pattern ih =>
    by_cases star : p = '*'
    · subst star
      rw [obtained_star_iff]
      induction text with
      | nil => simp [covers, ih, and_assoc]
      | cons c rest inner =>
        rw [covers_cons_cons, if_pos rfl, Bool.or_eq_true, Bool.and_eq_true, bne_iff_ne, ih, inner]
        constructor
        · rintro (here | ⟨fills, run, behind, rfl, runFills, obtained⟩)
          · exact ⟨[], c :: rest, rfl, by simp, here⟩
          · exact ⟨c :: run, behind, rfl, List.forall_mem_cons.2 ⟨fills, runFills⟩, obtained⟩
        · rintro ⟨_ | ⟨d, run⟩, behind, text, runFills, obtained⟩
          · exact .inl (text ▸ obtained)
          · obtain ⟨rfl, rfl⟩ := List.cons.inj text
            obtain ⟨fills, others⟩ := List.forall_mem_cons.1 runFills
            exact .inr ⟨fills, run, behind, rfl, others, obtained⟩
    · rw [obtained_char_iff star]
      cases text with
      | nil => simp [covers_cons_nil, star]
      | cons c rest =>
        rw [covers_cons_cons, if_neg star, Bool.and_eq_true, ih]
        simp [SameLetter, and_assoc]

/-- A text starts with what is obtained from another text. -/
theorem startsWith_iff {pattern : List Char} (plain : '*' ∉ pattern) (text : List Char) :
    startsWith pattern text = true ↔
      ∃ part after, text = part ++ after ∧ Obtained SameLetter FillsRun pattern part := by
  induction pattern generalizing text with
  | nil => simp [startsWith, obtained_nil_iff]
  | cons p pattern ih =>
    obtain ⟨notStar, others⟩ := not_or.1 (mt List.mem_cons.2 plain)
    simp only [obtained_char_iff (Ne.symm notStar)]
    cases text with
    | nil => simp [startsWith]
    | cons c rest =>
      rw [startsWith, Bool.and_eq_true, ih others]
      constructor
      · rintro ⟨same, part, after, rfl, obtained⟩
        exact ⟨c :: part, after, rfl, c, part, rfl, same, obtained⟩
      · rintro ⟨_, after, text, d, part, rfl, same, obtained⟩
        obtain ⟨rfl, rfl⟩ := List.cons.inj text
        exact ⟨same, part, after, rfl, obtained⟩

/-- A text occurs in another one if a part of that is obtained from it. -/
theorem occursIn_iff {pattern : List Char} (plain : '*' ∉ pattern) (text : List Char) :
    occursIn pattern text = true ↔ ∃ before part after,
      text = before ++ part ++ after ∧ Obtained SameLetter FillsRun pattern part := by
  induction text with
  | nil =>
    have start : occursIn pattern [] = startsWith pattern [] := by cases pattern <;> rfl
    rw [start, startsWith_iff plain]
    constructor
    · rintro ⟨part, after, text, obtained⟩
      exact ⟨[], part, after, text, obtained⟩
    · rintro ⟨before, part, after, text, obtained⟩
      obtain ⟨⟨rfl, rfl⟩, rfl⟩ : (before = [] ∧ part = []) ∧ after = [] := by
        simpa [and_assoc] using text
      exact ⟨[], [], rfl, obtained⟩
  | cons c rest ih =>
    rw [occursIn, Bool.or_eq_true, startsWith_iff plain, ih]
    constructor
    · rintro (⟨part, after, text, obtained⟩ | ⟨before, part, after, rfl, obtained⟩)
      · exact ⟨[], part, after, text, obtained⟩
      · exact ⟨c :: before, part, after, rfl, obtained⟩
    · rintro ⟨_ | ⟨d, before⟩, part, after, text, obtained⟩
      · exact .inl ⟨part, after, text, obtained⟩
      · obtain ⟨rfl, rfl⟩ := List.cons.inj text
        exact .inr ⟨before, part, after, rfl, obtained⟩

/-- Likeness to a pattern. -/
theorem isLike_iff (pattern text : String) : isLike pattern text = true ↔
    pattern ≠ "" ∧ LikeBy SameLetter FillsRun pattern.toList text.toList := by
  unfold isLike LikeBy
  by_cases empty : pattern = ""
  · simp [empty]
  rw [if_neg (by simpa using empty)]
  by_cases starred : '*' ∈ pattern.toList
  · rw [if_pos (by simpa using starred), coversStepwise_eq_covers, covers_iff]
    simp [empty, starred]
  · rw [if_neg (by simpa using starred), occursIn_iff starred]
    simp [empty, starred]

end Wildcard
end DocStore
