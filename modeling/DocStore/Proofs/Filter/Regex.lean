import DocStore.Proofs.Filter.Wildcard
import Mathlib.Data.List.Infix

/-!
# Patterns with stars as regular expressions

Every character that means something in a regular expression gets a backslash in front, escaped
stars then become `.*`, and what has one is anchored at both ends (`Wildcard.regexChars`).  The
result can be read as a regular expression, whatever the pattern is made of, and the expression is
found in the texts that are like the pattern (`Wildcard.exists_regex`).
-/

namespace DocStore

/-! ## Regular expressions -/

/-- A regular expression, as far as the ones of patterns go. -/
inductive Regex where
  /-- Nothing. -/
  | nothing
  /-- A character in any case. -/
  | char (c : Char)
  /-- Any character but a line feed. -/
  | any
  /-- The start of the text. -/
  | start
  /-- The end of the text. -/
  | finish
  /-- A part any number of times. -/
  | many (part : Regex)
  /-- A part and what follows it. -/
  | next (part rest : Regex)

namespace Regex

/-- Whether an expression matches a part of a text, given what stands before and after it. -/
inductive Spans : Regex → List Char → List Char → List Char → Prop
  | nothing {before after : List Char} : Spans .nothing before [] after
  | char {p c : Char} {before after : List Char} (same : Text.CaseFold.same p c = true) :
      Spans (.char p) before [c] after
  | any {c : Char} {before after : List Char} (inLine : c ≠ '\n') : Spans .any before [c] after
  | start {after : List Char} : Spans .start [] [] after
  | finish {before : List Char} : Spans .finish before [] []
  | none {part : Regex} {before after : List Char} : Spans (.many part) before [] after
  | more {part : Regex} {before once others after : List Char}
      (first : Spans part before once (others ++ after))
      (rest : Spans (.many part) (before ++ once) others after) :
      Spans (.many part) before (once ++ others) after
  | next {part rest : Regex} {before first second after : List Char}
      (front : Spans part before first (second ++ after))
      (back : Spans rest (before ++ first) second after) :
      Spans (.next part rest) before (first ++ second) after

/-- Whether an expression matches somewhere in a text. -/
def Finds (regex : Regex) (text : List Char) : Prop :=
  ∃ before part after, text = before ++ part ++ after ∧ regex.Spans before part after

/-- The characters that mean something in a regular expression or in a part of one. -/
def specials : List Char :=
  ['\\', '.', '+', '*', '?', '(', ')', '|', '[', ']', '\x7b', '\x7d', '^', '$', '#', '&', '-', '~']

/-- A sign of the text of a regular expression. -/
inductive Sign where
  /-- It stands for an expression. -/
  | part (regex : Regex)
  /-- It repeats the expression before it. -/
  | repeated

/-- Reads the signs of a text: a backslash makes a special character an ordinary one. -/
def signs? : List Char → Option (List Sign)
  | [] => some []
  | '\\' :: c :: rest =>
    if c ∈ specials then (signs? rest).map (.part (.char c) :: ·) else none
  | '.' :: rest => (signs? rest).map (.part .any :: ·)
  | '^' :: rest => (signs? rest).map (.part .start :: ·)
  | '$' :: rest => (signs? rest).map (.part .finish :: ·)
  | '*' :: rest => (signs? rest).map (.repeated :: ·)
  | c :: rest => if c ∈ specials then none else (signs? rest).map (.part (.char c) :: ·)

/-- The expression that signs make: one behind the other, each repeated if the sign for that
follows. -/
def ofSigns? : List Sign → Option Regex
  | [] => some .nothing
  | .part regex :: .repeated :: rest => (ofSigns? rest).map (.next (.many regex))
  | .part regex :: rest => (ofSigns? rest).map (.next regex)
  | .repeated :: _ => none

/-- Reads a regular expression. -/
def read? (chars : List Char) : Option Regex := (signs? chars).bind ofSigns?

/-- Makes every character of a text stand for itself. -/
def escapeChar (c : Char) : List Char := if c ∈ specials then ['\\', c] else [c]

/-- Makes a text stand for itself. -/
def escape (chars : List Char) : List Char := chars.flatMap escapeChar

/-! ## What expressions match -/

theorem spans_nothing_iff {before part after : List Char} :
    Spans .nothing before part after ↔ part = [] := by
  constructor
  · rintro ⟨⟩
    rfl
  · rintro rfl
    exact .nothing

theorem spans_next_iff {first rest : Regex} {before part after : List Char} :
    Spans (.next first rest) before part after ↔ ∃ front back, part = front ++ back ∧
      Spans first before front (back ++ after) ∧ Spans rest (before ++ front) back after := by
  constructor
  · intro spans
    cases spans with
    | next front back => exact ⟨_, _, rfl, front, back⟩
  · rintro ⟨front, back, rfl, isFront, isBack⟩
    exact .next isFront isBack

theorem spans_start_iff {before part after : List Char} :
    Spans .start before part after ↔ before = [] ∧ part = [] := by
  constructor
  · rintro ⟨⟩
    exact ⟨rfl, rfl⟩
  · rintro ⟨rfl, rfl⟩
    exact .start

theorem spans_finish_iff {before part after : List Char} :
    Spans .finish before part after ↔ part = [] ∧ after = [] := by
  constructor
  · rintro ⟨⟩
    exact ⟨rfl, rfl⟩
  · rintro ⟨rfl, rfl⟩
    exact .finish

/-- A dot and a star match the runs without line feeds. -/
theorem spans_run_iff {before part after : List Char} :
    Spans (.many .any) before part after ↔ ∀ c ∈ part, c ≠ '\n' := by
  constructor
  · generalize regex_eq : Regex.many .any = regex
    intro spans
    induction spans with
    | none => simp
    | more first _ _ ih =>
      cases regex_eq
      cases first with
      | any inLine => exact List.forall_mem_cons.2 ⟨inLine, ih rfl⟩
    | _ => cases regex_eq
  · intro inLine
    induction part generalizing before with
    | nil => exact .none
    | cons c rest ih =>
      obtain ⟨here, later⟩ := List.forall_mem_cons.1 inLine
      exact .more (.any here) (ih later)

end Regex

namespace Wildcard

open Regex (escape escapeChar specials signs? ofSigns? read?)

/-! ## The expression of a pattern -/

/-- Escaped stars become runs. -/
def openStars : List Char → List Char
  | '\\' :: '*' :: rest => '.' :: '*' :: openStars rest
  | c :: rest => c :: openStars rest
  | [] => []

/-- The text of the regular expression of a pattern. -/
def regexChars (pattern : List Char) : List Char :=
  if ['\\', '*'] <:+: escape pattern then '^' :: openStars (escape pattern) ++ ['$']
  else escape pattern

/-- The characters of the expression that a character of a pattern becomes. -/
def openChar (c : Char) : List Char := if c = '*' then ['.', '*'] else escapeChar c

/-- The expression that a character of a pattern becomes. -/
def charRegex (c : Char) : Regex := if c = '*' then .many .any else .char c

/-- The expressions of the characters of a pattern, one behind the other. -/
def regexBefore (last : Regex) (pattern : List Char) : Regex :=
  pattern.foldr (fun c rest => .next (charRegex c) rest) last

/-! ## Escaped stars -/

theorem openStars_cons {c : Char} {rest : List Char}
    (notEscaped : c = '\\' → ∀ more, rest ≠ '*' :: more) :
    openStars (c :: rest) = c :: openStars rest := by
  rw [openStars]
  exact fun more backslash star => notEscaped backslash more star

/-- A star of an escaped text has a backslash in front. -/
theorem escape_ne_star (pattern more : List Char) : escape pattern ≠ '*' :: more := by
  intro same
  cases pattern with
  | nil => cases same
  | cons c rest =>
    by_cases special : c ∈ specials
    · simp [escape, escapeChar, special] at same
    · have star : c = '*' := by simpa [escape, escapeChar, special] using congrArg List.head? same
      exact special (star ▸ by decide)

/-- Escaped stars become runs, and all else stays escaped. -/
theorem openStars_escape (pattern : List Char) :
    openStars (escape pattern) = pattern.flatMap openChar := by
  induction pattern with
  | nil => rfl
  | cons c rest ih =>
    have split : escape (c :: rest) = escapeChar c ++ escape rest := List.flatMap_cons
    rw [split, List.flatMap_cons, ← ih]
    by_cases star : c = '*'
    · subst star
      rfl
    have open_eq : openChar c = escapeChar c := if_neg star
    rw [open_eq, escapeChar]
    split
    · have notStar : ∀ more, c :: escape rest ≠ '*' :: more := fun more same =>
        star (List.cons.inj same).1
      rw [List.cons_append, List.cons_append, List.nil_append, openStars_cons fun _ => notStar,
        openStars_cons fun _ => escape_ne_star rest]
      rfl
    · rw [List.singleton_append, openStars_cons fun _ => escape_ne_star rest]
      rfl

/-- An escaped text has an escaped star if the text has a star. -/
theorem escapedStar_iff (pattern : List Char) :
    ['\\', '*'] <:+: escape pattern ↔ '*' ∈ pattern := by
  constructor
  · intro inside
    have star : '*' ∈ escape pattern := inside.subset (by simp)
    obtain ⟨c, member, written⟩ := List.mem_flatMap.1 star
    unfold escapeChar at written
    split at written
    · have same : '*' = c := by simpa using written
      exact same ▸ member
    · have same : '*' = c := by simpa using written
      exact same ▸ member
  · intro member
    obtain ⟨before, after, rfl⟩ := List.append_of_mem member
    have split :
        escape (before ++ '*' :: after) = escape before ++ ['\\', '*'] ++ escape after := by
      simp [escape, escapeChar, specials]
    rw [split]
    exact ⟨_, _, rfl⟩

/-! ## Reading the expression -/

/-- The signs of the expression that a character of a pattern becomes. -/
def charSigns (c : Char) : List Regex.Sign :=
  if c = '*' then [.part .any, .repeated] else [.part (.char c)]

theorem signs?_plain {c : Char} (plain : c ∉ specials) (rest : List Char) :
    signs? (c :: rest) = (signs? rest).map (.part (.char c) :: ·) := by
  have other {special : Char} (member : special ∈ specials) : c ≠ special :=
    fun same => plain (same ▸ member)
  rw [signs?, if_neg plain]
  · exact fun _ _ backslash _ => other (by decide) backslash
  all_goals exact other (by decide)

theorem signs?_openChar (c : Char) (rest : List Char) :
    signs? (openChar c ++ rest) = (signs? rest).map (charSigns c ++ ·) := by
  unfold openChar charSigns
  by_cases star : c = '*'
  · subst star
    simp [signs?, Option.map_map, Function.comp_def]
  · rw [if_neg star, if_neg star, escapeChar]
    by_cases special : c ∈ specials
    · simp [special, signs?]
    · simp [special, signs?_plain special]

theorem signs?_pattern (pattern rest : List Char) :
    signs? (pattern.flatMap openChar ++ rest) =
      (signs? rest).map (pattern.flatMap charSigns ++ ·) := by
  induction pattern with
  | nil => simp
  | cons c others ih =>
    rw [List.flatMap_cons, List.append_assoc, signs?_openChar, ih, Option.map_map]
    simp [Function.comp_def]

theorem ofSigns?_part {regex : Regex} {rest : List Regex.Sign}
    (once : ∀ more, rest ≠ .repeated :: more) :
    ofSigns? (.part regex :: rest) = (ofSigns? rest).map (.next regex) := by
  rw [ofSigns?]
  exact once

/-- The signs of a pattern make its expression in front of what the signs behind them make. -/
theorem ofSigns?_pattern {rest : List Regex.Sign} {last : Regex} (made : ofSigns? rest = some last)
    (pattern : List Char) : ofSigns? (pattern.flatMap charSigns ++ rest) =
      some (regexBefore last pattern) := by
  induction pattern with
  | nil => exact made
  | cons c others ih =>
    have step : regexBefore last (c :: others) =
        .next (charRegex c) (regexBefore last others) := rfl
    rw [List.flatMap_cons, List.append_assoc, step, charSigns, charRegex]
    split
    · rw [List.cons_append, List.cons_append, List.nil_append, ofSigns?, ih, Option.map_some]
    · have once : ∀ more, others.flatMap charSigns ++ rest ≠ .repeated :: more := by
        intro more same
        rw [same] at ih
        cases ih
      rw [List.singleton_append, ofSigns?_part once, ih, Option.map_some]

/-! ## What is found -/

theorem spans_charRegex_iff {c : Char} (plain : c ≠ '*') {before part after : List Char} :
    Regex.Spans (charRegex c) before part after ↔ ∃ d, part = [d] ∧ SameLetter c d := by
  rw [charRegex, if_neg plain]
  constructor
  · intro spans
    cases spans with
    | char same => exact ⟨_, rfl, same⟩
  · rintro ⟨d, rfl, same⟩
    exact .char same

/-- The expression of a pattern matches what is obtained from the pattern, in front of what the
last expression matches. -/
theorem spans_regexBefore_iff {last : Regex} {pattern before part after : List Char} :
    Regex.Spans (regexBefore last pattern) before part after ↔
      ∃ front back, part = front ++ back ∧ Obtained SameLetter FillsRun pattern front ∧
        Regex.Spans last (before ++ front) back after := by
  induction pattern generalizing before part with
  | nil =>
    constructor
    · intro spans
      refine ⟨[], part, rfl, .done, ?_⟩
      rwa [List.append_nil]
    · rintro ⟨front, back, rfl, obtained, spans⟩
      rw [obtained_nil_iff.1 obtained, List.append_nil] at spans
      rwa [obtained_nil_iff.1 obtained]
  | cons c others ih =>
    have step : regexBefore last (c :: others) =
        .next (charRegex c) (regexBefore last others) := rfl
    rw [step, Regex.spans_next_iff]
    simp only [ih]
    by_cases star : c = '*'
    · subst star
      simp only [obtained_star_iff, charRegex, if_true, Regex.spans_run_iff]
      constructor
      · rintro ⟨run, _, rfl, fills, front, back, rfl, obtained, spans⟩
        refine ⟨run ++ front, back, by simp, ⟨run, front, rfl, fills, obtained⟩, ?_⟩
        rwa [← List.append_assoc]
      · rintro ⟨_, back, rfl, ⟨run, front, rfl, fills, obtained⟩, spans⟩
        refine ⟨run, front ++ back, by simp, fills, front, back, rfl, obtained, ?_⟩
        rwa [List.append_assoc]
    · simp only [obtained_char_iff star, spans_charRegex_iff star]
      constructor
      · rintro ⟨_, _, rfl, ⟨d, rfl, same⟩, front, back, rfl, obtained, spans⟩
        refine ⟨d :: front, back, rfl, ⟨d, front, rfl, same, obtained⟩, ?_⟩
        rwa [List.append_assoc] at spans
      · rintro ⟨_, back, rfl, ⟨d, front, rfl, same, obtained⟩, spans⟩
        refine ⟨[d], front ++ back, rfl, ⟨d, rfl, same⟩, front, back, rfl, obtained, ?_⟩
        rwa [List.append_assoc]

/-- Anchored at both ends, the expression of a pattern is found in the texts obtained from it. -/
theorem finds_anchored_iff {pattern text : List Char} :
    (Regex.next .start (regexBefore (.next .finish .nothing) pattern)).Finds text ↔
      Obtained SameLetter FillsRun pattern text := by
  simp only [Regex.Finds, Regex.spans_next_iff, Regex.spans_start_iff, spans_regexBefore_iff,
    Regex.spans_finish_iff, Regex.spans_nothing_iff]
  constructor
  · rintro ⟨_, _, after, rfl, _, _, rfl, ⟨rfl, rfl⟩, front, _, rfl, obtained, _, _, rfl,
      ⟨rfl, nothing⟩, rfl⟩
    have same : [] ++ ([] ++ (front ++ ([] ++ []))) ++ after = front ++ after := by simp
    have last : after = [] := by simpa using nothing
    rw [same, last, List.append_nil]
    exact obtained
  · intro obtained
    exact ⟨[], text, [], by simp, [], text, rfl, ⟨rfl, rfl⟩, text, [], by simp, obtained, [], [],
      rfl, ⟨rfl, rfl⟩, rfl⟩

/-- Without anchors, it is found where a part of the text is obtained from it. -/
theorem finds_anywhere_iff {pattern text : List Char} :
    (regexBefore .nothing pattern).Finds text ↔ ∃ before part after,
      text = before ++ part ++ after ∧ Obtained SameLetter FillsRun pattern part := by
  simp only [Regex.Finds, spans_regexBefore_iff, Regex.spans_nothing_iff]
  refine exists₃_congr fun before part after => and_congr_right fun _ => ?_
  constructor
  · rintro ⟨front, _, rfl, obtained, rfl⟩
    rwa [List.append_nil]
  · exact fun obtained => ⟨part, [], by simp, obtained, rfl⟩

/-- The text of the expression of a pattern can be read, and the expression is found in the texts
that are like the pattern. -/
theorem exists_regex (pattern : List Char) :
    ∃ regex, read? (regexChars pattern) = some regex ∧
      ∀ text, regex.Finds text ↔ LikeBy SameLetter FillsRun pattern text := by
  unfold regexChars LikeBy
  by_cases starred : '*' ∈ pattern
  · have made := ofSigns?_pattern (show ofSigns? [.part .finish] = some _ from rfl) pattern
    have once : ∀ more, pattern.flatMap charSigns ++ [.part .finish] ≠ .repeated :: more := by
      intro more same
      rw [same] at made
      cases made
    have signs : signs? ('^' :: openStars (escape pattern) ++ ['$']) =
        some (.part .start :: (pattern.flatMap charSigns ++ [.part .finish])) := by
      rw [openStars_escape, List.cons_append, signs?, signs?_pattern]
      rfl
    refine ⟨.next .start (regexBefore (.next .finish .nothing) pattern), ?_, fun text => ?_⟩
    · rw [if_pos ((escapedStar_iff pattern).2 starred), read?, signs, Option.bind_some,
        ofSigns?_part once, made, Option.map_some]
    · simp [finds_anchored_iff, starred]
  · have made := ofSigns?_pattern (show ofSigns? [] = some .nothing from rfl) pattern
    have each : pattern.map escapeChar = pattern.map openChar := by
      refine List.map_congr_left fun c member => (if_neg ?_).symm
      rintro rfl
      exact starred member
    have unopened : escape pattern = pattern.flatMap openChar := by
      rw [escape, List.flatMap_def, each, ← List.flatMap_def]
    have signs := signs?_pattern pattern []
    rw [List.append_nil] at made signs
    refine ⟨regexBefore .nothing pattern, ?_, fun text => ?_⟩
    · rw [if_neg (mt (escapedStar_iff pattern).1 starred), read?, unopened, signs]
      simpa [signs?] using made
    · simp [finds_anywhere_iff, starred]

end Wildcard
end DocStore
