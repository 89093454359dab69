import DocStore.Text.CaseFold

/-!
# Texts with wildcards

A star stands for any run of characters other than line feeds, and every other
character for itself in any case.  A pattern with a star must cover the whole text;
one without may occur anywhere in it.

Which texts a pattern covers is said by recursion on both.  To find it out, the pattern
is read from its end, keeping which suffixes of the text are covered so far; this takes
one step for each pair of a character of the pattern and one of the text.
-/

namespace DocStore
namespace Wildcard

/-- Whether a pattern covers a whole text. -/
def covers : List Char → List Char → Bool
  | [], [] => true
  | [], _ :: _ => false
  | '*' :: pattern, [] => covers pattern []
  | '*' :: pattern, c :: rest =>
    covers pattern (c :: rest) || (c != '\n' && covers ('*' :: pattern) rest)
  | _ :: _, [] => false
  | p :: pattern, c :: rest => Text.CaseFold.same p c && covers pattern rest
termination_by pattern text => pattern.length + text.length

/-! ## The suffixes that a pattern covers -/

/-- The suffixes of a text, the longest one first. -/
def suffixes : List Char → List (List Char)
  | [] => [[]]
  | c :: rest => (c :: rest) :: suffixes rest

/-- Which suffixes are covered by a pattern, from which ones are covered behind its first
character. -/
def extend (p : Char) : List Char → List Bool → List Bool
  | c :: rest, here :: later =>
    let below := extend p rest later
    let first :=
      if p = '*' then here || (c != '\n' && below.headD false)
      else Text.CaseFold.same p c && later.headD false
    first :: below
  | [], atEnd :: _ => [p = '*' && atEnd]
  | _, [] => []

/-- Which suffixes of a text are covered by a pattern, the longest one first. -/
def coveredSuffixes (text : List Char) : List Char → List Bool
  | [] => (suffixes text).map List.isEmpty
  | p :: pattern => extend p text (coveredSuffixes text pattern)

theorem covers_nil (text : List Char) : covers [] text = text.isEmpty := by
  cases text <;> simp [covers]

theorem covers_cons_nil (p : Char) (pattern : List Char) :
    covers (p :: pattern) [] = (p = '*' && covers pattern []) := by
  by_cases star : p = '*'
  · subst star; simp [covers]
  · simp [covers, star]

theorem covers_cons_cons (p : Char) (pattern : List Char) (c : Char) (rest : List Char) :
    covers (p :: pattern) (c :: rest) =
      if p = '*' then covers pattern (c :: rest) || (c != '\n' && covers (p :: pattern) rest)
      else Text.CaseFold.same p c && covers pattern rest := by
  by_cases star : p = '*'
  · subst star; simp [covers]
  · simp [covers, star]

theorem suffixes_eq_cons (text : List Char) :
    suffixes text = text :: (suffixes text).tail := by
  cases text <;> rfl

/-- Extending a pattern keeps the list of covered suffixes right. -/
theorem extend_map_covers (p : Char) (pattern text : List Char) :
    extend p text ((suffixes text).map (covers pattern)) =
      (suffixes text).map (covers (p :: pattern)) := by
  induction text with
  | nil => simp [suffixes, extend, covers_cons_nil]
  | cons c rest hypothesis =>
    simp only [suffixes, List.map_cons, extend, hypothesis, covers_cons_cons]
    rw [suffixes_eq_cons rest]
    simp

/-- The suffixes that are found to be covered are the covered ones. -/
theorem coveredSuffixes_eq (text pattern : List Char) :
    coveredSuffixes text pattern = (suffixes text).map (covers pattern) := by
  induction pattern with
  | nil => simp [coveredSuffixes, covers_nil]
  | cons p pattern hypothesis => rw [coveredSuffixes, hypothesis, extend_map_covers]

/-- Whether a pattern covers a whole text, found step by step. -/
def coversStepwise (pattern text : List Char) : Bool :=
  (coveredSuffixes text pattern).headD false

/-- Both ways to say what a pattern covers agree. -/
theorem coversStepwise_eq_covers (pattern text : List Char) :
    coversStepwise pattern text = covers pattern text := by
  rw [coversStepwise, coveredSuffixes_eq, suffixes_eq_cons]
  rfl

/-! ## Likeness -/

/-- Whether a text starts with another one but for case. -/
def startsWith : List Char → List Char → Bool
  | [], _ => true
  | _ :: _, [] => false
  | p :: pattern, c :: rest => Text.CaseFold.same p c && startsWith pattern rest

/-- Whether a text occurs in another one but for case. -/
def occursIn (pattern : List Char) : List Char → Bool
  | [] => pattern.isEmpty
  | c :: rest => startsWith pattern (c :: rest) || occursIn pattern rest

/-- Whether a text is like a pattern; nothing is like the empty pattern. -/
def isLike (pattern text : String) : Bool :=
  if pattern.isEmpty then false
  else if pattern.toList.contains '*' then coversStepwise pattern.toList text.toList
  else occursIn pattern.toList text.toList

end Wildcard
end DocStore
