import DocStore.Unicode.CombiningClass
import DocStore.Unicode.Composition

/-!
# The composed normal form

Texts that look alike may be written with composite characters or with their parts.  The
normal form takes all characters apart, sorts the marks behind each base by their classes
and puts together what makes a composite.
-/

namespace DocStore.Unicode.NormalForm

/-! ## The order of marks -/

/-- Puts a character in front of others, behind marks of lower classes. -/
def insertMark (c : Char) : List Char → List Char
  | [] => [c]
  | d :: rest =>
    if combiningClass d ≠ 0 ∧ combiningClass d < combiningClass c then d :: insertMark c rest
    else c :: d :: rest

/-- A text with the marks behind each base sorted by class; marks of one class stay in
order. -/
def sortMarks (chars : List Char) : List Char := chars.foldr insertMark []

/-! ## Composition -/

/-- What composing a text carries from character to character. -/
structure State where
  /-- The characters before the last base, the last one first. -/
  before : List Char
  /-- The last base, which may still take marks. -/
  base : Option Char
  /-- The marks that the base did not take, the last one first. -/
  marks : List Char

/-- All characters of a state in order. -/
def State.chars (state : State) : List Char :=
  state.before.reverse ++ state.base.toList ++ state.marks.reverse

/-- Takes one character.  The base takes it if they make a composite and no mark of the
same or a higher class stands in between. -/
def State.take (state : State) (c : Char) : State :=
  match state.base with
  | none =>
    if combiningClass c = 0 then { state with base := some c }
    else { state with before := c :: state.before }
  | some base =>
    let isNext := state.marks.head?.all fun mark => combiningClass mark < combiningClass c
    match (if isNext then compose? base c else none) with
    | some whole => { state with base := some whole }
    | none =>
      if combiningClass c = 0 then ⟨state.marks ++ base :: state.before, some c, []⟩
      else { state with marks := c :: state.marks }

/-- Puts together what makes a composite. -/
def composeAll (chars : List Char) : List Char :=
  (chars.foldl State.take ⟨[], none, []⟩).chars

/-- The composed normal form of a text.  Below U+0300 there is nothing to compose. -/
def ofChars (chars : List Char) : List Char :=
  if chars.all (·.toNat < 0x300) then chars
  else composeAll (sortMarks (chars.flatMap parts))

end DocStore.Unicode.NormalForm
