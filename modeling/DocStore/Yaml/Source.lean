import DocStore.Text.Split

/-!
# Places in a text

What is left to read of a text, and where that is.  Lines end in line feeds; the end of a
text counts as the end of a line.
-/

namespace DocStore
namespace Yaml

/-! ## Characters -/

/-- Whether a character is a blank within a line. -/
def isBlank (c : Char) : Bool := c = ' ' || c = '\t'

/-- Whether a character is a mark between brackets. -/
def isBracketMark (c : Char) : Bool := [',', '[', ']', '\x7b', '\x7d'].contains c

/-- Whether a character may stand in the name of a directive or a handle. -/
def isNameChar (c : Char) : Bool := c.isAlphanum || c = '_' || c = '-'

/-- Whether a line ends before a character. -/
def endsLine (c : Option Char) : Bool := c.all (· = '\n')

/-- Whether a word ends before a character. -/
def endsWord (c : Option Char) : Bool := c.all fun c => isBlank c || c = '\n'

/-! ## Sources -/

/-- A place in a text. -/
structure Source where
  /-- What is left to read. -/
  rest : List Char
  /-- How many characters are read. -/
  index : Nat
  /-- How many lines are read. -/
  line : Nat
  /-- How many characters of the line are read. -/
  column : Nat
  /-- Whether all of these are blanks. -/
  indenting : Bool

namespace Source

/-- The start of a text. -/
def ofChars (chars : List Char) : Source := ⟨chars, 0, 0, 0, true⟩

/-- The next character. -/
def next? (source : Source) : Option Char := source.rest.head?

/-- The character behind the next one. -/
def second? (source : Source) : Option Char := source.rest[1]?

/-- Passes a blank. -/
def passBlank (source : Source) : Source :=
  { source with
    rest := source.rest.tail, index := source.index + 1, column := source.column + 1 }

/-- Passes some characters that are no blanks. -/
def pass (source : Source) (count : Nat) : Source :=
  { source with
    rest := source.rest.drop count
    index := source.index + count
    column := source.column + count
    indenting := false }

/-- Passes the end of a line. -/
def passLine (source : Source) : Source :=
  match source.rest with
  | '\n' :: rest => ⟨rest, source.index + 1, source.line + 1, 0, true⟩
  | _ => source

/-- Passes the characters of a kind, none of which ends a line. -/
def passWhile (source : Source) (ofKind : Char → Bool) : List Char × Source :=
  let taken := source.rest.takeWhile ofKind
  (taken, if taken.isEmpty then source else source.pass taken.length)

/-- Whether a mark of three characters stands at the start of the line. -/
def atMark (source : Source) (mark : List Char) : Bool :=
  source.column = 0 &&
    match Text.afterStart? mark source.rest with
    | some rest => endsWord rest.head?
    | none => false

/-- Whether a document starts here. -/
def atDocumentStart (source : Source) : Bool := source.atMark ['-', '-', '-']

/-- Whether a document ends here. -/
def atDocumentEnd (source : Source) : Bool := source.atMark ['.', '.', '.']

/-- Whether a document starts or ends here. -/
def atBorder (source : Source) : Bool := source.atDocumentStart || source.atDocumentEnd

/-- What was passed before the end of a line. -/
structure Passed where
  /-- Whether there was a tab. -/
  tab : Bool
  /-- Whether there was a space. -/
  space : Bool

/-- Passes blanks, and a comment behind them up to the end of the line.  A comment needs a
blank in front of it. -/
def passRemark (tabs : Bool) (passed : Passed) (source : Source) : Nat → Option (Passed × Source)
  | 0 => some (passed, source)
  | fuel + 1 =>
    match source.rest with
    | ' ' :: _ => passRemark tabs { passed with space := true } source.passBlank fuel
    | '\t' :: _ =>
      if tabs then passRemark tabs { passed with tab := true } source.passBlank fuel
      else some (passed, source)
    | '#' :: _ =>
      if passed.tab || passed.space then some (passed, (source.passWhile (· ≠ '\n')).2) else none
    | _ => some (passed, source)

end Source
end Yaml
end DocStore
