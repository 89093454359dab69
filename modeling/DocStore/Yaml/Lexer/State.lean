import DocStore.Yaml.Source
import DocStore.Yaml.Token

/-!
# What a lexer keeps

A lexer keeps the indentation of the blocks that are open, and for each pair of brackets,
and for the text around them, the last place where a key may have started: whether it did
shows only at a colon behind it.
-/

namespace DocStore
namespace Yaml

/-- A place where a key may have started. -/
structure Candidate where
  /-- Whether it still may. -/
  isPossible : Bool
  /-- Whether there must be a key, for lack of anything else that could be there. -/
  isRequired : Bool
  /-- How many tokens come before it. -/
  tokenCount : Nat
  /-- How many characters come before it. -/
  index : Nat
  /-- Its line. -/
  line : Nat
  /-- Its column. -/
  column : Nat

/-- No place at all. -/
def Candidate.none : Candidate := ⟨false, false, 0, 0, 0, 0⟩

/-- An indentation that is gone back to. -/
structure Indent where
  /-- Its column; there is none at all at the start. -/
  column : Int
  /-- Whether a block ends when it is gone back to. -/
  endsBlock : Bool

/-- The state of a lexer. -/
structure Lexer where
  /-- What is left to read. -/
  source : Source
  /-- The tokens so far, each with its column. -/
  tokens : Array (Token × Nat)
  /-- Whether a key may start here. -/
  keyAllowed : Bool
  /-- Where keys may have started, the innermost brackets first. -/
  candidates : List Candidate
  /-- The indentation of the block. -/
  indent : Int
  /-- The indentations around it, the innermost one first. -/
  indents : List Indent
  /-- The place at which a colon needs no blank behind it. -/
  adjacentAt : Nat
  /-- Whether a mapping was opened by a brace or a question mark. -/
  explicitMapping : Bool
  /-- For each open sequence in brackets, whether it is within a mapping without braces. -/
  sequences : List Bool

namespace Lexer

/-- The start of a text. -/
def ofChars (chars : List Char) : Lexer where
  source := .ofChars chars
  tokens := #[]
  keyAllowed := true
  candidates := [.none]
  indent := -1
  indents := []
  adjacentAt := 0
  explicitMapping := false
  sequences := []

variable (lexer : Lexer)

/-- Whether there are open brackets. -/
def inBrackets : Bool := lexer.candidates.length > 1

/-- Whether the text is less indented than its block. -/
def isOutdented : Bool := (lexer.source.column : Int) < lexer.indent

/-- Adds a token that starts in a column. -/
def add (token : Token) (column : Nat) : Lexer :=
  { lexer with tokens := lexer.tokens.push (token, column) }

/-- Adds a token in front of some others. -/
def addAt (place : Nat) (token : Token) (column : Nat) : Lexer :=
  { lexer with tokens := lexer.tokens.insertIdxIfInBounds place (token, column) }

/-- The same with another source. -/
def withSource (source : Source) : Lexer := { lexer with source }

/-- The same where a key may start. -/
def allowKey : Lexer := { lexer with keyAllowed := true }

/-- The same where no key may start. -/
def forbidKey : Lexer := { lexer with keyAllowed := false }

/-! ## Indentation -/

/-- Goes back to a column, ending the blocks that are indented further. -/
def outdentFrom (column : Int) : List Indent → Lexer → Lexer
  | [], lexer => { lexer with indents := [] }
  | indent :: rest, lexer =>
    if lexer.indent > column then
      let lexer := { lexer with indent := indent.column }
      outdentFrom column rest
        (if indent.endsBlock then lexer.add .blockEnd lexer.source.column else lexer)
    else { lexer with indents := indent :: rest }

/-- Goes back to a column; between brackets indentation does not matter. -/
def outdent (column : Int) : Lexer :=
  if lexer.inBrackets then lexer else outdentFrom column lexer.indents lexer

/-- Goes back to the indentation of a block. -/
def outdentToBlock : Lexer :=
  match lexer.indents.dropWhile (!·.endsBlock), lexer.indents.takeWhile (!·.endsBlock) with
  | rest, [] => { lexer with indents := rest }
  | rest, passed => { lexer with indents := rest, indent := (passed.getLast?.map (·.column)).getD 0 }

/-- Indents by one column what belongs to an entry or a value. -/
def indentByOne : Lexer :=
  if !lexer.inBrackets && lexer.indents.head?.any (·.endsBlock) then
    { lexer with indents := ⟨lexer.indent, false⟩ :: lexer.indents, indent := lexer.indent + 1 }
  else lexer

/-- Drops an indentation by one column that a block at the given column takes the place
of. -/
def dropOneColumn (column : Nat) : Lexer :=
  match lexer.indents with
  | indent :: rest =>
    if lexer.indent ≤ column ∧ !indent.endsBlock then
      { lexer with indent := indent.column, indents := rest }
    else lexer
  | [] => lexer

/-- Starts a block at a column, unless it is open already or between brackets.  Its token
goes in front of some others where a place is given. -/
def openBlock (column : Nat) (place : Option Nat) (token : Token) : Lexer :=
  if lexer.inBrackets then lexer
  else
    let lexer := lexer.dropOneColumn column
    if lexer.indent < column then
      let lexer :=
        { lexer with indents := ⟨lexer.indent, true⟩ :: lexer.indents, indent := column }
      match place with
      | some place => lexer.addAt place token column
      | none => lexer.add token column
    else lexer

/-! ## Keys -/

/-- How far a key may reach. -/
def longestKey : Nat := 1024

/-- Gives up keys that did not show in time: outside of brackets a key takes no more than
a line. -/
def dropStale : Option Lexer :=
  if lexer.inBrackets then some lexer
  else do
    let candidates ← lexer.candidates.mapM fun candidate =>
      let isStale := candidate.isPossible &&
        (candidate.line < lexer.source.line ||
          candidate.index + longestKey < lexer.source.index)
      if !isStale then some candidate
      else if candidate.isRequired then none
      else some { candidate with isPossible := false }
    return { lexer with candidates }

/-- Keeps in mind that a key may start here. -/
def markKey : Lexer :=
  if lexer.keyAllowed then
    let candidate : Candidate :=
      { isPossible := true
        isRequired := !lexer.inBrackets && lexer.indent = lexer.source.column &&
          lexer.indents.head?.any (·.endsBlock)
        tokenCount := lexer.tokens.size
        index := lexer.source.index
        line := lexer.source.line
        column := lexer.source.column }
    { lexer with candidates := candidate :: lexer.candidates.tail }
  else lexer

/-- Gives up the last key that may have started. -/
def dropKey : Option Lexer :=
  match lexer.candidates with
  | candidate :: rest =>
    if candidate.isPossible ∧ candidate.isRequired then none
    else some { lexer with candidates := { candidate with isPossible := false } :: rest }
  | [] => some lexer

/-! ## Mappings without braces -/

/-- Ends a mapping without braces within a sequence in brackets. -/
def endBareMapping : Lexer :=
  match lexer.sequences with
  | true :: rest =>
    { lexer.add .closeMapping lexer.source.column with
      explicitMapping := false, sequences := false :: rest }
  | _ => lexer

/-! ## Remarks -/

/-- Passes blanks and a comment up to the end of the line. -/
def passRemark (tabs : Bool) : Option (Source.Passed × Lexer) := do
  let (passed, source) ←
    lexer.source.passRemark tabs ⟨false, false⟩ lexer.source.rest.length
  return (passed, lexer.withSource source)

/-- Passes blanks, line breaks and comments up to the next token.  Behind a line break a
key may start; tabs do not indent. -/
def passToToken (lexer : Lexer) : Nat → Option Lexer
  | 0 => some lexer
  | fuel + 1 =>
    match lexer.source.rest with
    | '\t' :: _ =>
      if !lexer.indents.isEmpty && lexer.source.indenting && lexer.isOutdented then do
        let (_, lexer) ← lexer.passRemark true
        if endsLine lexer.source.next? then passToToken lexer fuel else none
      else passToToken (lexer.withSource lexer.source.passBlank) fuel
    | ' ' :: _ => passToToken (lexer.withSource lexer.source.passBlank) fuel
    | '\n' :: _ =>
      let lexer := lexer.withSource lexer.source.passLine
      passToToken (if lexer.inBrackets then lexer else lexer.allowKey) fuel
    | '#' :: _ => passToToken (lexer.withSource (lexer.source.passWhile (· ≠ '\n')).2) fuel
    | _ => some lexer

end Lexer
end Yaml
end DocStore
