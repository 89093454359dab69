import DocStore.Text.Hex
import DocStore.Text.Numeral
import DocStore.Yaml.Lexer.Folding
import DocStore.Yaml.Lexer.State

/-!
# Scalars

A scalar is plain, quoted, or kept line by line.  The numbers that bound the functions here
are those of the characters that are left.
-/

namespace DocStore
namespace Yaml
namespace Lexer

/-- Adds a scalar that starts where another state is. -/
def addScalar (lexer start : Lexer) (plain : Bool) (chars : List Char) : Lexer :=
  lexer.add (.scalar plain (String.ofList chars)) start.source.column

/-! ## Plain scalars -/

/-- Whether the next character may belong to a plain scalar.  A colon in front of a blank,
and a mark between brackets, end it. -/
def continuesPlain (lexer : Lexer) : Bool :=
  match lexer.source.rest with
  | ':' :: rest => !(endsWord rest.head? || (lexer.inBrackets && rest.head?.any isBracketMark))
  | c :: _ => !(lexer.inBrackets && isBracketMark c)
  | [] => true

/-- Reads a word of a plain scalar. -/
def plainWord (folding : Folding) (lexer : Lexer) : Nat → Folding × Lexer
  | 0 => (folding, lexer)
  | fuel + 1 =>
    match lexer.source.rest with
    | c :: _ =>
      if isBlank c || c = '\n' || !lexer.continuesPlain then (folding, lexer)
      else plainWord (folding.keep c) (lexer.withSource (lexer.source.pass 1)) fuel
    | [] => (folding, lexer)

/-- Reads what is between the words of a plain scalar.  A tab does not indent a line that
holds something. -/
def plainGap (least : Int) (folding : Folding) (lexer : Lexer) : Nat → Option (Folding × Lexer)
  | 0 => some (folding, lexer)
  | fuel + 1 =>
    match lexer.source.rest with
    | '\n' :: _ => plainGap least folding.newline (lexer.withSource lexer.source.passLine) fuel
    | c :: _ =>
      if !isBlank c then some (folding, lexer)
      else if folding.isBroken ∧ (lexer.source.column : Int) < least ∧ c = '\t' then do
        let (_, lexer) ← lexer.passRemark true
        if endsLine lexer.source.next? then plainGap least folding lexer fuel else none
      else plainGap least (folding.blank c) (lexer.withSource lexer.source.passBlank) fuel
    | [] => some (folding, lexer)

/-- Reads the words of a plain scalar; further lines are indented by at least the given
number, except between brackets. -/
def plainWords (least : Int) (folding : Folding) (lexer : Lexer) : Nat → Option (Folding × Lexer)
  | 0 => some (folding, lexer)
  | fuel + 1 =>
    let source := lexer.source
    if source.atBorder ∨ source.next? = some '#' then some (folding, lexer)
    else if lexer.inBrackets ∧ source.next? = some '-' ∧ source.second?.any isBracketMark then none
    else
      let (folding, lexer) := plainWord folding lexer (fuel + 1)
      if !(lexer.source.next?.any fun c => isBlank c || c = '\n') then some (folding, lexer)
      else do
        let (folding, lexer) ← plainGap least folding lexer (fuel + 1)
        if !lexer.inBrackets ∧ (lexer.source.column : Int) < least then some (folding, lexer)
        else plainWords least folding lexer fuel

/-- Reads a plain scalar.  Where it ends with a line, a key may follow. -/
def plainScalar (lexer : Lexer) : Option Lexer := do
  let start := lexer.markKey.forbidKey.outdentToBlock
  let least := start.indent + 1
  guard (!(start.inBrackets && decide ((start.source.column : Int) < least)))
  let (folding, lexer) ←
    plainWords least Folding.start start (start.source.rest.length + 1)
  let lexer := if folding.isBroken then lexer.allowKey else lexer
  return lexer.addScalar start true folding.chars

/-! ## Quoted scalars -/

/-- The character of a short escape. -/
def escape? : Char → Option Char
  | '0' => some '\x00'
  | 'a' => some '\x07'
  | 'b' => some '\x08'
  | 't' => some '\t'
  | '\t' => some '\t'
  | 'n' => some '\n'
  | 'v' => some '\x0b'
  | 'f' => some '\x0c'
  | 'r' => some '\r'
  | 'e' => some '\x1b'
  | ' ' => some ' '
  | '"' => some '"'
  | '/' => some '/'
  | '\\' => some '\\'
  | 'N' => some '\u0085'
  | '_' => some '\u00a0'
  | 'L' => some '\u2028'
  | 'P' => some '\u2029'
  | _ => none

/-- How many digits the code behind an escape has. -/
def codeLength? : Char → Option Nat
  | 'x' => some 2
  | 'u' => some 4
  | 'U' => some 8
  | _ => none

/-- The character of a code in so many hexadecimal digits. -/
def codeChar? (length : Nat) (chars : List Char) : Option Char := do
  let digits := chars.take length
  guard (digits.length = length)
  let values ← digits.mapM Text.hexDigit?
  let code := values.foldl (fun code value => code * 16 + value) 0
  if code.isValidChar then some (Char.ofNat code) else none

/-- Reads the escape behind a backslash; gives how many characters it takes. -/
def readEscape? : List Char → Option (Char × Nat)
  | c :: rest =>
    match codeLength? c with
    | some length => (codeChar? length rest).map fun found => (found, length + 1)
    | none => (escape? c).map fun found => (found, 1)
  | [] => none

/-- The quote of a quoted scalar. -/
def quoteOf (single : Bool) : Char := if single then '\'' else '"'

/-- Reads a word of a quoted scalar.  A single quote is doubled within one in single
quotes; in double quotes a backslash starts an escape. -/
def quotedWord (single : Bool) (folding : Folding) (lexer : Lexer) :
    Nat → Option (Folding × Lexer)
  | 0 => some (folding, lexer)
  | fuel + 1 =>
    let source := lexer.source
    match source.rest with
    | [] => some (folding, lexer)
    | c :: rest =>
      if isBlank c || c = '\n' then some (folding, lexer)
      else if single ∧ c = '\'' ∧ rest.head? = some '\'' then
        quotedWord single (folding.keep '\'') (lexer.withSource (source.pass 2)) fuel
      else if c = quoteOf single then some (folding, lexer)
      else if !single ∧ c = '\\' then
        if rest.head? = some '\n' then
          some (folding.join, lexer.withSource (source.pass 1).passLine)
        else do
          let (found, length) ← readEscape? rest
          quotedWord single (folding.keep found) (lexer.withSource (source.pass (length + 1))) fuel
      else quotedWord single (folding.keep c) (lexer.withSource (source.pass 1)) fuel

/-- Reads what is between the words of a quoted scalar; a tab does not indent. -/
def quotedGap (folding : Folding) (lexer : Lexer) : Nat → Option (Folding × Lexer)
  | 0 => some (folding, lexer)
  | fuel + 1 =>
    match lexer.source.rest with
    | '\n' :: _ => quotedGap folding.newline (lexer.withSource lexer.source.passLine) fuel
    | c :: _ =>
      if !isBlank c then some (folding, lexer)
      else if folding.isBroken ∧ c = '\t' ∧ lexer.isOutdented then none
      else quotedGap (folding.blank c) (lexer.withSource lexer.source.passBlank) fuel
    | [] => some (folding, lexer)

/-- Reads the words of a quoted scalar up to the quote.  Its lines are indented like the
block around it. -/
def quotedWords (single : Bool) (folding : Folding) (lexer : Lexer) :
    Nat → Option (Folding × Lexer)
  | 0 => none
  | fuel + 1 =>
    if lexer.source.atBorder ∨ lexer.source.rest.isEmpty ∨ lexer.isOutdented then none
    else do
      let (folding, lexer) ← quotedWord single folding lexer (lexer.source.rest.length + 1)
      if lexer.source.next? = some (quoteOf single) then some (folding, lexer)
      else do
        let (folding, lexer) ← quotedGap folding lexer (lexer.source.rest.length + 1)
        quotedWords single folding lexer fuel

/-- Whether what follows a quoted scalar that starts on a line may stand there. -/
def mayFollowQuoted (lexer : Lexer) (startLine : Nat) : Bool :=
  match lexer.source.next? with
  | none => true
  | some c =>
    c = '\n' || (lexer.inBrackets && [',', '\x7d', ']', ':'].contains c) ||
      (!lexer.inBrackets && c = ':' && startLine = lexer.source.line)

/-- Reads a quoted scalar. -/
def quotedScalar (lexer : Lexer) (single : Bool) : Option Lexer := do
  let start := lexer.markKey.forbidKey
  let (folding, lexer) ← quotedWords single Folding.start
    (start.withSource (start.source.pass 1)) (start.source.rest.length + 1)
  let (_, lexer) ← (lexer.withSource (lexer.source.pass 1)).passRemark true
  guard (lexer.mayFollowQuoted start.source.line)
  let lexer ← lexer.passToToken (lexer.source.rest.length + 1)
  return { lexer.addScalar start false folding.allChars with adjacentAt := lexer.source.index }

/-! ## Scalars line by line -/

/-- What becomes of the line breaks at the end of a scalar. -/
inductive Chomping where
  /-- All are dropped. -/
  | strip
  /-- All but one are dropped. -/
  | clip
  /-- All are kept. -/
  | keep
  deriving DecidableEq

/-- The chomping that a mark stands for. -/
def Chomping.ofChar? : Char → Option Chomping
  | '+' => some .keep
  | '-' => some .strip
  | _ => none

/-- The indentation that a digit stands for, which is not zero. -/
def increment? (c : Char) : Option Nat := Text.Numeral.digit? c

/-- Reads the marks behind the first one: a chomping and an indentation in any order. -/
def blockMarks (source : Source) : Option (Chomping × Nat × Source) :=
  let chomping (source : Source) := (source.next?.bind Chomping.ofChar?)
  let increment (source : Source) := (source.next?.bind increment?)
  match chomping source with
  | some mark =>
    let source := source.pass 1
    match increment source with
    | some 0 => none
    | some n => some (mark, n, source.pass 1)
    | none => some (mark, 0, source)
  | none =>
    match increment source with
    | some 0 => none
    | some n =>
      let source := source.pass 1
      match chomping source with
      | some mark => some (mark, n, source.pass 1)
      | none => some (.clip, n, source)
    | none => some (.clip, 0, source)

/-- Passes spaces up to a column. -/
def passSpaces (limit : Option Nat) (source : Source) : Nat → Source
  | 0 => source
  | fuel + 1 =>
    if source.next? = some ' ' ∧ limit.all (source.column < ·) then
      passSpaces limit source.passBlank fuel
    else source

/-- Passes the indentation of the next line that holds something, and the empty lines
before it; gives their number and the widest column that was reached. -/
def passIndentation (limit : Option Nat) (source : Source) (breaks widest : Nat) :
    Nat → Nat × Nat × Source
  | 0 => (breaks, widest, source)
  | fuel + 1 =>
    let source := passSpaces limit source source.rest.length
    let widest := max widest source.column
    if source.next? = some '\n' then
      passIndentation limit source.passLine (breaks + 1) widest fuel
    else (breaks, widest, source)

/-- A scalar that is read line by line. -/
structure BlockText where
  /-- The text, its last character first. -/
  text : List Char
  /-- Whether a line break follows it. -/
  broken : Bool
  /-- How many empty lines follow that. -/
  emptyLines : Nat
  /-- Whether its last line starts with a blank. -/
  blankLine : Bool

/-- The text with the line breaks in front of another line.  Where lines are folded, a
single line break between lines that start with no blank becomes a space. -/
def BlockText.settled (block : BlockText) (literal nextBlank : Bool) : List Char :=
  let lines := List.replicate block.emptyLines '\n'
  if !literal && block.broken && !block.blankLine && !nextBlank then
    if block.emptyLines = 0 then ' ' :: block.text else lines ++ block.text
  else lines ++ (if block.broken then ['\n'] else []) ++ block.text

/-- Reads the lines of a scalar that are indented up to a column. -/
def blockLines (literal : Bool) (indent : Nat) (block : BlockText) (source : Source) :
    Nat → BlockText × Source
  | 0 => (block, source)
  | fuel + 1 =>
    if source.column ≠ indent ∨ source.rest.isEmpty ∨ (indent = 0 ∧ source.atDocumentEnd) then
      (block, source)
    else
      let startsBlank := source.next?.any isBlank
      let text := block.settled literal startsBlank
      let (line, source) := source.passWhile (· ≠ '\n')
      let block : BlockText := ⟨line.reverse ++ text, false, 0, startsBlank⟩
      if source.rest.isEmpty then (block, source)
      else
        let (breaks, _, source) :=
          passIndentation (some indent) source.passLine 0 0 source.rest.length
        blockLines literal indent { block with broken := true, emptyLines := breaks } source fuel

/-- The text of a scalar at the end of which a source is. -/
def BlockText.chars (block : BlockText) (chomping : Chomping) (indent : Nat) (source : Source) :
    List Char :=
  let ended := source.rest.isEmpty && source.column ≥ max indent 1
  let break? := if block.broken then ['\n'] else []
  block.text.reverse ++
    (if chomping = .strip then [] else break? ++ (if ended then ['\n'] else [])) ++
      if chomping = .keep then List.replicate block.emptyLines '\n' else []

/-- The text of a scalar without a line that holds something, at the end of everything. -/
def emptyBlock (chomping : Chomping) (onHeadLine headBreak : Bool) (breaks : Nat) : List Char :=
  if chomping = .strip ∨ onHeadLine then []
  else if chomping = .keep ∧ breaks > 0 then List.replicate breaks '\n'
  else if headBreak then ['\n'] else []

/-- Reads a scalar that is kept line by line, or folded. -/
def blockScalar (lexer : Lexer) (literal : Bool) : Option Lexer := do
  let start := lexer.markKey.allowKey
  let lexer := (start.withSource (start.source.pass 1)).outdentToBlock
  let (chomping, increment, source) ← blockMarks lexer.source
  let (_, lexer) ← (lexer.withSource source).passRemark true
  guard (endsLine lexer.source.next?)
  let headBreak := lexer.source.next? = some '\n'
  let source := lexer.source.passLine
  guard (source.next? ≠ some '\t')
  let size := source.rest.length + 1
  let given := if increment = 0 then none else some ((max lexer.indent 0).toNat + increment)
  let (breaks, widest, source) := passIndentation given source 0 0 size
  let least := if lexer.indent > 0 then 1 else 0
  let indent := given.getD (max (max widest (lexer.indent + 1).toNat) least)
  if source.rest.isEmpty then
    let onHeadLine := source.line = start.source.line
    return (lexer.withSource source).addScalar start false
      (emptyBlock chomping onHeadLine headBreak breaks)
  else do
    guard (!(source.column < indent && decide ((source.column : Int) > lexer.indent)))
    let (block, source) := blockLines literal indent ⟨[], false, breaks, false⟩ source size
    return (lexer.withSource source).addScalar start false (block.chars chomping indent source)

end Lexer
end Yaml
end DocStore
