import DocStore.Yaml.Lexer.Property
import DocStore.Yaml.Lexer.Scalar

/-!
# Tokens of a text

The tokens of a text are read one after the other.  What a character means depends on the
character behind it, and on whether there are open brackets.
-/

namespace DocStore
namespace Yaml
namespace Lexer

variable (lexer : Lexer)

/-! ## Documents -/

/-- Reads the mark of a document. -/
def border (token : Token) : Option Lexer := do
  let lexer ← (lexer.outdent (-1)).dropKey
  return (lexer.forbidKey.withSource (lexer.source.pass 3)).add token 0

/-- Reads the mark behind a document; nothing but a comment follows it on its line. -/
def closing : Option Lexer := do
  let (_, lexer) ← (← lexer.border .documentEnd).passRemark true
  guard (endsLine lexer.source.next?)
  return lexer

/-- Ends the text: there must be no key that did not show. -/
def ending : Option Lexer := do
  guard (!lexer.candidates.any fun candidate => candidate.isPossible && candidate.isRequired)
  return lexer.outdent (-1)

/-! ## Brackets -/

/-- How many brackets may be open at a time. -/
def deepest : Nat := 255

/-- Reads an opening bracket or brace. -/
def opening (token : Token) : Option Lexer := do
  let start := lexer.markKey.indentByOne
  guard (start.candidates.length ≤ deepest)
  let isMapping := token = .openMapping
  let inner :=
    { start.allowKey with
      candidates := .none :: start.candidates
      source := start.source.pass 1
      explicitMapping := start.explicitMapping || isMapping
      sequences := if isMapping then start.sequences else false :: start.sequences }
  let (_, lexer) ← inner.passRemark true
  return lexer.add token start.source.column

/-- Reads a closing bracket or brace. -/
def closingBracket (token : Token) : Option Lexer := do
  let start ← lexer.dropKey
  let outer := if start.inBrackets then { start with candidates := start.candidates.tail } else start
  let outer :=
    if token = .closeSequence then
      let ended := outer.endBareMapping
      { ended with sequences := ended.sequences.tail }
    else outer
  let (_, lexer) ← (outer.forbidKey.withSource (outer.source.pass 1)).passRemark true
  let lexer := if lexer.inBrackets then { lexer with adjacentAt := lexer.source.index } else lexer
  return lexer.add token start.source.column

/-- Reads a comma between brackets. -/
def comma : Option Lexer := do
  let start := (← lexer.dropKey).allowKey.endBareMapping
  let (_, lexer) ← (start.withSource (start.source.pass 1)).passRemark true
  return lexer.add .comma start.source.column

/-! ## Blocks -/

/-- Whether a name or a tag stands alone at the start of a line in front of an entry that
is at the start of a line too. -/
def hasStrayProperty : Bool :=
  lexer.source.column = 0 && lexer.indent > -1 &&
    lexer.tokens.back?.any fun (token, column) => token.isProperty && column = 0

/-- Reads the dash of an entry. -/
def entry : Option Lexer := do
  guard (!lexer.inBrackets && lexer.keyAllowed && !lexer.hasStrayProperty)
  let column := lexer.source.column
  let lexer := (lexer.withSource (lexer.source.pass 1)).openBlock column none .sequenceStart
  let (passed, lexer) ← lexer.passRemark true
  guard (!(passed.tab && lexer.source.next? = some '-' && endsWord lexer.source.second?))
  let next := lexer.source.next?
  let lexer := if next.any fun c => c = '\n' || isBracketMark c then lexer.indentByOne else lexer
  let lexer ← lexer.dropKey
  return lexer.allowKey.add .entry column

/-- Passes spaces, line breaks and comments behind a question mark; there must be one of
the first two. -/
def passBehindKey (passed : Bool) (lexer : Lexer) : Nat → Option Lexer
  | 0 => none
  | fuel + 1 =>
    match lexer.source.rest with
    | ' ' :: _ => passBehindKey true (lexer.withSource lexer.source.passBlank) fuel
    | '\n' :: _ =>
      let lexer := lexer.withSource lexer.source.passLine
      passBehindKey true (if lexer.inBrackets then lexer else lexer.allowKey) fuel
    | '#' :: _ => passBehindKey passed (lexer.withSource (lexer.source.passWhile (· ≠ '\n')).2) fuel
    | _ => if passed then some lexer else none

/-- Reads the question mark of a key. -/
def questionMark : Option Lexer := do
  guard (lexer.inBrackets || lexer.keyAllowed)
  let column := lexer.source.column
  let lexer :=
    if lexer.inBrackets then { lexer with explicitMapping := true }
    else lexer.openBlock column none .mappingStart
  let lexer := { ← lexer.dropKey with keyAllowed := !lexer.inBrackets }
  let lexer ← passBehindKey false (lexer.withSource (lexer.source.pass 1))
    (lexer.source.rest.length + 1)
  guard (lexer.source.next? ≠ some '\t')
  return lexer.add .key column

/-- Whether what follows a colon may follow a tab without a space. -/
def mayFollowTab (c : Option Char) : Bool := !c.any isNameChar

/-- Reads a colon behind a key that has no question mark. -/
def colonBehindKey (key : Candidate) (isBare : Bool) (column line : Nat) : Option Lexer := do
  let lexer := lexer.addAt key.tokenCount .key key.column
  guard (!(isBare && key.line < line))
  let lexer := if isBare then lexer.addAt key.tokenCount .openMapping column else lexer
  let lexer := (lexer.openBlock key.column (some key.tokenCount) .mappingStart).indentByOne
  let candidates := { key with isPossible := false } :: lexer.candidates.tail
  return { lexer with candidates, keyAllowed := false }.add .value column

/-- Reads a colon without a key on its line. -/
def colonAlone (isBare : Bool) (column : Nat) : Option Lexer := do
  let lexer := if isBare then lexer.add .openMapping column else lexer
  guard (lexer.inBrackets || lexer.keyAllowed)
  let lexer := (lexer.openBlock column none .mappingStart).indentByOne
  return { lexer with keyAllowed := !lexer.inBrackets }.add .value column

/-- Reads a colon in front of a value.  In a sequence between brackets it makes a mapping
without braces. -/
def colon : Option Lexer := do
  let start := lexer
  let key := start.candidates.headD .none
  let isBare := !start.sequences.isEmpty && !start.explicitMapping
  let lexer := if isBare then { start with sequences := true :: start.sequences.tail } else start
  let lexer := lexer.withSource (lexer.source.pass 1)
  let lexer ←
    if lexer.source.next? = some '\t' then do
      let (passed, lexer) ← lexer.passRemark true
      guard (passed.space || mayFollowTab lexer.source.next?)
      pure lexer
    else pure lexer
  if key.isPossible then
    lexer.colonBehindKey key isBare start.source.column start.source.line
  else lexer.colonAlone isBare start.source.column

/-! ## All tokens -/

/-- Whether a colon is in front of a value. -/
def isColon (next : Option Char) : Bool :=
  endsWord next ||
    (lexer.inBrackets && (next.any isBracketMark || lexer.source.index = lexer.adjacentAt))

/-- Reads the token that starts with a character. -/
def token (c : Char) (next : Option Char) : Option Lexer :=
  if c = '[' then lexer.opening .openSequence
  else if c = '\x7b' then lexer.opening .openMapping
  else if c = ']' then lexer.closingBracket .closeSequence
  else if c = '\x7d' then lexer.closingBracket .closeMapping
  else if c = ',' then lexer.comma
  else if c = '-' && endsWord next then lexer.entry
  else if c = '?' && endsWord next then lexer.questionMark
  else if c = ':' && lexer.isColon next then lexer.colon
  else if c = '*' then lexer.nodeName false
  else if c = '&' then lexer.nodeName true
  else if c = '!' then lexer.nodeTag
  else if c = '|' && !lexer.inBrackets then lexer.blockScalar true
  else if c = '>' && !lexer.inBrackets then lexer.blockScalar false
  else if c = '\'' then lexer.quotedScalar true
  else if c = '"' then lexer.quotedScalar false
  else if c = '%' || c = '@' || c = '\x60' then none
  else lexer.plainScalar

/-- Reads all tokens that are left. -/
def run (lexer : Lexer) : Nat → Option Lexer
  | 0 => none
  | fuel + 1 => do
    let lexer ← lexer.passToToken (lexer.source.rest.length + 1)
    let lexer := (← lexer.dropStale).outdent lexer.source.column
    match lexer.source.rest with
    | [] => lexer.ending
    | c :: rest =>
      if lexer.source.column = 0 ∧ c = '%' then run (← lexer.directive) fuel
      else if lexer.source.atDocumentStart then run (← lexer.border .documentStart) fuel
      else if lexer.source.atDocumentEnd then run (← lexer.closing) fuel
      else if lexer.isOutdented then none
      else run (← lexer.token c rest.head?) fuel

end Lexer

/-- The tokens of a text. -/
def Token.ofChars? (chars : List Char) : Option (List Token) := do
  let lexer ← (Lexer.ofChars chars).run (chars.length + 1)
  return (lexer.tokens.map (·.1)).toList

end Yaml
end DocStore
