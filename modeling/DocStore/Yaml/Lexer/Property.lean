import DocStore.Text.Hex
import DocStore.Text.Numeral
import DocStore.Yaml.Lexer.State

/-!
# Names, tags and directives

A node may have a name and a tag in front of it, and a document may have directives.  Tags
are written like addresses: a percent sign and two hexadecimal digits stand for a byte.
-/

namespace DocStore
namespace Yaml
namespace Lexer

/-! ## Names -/

/-- Whether a character may stand in the name of a node. -/
def isAnchorChar (c : Char) : Bool :=
  !isBlank c && c != '\n' && c != '\ufeff' && !isBracketMark c

/-- Reads the name of a node behind its mark, where the node is given or meant. -/
def nodeName (lexer : Lexer) (isGiven : Bool) : Option Lexer :=
  let start := lexer.markKey.forbidKey
  let (name, source) := (start.source.pass 1).passWhile isAnchorChar
  if name.isEmpty then none
  else
    let name := String.ofList name
    some ((start.withSource source).add (if isGiven then .anchor name else .reference name)
      start.source.column)

/-! ## Tags -/

/-- Whether a character may stand in an address. -/
def isAddressChar (c : Char) : Bool :=
  c.isAlphanum || c = '-' || "#;/?:@&=+$,_.!~*'()[]%".toList.contains c

/-- Whether a character may stand in a tag behind its handle. -/
def isTagChar (c : Char) : Bool := isAddressChar c && !isBracketMark c && c != '!'

/-- The byte that a percent sign and two digits stand for. -/
def tagByte? : List Char → Option Nat
  | '%' :: high :: low :: _ => do
    return (← Text.hexDigit? high) * 16 + (← Text.hexDigit? low)
  | _ => none

/-- How many bytes a character has that starts with a byte. -/
def byteCount? (byte : Nat) : Option Nat :=
  if byte < 0x80 then some 1
  else if byte / 32 = 6 then some 2
  else if byte / 16 = 14 then some 3
  else if byte / 8 = 30 then some 4
  else none

/-- Reads the further bytes of a character, which are put behind one another. -/
def tagBytes (code : Nat) (source : Source) : Nat → Option (Nat × Source)
  | 0 => some (code, source)
  | count + 1 => do
    let byte ← tagByte? source.rest
    guard (byte / 64 = 2)
    tagBytes (code * 256 + byte) (source.pass 3) count

/-- Reads a character that is written as bytes. -/
def tagChar (source : Source) : Option (Char × Source) := do
  let byte ← tagByte? source.rest
  let count ← byteCount? byte
  let (code, source) ← tagBytes byte (source.pass 3) (count - 1)
  if code.isValidChar then some (Char.ofNat code, source) else none

/-- Reads characters of a kind, some of them written as bytes; `text` is what was read
before, the last character first. -/
def address (ofKind : Char → Bool) (text : List Char) (source : Source) :
    Nat → Option (List Char × Source)
  | 0 => some (text.reverse, source)
  | fuel + 1 =>
    match source.next? with
    | some c =>
      if !ofKind c then some (text.reverse, source)
      else if c = '%' then do
        let (found, source) ← tagChar source
        address ofKind (found :: text) source fuel
      else address ofKind (c :: text) (source.pass 1) fuel
    | none => some (text.reverse, source)

/-- Reads a handle: an exclamation mark, and perhaps a name and another one. -/
def handle (source : Source) : Option (List Char × Source) := do
  guard (source.next? = some '!')
  let (name, source) := (source.pass 1).passWhile isNameChar
  if source.next? = some '!' then return ('!' :: name ++ ['!'], source.pass 1)
  else return ('!' :: name, source)

/-- Whether a handle has two exclamation marks. -/
def isFullHandle (handle : List Char) : Bool :=
  handle.length ≥ 2 && handle.getLast? = some '!'

/-- Reads a tag in pointed brackets. -/
def plainTag (source : Source) : Option (String × String × Source) := do
  let (rest, source) ← address isAddressChar [] (source.pass 2) source.rest.length
  guard (source.next? = some '>')
  return ("", String.ofList rest, source.pass 1)

/-- Reads a tag with a handle. -/
def handledTag (source : Source) : Option (String × String × Source) := do
  let (handle, source) ← handle source
  if isFullHandle handle then
    let (rest, after) ← address isTagChar [] source source.rest.length
    guard (after.index ≠ source.index)
    return (String.ofList handle, String.ofList rest, after)
  else
    let (rest, source) ← address isTagChar (handle.drop 1).reverse source source.rest.length
    if rest.isEmpty then return ("", "!", source)
    else return ("!", String.ofList rest, source)

/-- Reads a tag. -/
def nodeTag (lexer : Lexer) : Option Lexer := do
  let start := lexer.markKey.forbidKey
  let (handle, rest, source) ←
    if start.source.second? = some '<' then plainTag start.source else handledTag start.source
  guard (endsWord source.next? || (start.inBrackets && source.next?.any isBracketMark))
  return (start.withSource source).add (.tag handle rest) start.source.column

/-! ## Directives -/

/-- Reads the digits of a version. -/
def versionNumber (source : Source) : Option Source :=
  let (digits, source) := source.passWhile fun c => (Text.Numeral.digit? c).isSome
  if digits.isEmpty ∨ digits.length > 9 then none else some source

/-- Passes blanks. -/
def passBlanks (source : Source) : Source :=
  let blanks := source.rest.takeWhile isBlank
  blanks.foldl (fun source _ => source.passBlank) source

/-- Reads a version: two numbers with a point in between. -/
def versionOf (source : Source) : Option (Token × Source) := do
  let source ← versionNumber (passBlanks source)
  guard (source.next? = some '.')
  let source ← versionNumber (source.pass 1)
  return (.version, source)

/-- Reads what a handle stands for: the beginning of tags. -/
def meaning (source : Source) : Option (List Char × Source) := do
  let c ← source.next?
  guard (c = '!' || isTagChar c)
  address isAddressChar [] source source.rest.length

/-- Reads a handle and what it stands for. -/
def handleOf (source : Source) : Option (Token × Source) := do
  let (handle, source) ← handle (passBlanks source)
  guard (isFullHandle handle || handle = ['!'])
  let (meaning, source) ← meaning (passBlanks source)
  guard (endsWord source.next?)
  return (.handle (String.ofList handle) (String.ofList meaning), source)

/-- Reads a directive; one of an unknown name does not count. -/
def directive (lexer : Lexer) : Option Lexer := do
  let start ← (lexer.outdent (-1)).dropKey
  let (name, source) := (start.source.pass 1).passWhile isNameChar
  guard (!name.isEmpty && endsWord source.next?)
  let (token, source) ←
    if name = "YAML".toList then versionOf source
    else if name = "TAG".toList then handleOf source
    else some (.handle "" "", (source.passWhile (· ≠ '\n')).2)
  let (_, lexer) ← (start.forbidKey.withSource source).passRemark true
  guard (endsLine lexer.source.next?)
  return (lexer.withSource lexer.source.passLine).add token start.source.column

end Lexer
end Yaml
end DocStore
