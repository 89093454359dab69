import DocStore.Json.Number
import DocStore.Text.Hex

/-!
# Reading JSON text

Input is characters in which bytes that are no character have left gaps.  Values
nest at most 127 deep, a repeated member keeps its last value, and surrogates must
come in pairs.  A value that is only skipped is held to the grammar alone: it may
nest deeper, hold lone surrogates and gaps inside strings, and numerals beyond
every range.
-/

namespace DocStore
namespace Json

/-- Characters and gaps. -/
abbrev Input := List (Option Char)

namespace Input

/-- The input of a text, which has no gaps. -/
def ofText (text : String) : Input := text.toList.map some

/-- Leaves out blanks: space, tab, line feed and carriage return. -/
def skipBlanks : Input → Input
  | some ' ' :: rest => skipBlanks rest
  | some '\n' :: rest => skipBlanks rest
  | some '\t' :: rest => skipBlanks rest
  | some '\r' :: rest => skipBlanks rest
  | rest => rest

/-- Whether nothing but blanks is left. -/
def isDone (input : Input) : Bool := (skipBlanks input).isEmpty

/-- What follows a word. -/
def after? : List Char → Input → Option Input
  | [], rest => some rest
  | c :: word, some d :: rest => if c = d then after? word rest else none
  | _ :: _, _ => none

end Input

namespace Reader

open Input (skipBlanks after?)

/-! ## Strings -/

/-- A piece of a string: a character or gap, or a code unit spelled `\uXXXX`. -/
inductive Element where
  | plain (c : Option Char)
  | unit (code : Nat)

/-- The number of four hexadecimal digits. -/
def fourHex? (a b c d : Char) : Option Nat := do
  let a ← Text.hexDigit? a
  let b ← Text.hexDigit? b
  let c ← Text.hexDigit? c
  let d ← Text.hexDigit? d
  some (((a * 16 + b) * 16 + c) * 16 + d)

/-- The character of a short escape. -/
def escape? : Char → Option Char
  | '"' => some '"'
  | '\\' => some '\\'
  | '/' => some '/'
  | 'b' => some '\x08'
  | 'f' => some '\x0c'
  | 'n' => some '\n'
  | 'r' => some '\r'
  | 't' => some '\t'
  | _ => none

/-- The pieces of a string up to its closing quote, and what follows. -/
def elements : Input → Option (List Element × Input)
  | some '"' :: rest => some ([], rest)
  | some '\\' :: some 'u' :: some a :: some b :: some c :: some d :: rest => do
    let code ← fourHex? a b c d
    let (more, after) ← elements rest
    some (.unit code :: more, after)
  | some '\\' :: some short :: rest => do
    let c ← escape? short
    let (more, after) ← elements rest
    some (.plain (some c) :: more, after)
  | some '\\' :: _ => none
  | some c :: rest =>
    if c.toNat < 0x20 then none
    else do
      let (more, after) ← elements rest
      some (.plain (some c) :: more, after)
  | none :: rest => do
    let (more, after) ← elements rest
    some (.plain none :: more, after)
  | [] => none

/-- Whether a code unit is the first half of a pair. -/
def isHighSurrogate (code : Nat) : Bool := 0xD800 ≤ code && code < 0xDC00

/-- Whether a code unit is the second half of a pair. -/
def isLowSurrogate (code : Nat) : Bool := 0xDC00 ≤ code && code < 0xE000

/-- The characters of pieces, if there is no gap and every surrogate has its pair. -/
def characters : List Element → Option (List Char)
  | [] => some []
  | .plain none :: _ => none
  | .plain (some c) :: rest => (characters rest).map (c :: ·)
  | .unit high :: .unit low :: rest =>
    if isHighSurrogate high then
      if isLowSurrogate low then
        (characters rest).map
          (Char.ofNat (0x10000 + (high - 0xD800) * 0x400 + (low - 0xDC00)) :: ·)
      else none
    else if isLowSurrogate high then none
    else (characters (.unit low :: rest)).map (Char.ofNat high :: ·)
  | .unit code :: rest =>
    if isHighSurrogate code || isLowSurrogate code then none
    else (characters rest).map (Char.ofNat code :: ·)

/-- Reads a string after its opening quote. -/
def string? (input : Input) : Option (String × Input) := do
  let (pieces, rest) ← elements input
  let chars ← characters pieces
  some (String.ofList chars, rest)

/-! ## Numbers -/

/-- The digits at the start of the input, and what follows them. -/
def spanDigits : Input → List Nat × Input
  | some c :: rest =>
    match Text.Numeral.digit? c with
    | some digit =>
      let (more, after) := spanDigits rest
      (digit :: more, after)
    | none => ([], some c :: rest)
  | rest => ([], rest)

/-- Reads digits, of which there must be one. -/
def digits? (input : Input) : Option (List Nat × Input) :=
  match spanDigits input with
  | ([], _) => none
  | found => some found

/-- Reads the digits before the point: no zero stands in front of another digit. -/
def whole? (input : Input) : Option (List Nat × Input) := do
  let (digits, rest) ← digits? input
  match digits with
  | 0 :: _ :: _ => none
  | _ => some (digits, rest)

/-- Reads a point and the digits after it, if there is a point. -/
def fraction? : Input → Option (Option (List Nat) × Input)
  | some '.' :: rest => do
    let (digits, rest) ← digits? rest
    some (some digits, rest)
  | rest => some (none, rest)

/-- Reads the digits of an exponent after its sign. -/
def exponentDigits? (lower : Bool) (input : Input) :
    Option (Option (Bool × List Nat) × Input) := do
  let (digits, rest) ← digits? input
  some (some (lower, digits), rest)

/-- Reads an optional sign and the digits of an exponent. -/
def signedExponent? : Input → Option (Option (Bool × List Nat) × Input)
  | some '+' :: rest => exponentDigits? false rest
  | some '-' :: rest => exponentDigits? true rest
  | rest => exponentDigits? false rest

/-- Reads an exponent, if there is one. -/
def exponent? : Input → Option (Option (Bool × List Nat) × Input)
  | some 'e' :: rest => signedExponent? rest
  | some 'E' :: rest => signedExponent? rest
  | rest => some (none, rest)

/-- Reads a numeral after its sign. -/
def unsigned? (negative : Bool) (input : Input) : Option (Numeral × Input) := do
  let (whole, rest) ← whole? input
  let (fraction, rest) ← fraction? rest
  let (exponent, rest) ← exponent? rest
  some (⟨negative, whole, fraction, exponent⟩, rest)

/-- Reads a numeral. -/
def numeral? : Input → Option (Numeral × Input)
  | some '-' :: rest => unsigned? true rest
  | rest => unsigned? false rest

/-! ## Values -/

/-- A reader of one value. -/
abbrev ValueReader := Input → Option (Json × Input)

/-- Reads the items of an array up to its closing bracket; the fuel bounds their
number. -/
def items (item : ValueReader) : Nat → Input → Option (List Json × Input)
  | 0, _ => none
  | fuel + 1, input => do
    let (first, rest) ← item input
    match skipBlanks rest with
    | some ',' :: rest => do
      let (others, rest) ← items item fuel rest
      some (first :: others, rest)
    | some ']' :: rest => some ([first], rest)
    | _ => none

/-- Reads a name, a colon and a value. -/
def member (value : ValueReader) (input : Input) : Option ((String × Json) × Input) :=
  match skipBlanks input with
  | some '"' :: rest => do
    let (name, rest) ← string? rest
    match skipBlanks rest with
    | some ':' :: rest => do
      let (found, rest) ← value rest
      some ((name, found), rest)
    | _ => none
  | _ => none

/-- Reads the members of an object up to its closing brace; the fuel bounds their
number. -/
def members (value : ValueReader) : Nat → Input → Option (List (String × Json) × Input)
  | 0, _ => none
  | fuel + 1, input => do
    let (first, rest) ← member value input
    match skipBlanks rest with
    | some ',' :: rest => do
      let (others, rest) ← members value fuel rest
      some (first :: others, rest)
    | some '\x7d' :: rest => some ([first], rest)
    | _ => none

/-- Reads an array after its opening bracket. -/
def array (item : ValueReader) (input : Input) : Option (List Json × Input) :=
  match skipBlanks input with
  | some ']' :: rest => some ([], rest)
  | rest => items item rest.length rest

/-- Reads an object after its opening brace. -/
def object (value : ValueReader) (input : Input) : Option (List (String × Json) × Input) :=
  match skipBlanks input with
  | some '\x7d' :: rest => some ([], rest)
  | rest => members value rest.length rest

/-- Reads a value whose items and members another reader reads; without one,
arrays and objects are refused. -/
def valueWith (inner : Option ValueReader) (input : Input) : Option (Json × Input) :=
  match skipBlanks input with
  | some 'n' :: rest => (after? ['u', 'l', 'l'] rest).map (Json.null, ·)
  | some 't' :: rest => (after? ['r', 'u', 'e'] rest).map (Json.bool true, ·)
  | some 'f' :: rest => (after? ['a', 'l', 's', 'e'] rest).map (Json.bool false, ·)
  | some '"' :: rest => do
    let (text, rest) ← string? rest
    some (.str text, rest)
  | some '[' :: rest => do
    let (found, rest) ← array (← inner) rest
    some (.arr found, rest)
  | some '\x7b' :: rest => do
    let (found, rest) ← object (← inner) rest
    some (.obj (Assoc.ofList found), rest)
  | rest => do
    let (numeral, rest) ← numeral? rest
    some (← numeral.value?, rest)

/-- Reads a value that nests at most so deep. -/
def value : Nat → ValueReader
  | 0 => valueWith none
  | depth + 1 => valueWith (some (value depth))

/-! ## Skipping -/

/-- What follows one value. -/
abbrev Skipper := Input → Option Input

/-- Skips the items of an array up to its closing bracket. -/
def skipItems (item : Skipper) : Nat → Skipper
  | 0, _ => none
  | fuel + 1, input => do
    match skipBlanks (← item input) with
    | some ',' :: rest => skipItems item fuel rest
    | some ']' :: rest => some rest
    | _ => none

/-- Skips a name, a colon and a value. -/
def skipMember (value : Skipper) (input : Input) : Option Input :=
  match skipBlanks input with
  | some '"' :: rest => do
    let (_, rest) ← elements rest
    match skipBlanks rest with
    | some ':' :: rest => value rest
    | _ => none
  | _ => none

/-- Skips the members of an object up to its closing brace. -/
def skipMembers (value : Skipper) : Nat → Skipper
  | 0, _ => none
  | fuel + 1, input => do
    match skipBlanks (← skipMember value input) with
    | some ',' :: rest => skipMembers value fuel rest
    | some '\x7d' :: rest => some rest
    | _ => none

/-- Skips a value; the fuel bounds its depth. -/
def skipValue : Nat → Skipper
  | 0, _ => none
  | fuel + 1, input =>
    match skipBlanks input with
    | some 'n' :: rest => after? ['u', 'l', 'l'] rest
    | some 't' :: rest => after? ['r', 'u', 'e'] rest
    | some 'f' :: rest => after? ['a', 'l', 's', 'e'] rest
    | some '"' :: rest => (elements rest).map (·.2)
    | some '[' :: rest =>
      match skipBlanks rest with
      | some ']' :: rest => some rest
      | rest => skipItems (skipValue fuel) rest.length rest
    | some '\x7b' :: rest =>
      match skipBlanks rest with
      | some '\x7d' :: rest => some rest
      | rest => skipMembers (skipValue fuel) rest.length rest
    | rest => (numeral? rest).map (·.2)

/-- Skips a value of any depth. -/
def skip (input : Input) : Option Input := skipValue (input.length + 1) input

end Reader

/-- How deep values nest at most. -/
def maxDepth : Nat := 127

/-- Reads the value at the start of the input. -/
def readFirst? (input : Input) : Option (Json × Input) := Reader.value maxDepth input

/-- Reads a text that is one value between blanks. -/
def parse? (text : String) : Option Json :=
  match readFirst? (Input.ofText text) with
  | some (value, rest) => if Input.isDone rest then some value else none
  | none => none

end Json
end DocStore
