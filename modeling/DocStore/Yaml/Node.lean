import DocStore.Number.FloatText
import DocStore.Text.Hex
import DocStore.Text.Numeral

/-!
# Nodes of YAML

A plain scalar is a null, a truth value, a number or else a text; any other scalar is a
text.  A tag may ask for one of these.
-/

namespace DocStore
namespace Yaml

/-- A node. -/
inductive Node where
  /-- A scalar that is not what its tag asks for. -/
  | invalid
  /-- Nothing. -/
  | null
  /-- A truth value. -/
  | bool (value : Bool)
  /-- An integer of 64 bits. -/
  | int (value : Int)
  /-- A number that is no integer, the way it is written. -/
  | real (text : String)
  /-- A text. -/
  | text (value : String)
  /-- A sequence. -/
  | list (items : List Node)
  /-- A mapping, in the order in which it is written. -/
  | table (members : List (Node × Node))
  deriving Inhabited

namespace Node

/-! ## Equality -/

mutual

/-- Whether two nodes are the same. -/
def same : Node → Node → Bool
  | invalid, invalid => true
  | null, null => true
  | bool a, bool b => a == b
  | int a, int b => a == b
  | real a, real b => a == b
  | text a, text b => a == b
  | list items, list others => sameItems items others
  | table members, table others => sameMembers members others
  | _, _ => false

/-- Whether two lists of nodes are the same. -/
def sameItems : List Node → List Node → Bool
  | [], [] => true
  | item :: items, other :: others => same item other && sameItems items others
  | _, _ => false

/-- Whether two lists of members are the same. -/
def sameMembers : List (Node × Node) → List (Node × Node) → Bool
  | [], [] => true
  | (key, value) :: members, other :: others =>
    same key other.1 && same value other.2 && sameMembers members others
  | _, _ => false

end

/-- Whether a node is an invalid scalar. -/
def isInvalid : Node → Bool
  | invalid => true
  | _ => false

/-! ## Plain scalars -/

/-- The number that digits of a base make, on top of another one. -/
def basedFrom? (base : Nat) (value : Nat) (digits : List Char) : Option Nat :=
  digits.foldlM
    (fun value c => do
      let digit ← Text.hexDigit? c
      if digit < base then some (value * base + digit) else none)
    value

/-- An integer of 64 bits in a base, perhaps with a sign. -/
def based? (base : Nat) (chars : List Char) : Option Int := do
  let (negative, digits) := match chars with
    | '-' :: rest => (true, rest)
    | '+' :: rest => (false, rest)
    | rest => (false, rest)
  guard (!digits.isEmpty)
  let value ← basedFrom? base 0 digits
  if negative then if value ≤ 1 <<< 63 then some (-(value : Int)) else none
  else if value < 1 <<< 63 then some value else none

/-- An integer of 64 bits; a plus sign in front of it may have another sign behind it. -/
def integer? (chars : List Char) : Option Int :=
  let found := match chars with
    | '0' :: 'x' :: digits => based? 16 digits
    | '0' :: 'o' :: digits => based? 8 digits
    | '+' :: rest => (Text.Numeral.readInt64 rest).toOption
    | _ => none
  found.orElse fun _ => (Text.Numeral.readInt64 chars).toOption

/-- The words for infinity and for what is no number. -/
def specialWords : List String :=
  [".inf", ".Inf", ".INF", "+.inf", "+.Inf", "+.INF", "-.inf", "-.Inf", "-.INF", ".nan", ".NaN",
    ".NAN"]

/-- Whether a text is a number that is no integer; it has a digit, or is a special word. -/
def isReal (chars : List Char) : Bool :=
  specialWords.contains (String.ofList chars) ||
    (chars.any fun c => (Text.Numeral.digit? c).isSome) &&
      (Number.FloatText.read? chars).isSome

/-- The node of a plain scalar. -/
def ofPlain (written : String) : Node :=
  match integer? written.toList with
  | some value => .int value
  | none =>
    if written = "" ∨ written = "~" ∨ written = "null" then .null
    else if written = "true" then .bool true
    else if written = "false" then .bool false
    else if isReal written.toList then .real written
    else .text written

/-! ## Tags -/

/-- A tag: what its handle stands for, and what is behind it. -/
structure Tag where
  /-- What the handle stands for. -/
  space : String
  /-- What is behind it. -/
  name : String
  deriving DecidableEq

/-- What the tags of the common types start with. -/
def commonSpace : String := "tag:yaml.org,2002:"

/-- The node of a plain scalar with a tag. -/
def ofTagged (tag : Tag) (written : String) : Node :=
  if tag.space ≠ commonSpace then .text written
  else if tag.name = "bool" then
    if written = "true" then .bool true
    else if written = "false" then .bool false
    else .invalid
  else if tag.name = "int" then
    match Text.Numeral.readInt64 written.toList with
    | .ok value => .int value
    | .error _ => .invalid
  else if tag.name = "float" then if isReal written.toList then .real written else .invalid
  else if tag.name = "null" then
    if written = "~" ∨ written = "null" then .null else .invalid
  else .text written

/-- The node of a scalar, plain or not. -/
def ofScalar (plain : Bool) (tag : Option Tag) (written : String) : Node :=
  if !plain then .text written
  else
    match tag with
    | some tag => ofTagged tag written
    | none => ofPlain written

/-! ## Mappings -/

/-- Pairs the nodes of a mapping, each key with the value behind it; no key comes twice.
An invalid key does not count, so that its value is taken for the key. -/
def paired? (members : List (Node × Node)) (key : Node) : List Node → Option (List (Node × Node))
  | [] => some members.reverse
  | node :: rest =>
    if key.isInvalid then paired? members node rest
    else if members.any fun member => same member.1 key then none
    else paired? ((key, node) :: members) .invalid rest

/-- The mapping of nodes, of which each second one is a value. -/
def ofMembers? (nodes : List Node) : Option Node := (paired? [] .invalid nodes).map .table

end Node
end Yaml
end DocStore
