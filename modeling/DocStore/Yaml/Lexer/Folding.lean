import DocStore.Yaml.Source

/-!
# Folding of lines

Where a scalar goes over several lines, a single line break is a blank, and of several the
first one is dropped, as are the blanks around them.  A line break behind a backslash is
no blank either.
-/

namespace DocStore
namespace Yaml

/-- A text that is read, with what is not yet known to lie within it. -/
structure Folding where
  /-- The text, its last character first. -/
  text : List Char
  /-- The blanks since the last character, the last one first. -/
  blanks : List Char
  /-- How many line breaks there were since the last character. -/
  breaks : Nat
  /-- Whether a line break behind a backslash came before them. -/
  joined : Bool

namespace Folding

/-- Nothing yet. -/
def start : Folding := ⟨[], [], 0, false⟩

/-- Whether the line of the last character is over. -/
def isBroken (folding : Folding) : Bool := folding.joined || folding.breaks > 0

/-- Takes a blank in. -/
def blank (folding : Folding) (c : Char) : Folding :=
  if folding.isBroken then folding else { folding with blanks := c :: folding.blanks }

/-- Takes a line break in. -/
def newline (folding : Folding) : Folding :=
  { folding with blanks := [], breaks := folding.breaks + 1 }

/-- The text with the blanks and line breaks after it. -/
def settled (folding : Folding) : List Char :=
  if folding.joined then List.replicate folding.breaks '\n' ++ folding.text
  else
    match folding.breaks with
    | 0 => folding.blanks ++ folding.text
    | 1 => ' ' :: folding.text
    | breaks + 2 => List.replicate (breaks + 1) '\n' ++ folding.text

/-- Takes a character in that is kept as it is. -/
def keep (folding : Folding) (c : Char) : Folding := ⟨c :: folding.settled, [], 0, false⟩

/-- Takes a line break behind a backslash in. -/
def join (folding : Folding) : Folding := ⟨folding.settled, [], 0, true⟩

/-- The text, without what came after its last character. -/
def chars (folding : Folding) : List Char := folding.text.reverse

/-- The text, with what came after its last character. -/
def allChars (folding : Folding) : List Char := folding.settled.reverse

end Folding
end Yaml
end DocStore
