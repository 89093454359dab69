import DocStore.Unicode.Direction
import DocStore.Unicode.Joining
import DocStore.Unicode.NormalForm
import DocStore.Url.DomainMapping
import DocStore.Url.Punycode

/-!
# Domains

A domain is a row of labels between dots.  Before it is looked up, its characters are
replaced and composed, its labels are checked, and labels with characters beyond ASCII are
coded.  A label that is coded already must be the code of a label that needs it.
-/

namespace DocStore
namespace Domain

/-- The composed text with all characters replaced; `none` if one may not occur. -/
def normal? (chars : List Char) : Option (List Char) :=
  (chars.mapM replacement?).map fun replaced => Unicode.NormalForm.ofChars replaced.flatten

/-! ## Labels -/

/-- Whether a label is in ASCII. -/
def isPlain (label : List Char) : Bool := label.all (·.toNat < 0x80)

/-- Whether a character may not stand in a domain of a URL: blanks, controls, and
characters that delimit the parts of a URL. -/
def isForbidden (c : Char) : Bool :=
  c.toNat ≤ 0x20 || c = '\x7f' ||
    ['%', '#', '/', ':', '<', '>', '?', '@', '[', '\\', ']', '^', '|'].contains c

/-- Whether a joiner of letters without a space stands between letters that join. -/
def joinsNeighbours (before after : List Char) : Bool :=
  (before.find? (!Unicode.isTransparent ·)).any Unicode.joinsForward &&
    (after.find? (!Unicode.isTransparent ·)).any Unicode.joinsBackward

/-- Whether a joiner fits behind some characters, the last one first, and in front of
others. -/
def joinerFits (before : List Char) (c : Char) (after : List Char) : Bool :=
  before.head?.any (Unicode.combiningClass · = Unicode.viramaClass) ||
    (c = '\u200c' && joinsNeighbours before after)

/-- Whether the joiners of a label fit where they stand; `before` is what was passed, the
last character first. -/
def joinersFit (before : List Char) : List Char → Bool
  | [] => true
  | c :: after =>
    ((c ≠ '\u200c' && c ≠ '\u200d') || joinerFits before c after) &&
      joinersFit (c :: before) after

/-- How long a label beyond ASCII may be. -/
def longestLabel : Nat := 1000

/-- Whether a label may be part of a domain. -/
def isProper (label : List Char) : Bool :=
  !label.any isForbidden &&
    (isPlain label ||
      (!label.head?.any Unicode.isMark && joinersFit [] label && label.length ≤ longestLabel))

/-! ## Directions -/

/-- Whether a label has a part that runs to the left; Hebrew letters are the first ones
that do. -/
def runsLeftward (label : List Char) : Bool :=
  label.any fun c =>
    c.toNat ≥ 0x590 &&
      (Unicode.direction c = .leftward || Unicode.direction c = .arabicNumber)

/-- Whether a label behind its first character keeps to one direction; the directions are
given from the last one on, marks at the end left out. -/
def keepsDirection (first : Unicode.Direction) (backwards : List Unicode.Direction) : Bool :=
  match first with
  | .rightward =>
    backwards.head?.all [.rightward, .europeanNumber].contains &&
      backwards.all [.rightward, .europeanNumber, .neutral, .inherited].contains
  | .leftward =>
    backwards.head?.all [.leftward, .arabicNumber, .europeanNumber].contains &&
      backwards.all
        [.leftward, .arabicNumber, .europeanNumber, .neutral, .inherited].contains &&
      !(backwards.contains .arabicNumber && backwards.contains .europeanNumber)
  | _ => false

/-- Whether a label may stand in a domain with a part that runs to the left. -/
def isDirected : List Char → Bool
  | [] => true
  | first :: rest =>
    let backwards := (rest.map Unicode.direction).reverse.dropWhile (· = .inherited)
    keepsDirection (Unicode.direction first) backwards

/-! ## The ASCII form -/

/-- The mark at the start of coded labels. -/
def codeMark : List Char := ['x', 'n', '-', '-']

/-- How long the code of a label may be. -/
def longestCode : Nat := 2000

/-- The label that a label stands for, itself unless it is coded. -/
def meant? (label : List Char) : Option (List Char) :=
  match Text.afterStart? codeMark label with
  | none => some label
  | some code =>
    if isPlain code ∧ code.length ≤ longestCode then do
      let decoded ← Punycode.decode? code
      if !isPlain decoded ∧ normal? decoded = some decoded then some decoded else none
    else none

/-- A label in ASCII. -/
def asciiLabel (label : List Char) : List Char :=
  if isPlain label then label else codeMark ++ Punycode.encode label

/-- The ASCII form of a domain. -/
def ascii? (chars : List Char) : Option (List Char) := do
  let labels := Text.splitOn '.' (← normal? chars)
  let meant ← labels.mapM meant?
  if !meant.all isProper then none
  if meant.any runsLeftward ∧ !meant.all isDirected then none
  some (Text.join '.' (labels.map asciiLabel))

end Domain
end DocStore
