import DocStore.Number.FloatText
import DocStore.Settings.Decode
import DocStore.Text.Split

/-!
# Layers of settings

Settings are laid over one another: standard values, a file, variables of the
environment.  A table is merged into what lies below it, and every other value replaces
it.  A name at the top of a layer may be a path into the tables below.
-/

namespace DocStore
namespace Layers

/-! ## Paths -/

/-- A step of a path. -/
inductive Step where
  /-- The member of a table. -/
  | member (name : String)
  /-- The item of a list; below zero it counts from the end. -/
  | item (index : Int)
  deriving DecidableEq, Repr

/-- The characters of a name within a path. -/
def isNameChar (c : Char) : Bool := c.isAlphanum || c = '_' || c = '-' || c = ' '

/-- The name at the start of a text, and what follows. -/
def name? (chars : List Char) : Option (String × List Char) :=
  match chars.span isNameChar with
  | ([], _) => none
  | (name, rest) => some (String.ofList name, rest)

/-- A text without the spaces and tabs in front of it. -/
def withoutSpaces (chars : List Char) : List Char :=
  chars.dropWhile fun c => c = ' ' || c = '\t'

/-- The index at the start of a text, perhaps between spaces, with the bracket that closes
it. -/
def index? (chars : List Char) : Option (Int × List Char) :=
  let (negative, chars) := match withoutSpaces chars with
    | '-' :: rest => (true, rest)
    | rest => (false, rest)
  let (digits, rest) := Number.FloatText.spanDigits chars
  match digits, withoutSpaces rest with
  | [], _ => none
  | digits, ']' :: rest =>
    let value : Int := Number.FloatText.ofDigits digits
    some (if negative then -value else value, rest)
  | _, _ => none

/-- The steps after the first, each of which takes at least one character. -/
def furtherSteps? : Nat → List Char → Option (List Step)
  | _, [] => some []
  | 0, _ => none
  | fuel + 1, '.' :: rest => do
    let (name, rest) ← name? rest
    return .member name :: (← furtherSteps? fuel rest)
  | fuel + 1, '[' :: rest => do
    let (index, rest) ← index? rest
    return .item index :: (← furtherSteps? fuel rest)
  | _, _ => none

/-- The path that a name is, if it is one. -/
def path? (name : String) : Option (List Step) := do
  let (first, rest) ← name? name.toList
  return .member first :: (← furtherSteps? rest.length rest)

/-- The path of a name; a name that is no path stands for itself. -/
def pathOf (name : String) : List Step := (path? name).getD [.member name]

/-! ## Merging -/

/-- The members of a table, none for anything else. -/
def tableOf : Json → Members
  | .obj members => members
  | _ => []

/-- The items of a list, none for anything else. -/
def itemsOf : Json → List Json
  | .arr items => items
  | _ => []

mutual

/-- Lays a value over what was there. -/
def lay (before : Option Json) : Json → Json
  | .obj [] => before.getD (.obj [])
  | .obj (entry :: rest) => .obj (layMembers (tableOf (before.getD .null)) (entry :: rest))
  | value => value

/-- Lays the members of a table over others. -/
def layMembers (below : Members) : List (String × Json) → Members
  | [] => below
  | (name, value) :: rest =>
    layMembers (Assoc.insert name (lay (Assoc.find? name below) value) below) rest

end

/-- The place of an index in a list of the given length. -/
def placeOf (index : Int) (length : Nat) : Nat :=
  match index with
  | .ofNat n => n
  | .negSucc n => length - (n + 1)

/-- Puts an item at a place; the list grows by nulls as far as needed. -/
def putItem (items : List Json) (place : Nat) (value : Json) : List Json :=
  (items ++ List.replicate (place + 1 - items.length) Json.null).set place value

/-- Lays a value at a path.  What is in the way becomes a table or a list. -/
def put (value : Json) : List Step → Option Json → Json
  | [], before => lay before value
  | .member name :: rest, before =>
    let members := tableOf (before.getD .null)
    .obj (Assoc.insert name (put value rest (Assoc.find? name members)) members)
  | .item index :: rest, before =>
    let items := itemsOf (before.getD .null)
    let place := placeOf index items.length
    .arr (putItem items place (put value rest (if rest.isEmpty then none else items[place]?)))

/-- Lays a layer over a table; its names are paths. -/
def overlay (below : Json) (layer : Members) : Json :=
  layer.foldl (fun below entry => put entry.2 (pathOf entry.1) (some below)) below

/-! ## Environment -/

/-- The beginning of the names of variables that are settings. -/
def variableStart : String := "tessera_"

/-- Replaces each pair of underscores by a point, from the left. -/
def pointed : List Char → List Char
  | '_' :: '_' :: rest => '.' :: pointed rest
  | c :: rest => c :: pointed rest
  | [] => []

/-- The setting that a variable is: its name in small letters without the beginning, with
pairs of underscores between section and key. -/
def settingOf? (entry : String × String) : Option (String × Json) :=
  (Text.afterStart? variableStart.toList (entry.1.toList.map Char.toLower)).map fun rest =>
    (String.ofList (pointed rest), .str entry.2)

/-- The layer of an environment. -/
def ofEnvironment (environment : List (String × String)) : Members :=
  Assoc.ofList (environment.filterMap settingOf?)

end Layers

/-- Makes settings of a file's layer, if there is a file, and the environment, and checks
them.  The standard settings lie below both. -/
def ServerSettings.ofLayers (file : Members) (environment : List (String × String)) :
    Except SettingsError ServerSettings := do
  let base := Layers.overlay ServerSettings.standard.toJson file
  let whole := Layers.overlay base (Layers.ofEnvironment environment)
  match SettingsReader.loose.server whole with
  | none => throw .unreadable
  | some settings => do
    settings.check
    return settings

end DocStore
