import DocStore.Settings.Layers
import DocStore.Yaml.Document

/-!
# Loading settings

Settings come from a YAML file and from the environment.
-/

namespace DocStore

/-! ## Files -/

/-- The number that is written in a file, if it is one; a number that is too great is the
first magnitude beyond the finite ones. -/
def Layers.number? (written : String) : Option Binary64 :=
  match Number.FloatText.read? written.toList with
  | some (.finite x) => some x
  | some (.infinite negative) => some ⟨negative, Binary64.overflow⟩
  | _ => none

/-- The name that a key of a table is. -/
def Layers.keyName? : Yaml.Node → Option String
  | .text name => some name
  | .real name => some name
  | .int n => some (String.ofList (Text.Numeral.showInt n))
  | .bool value => some (if value then "true" else "false")
  | _ => none

mutual

/-- The setting that a node of a file is. -/
def Layers.ofNode : Yaml.Node → Except SettingsError Json
  | .invalid => .ok .null
  | .null => .ok .null
  | .bool value => .ok (.bool value)
  | .int value => .ok (.int value)
  | .real written =>
    match Layers.number? written with
    | some x => .ok (.float x)
    | none => .error .unreadable
  | .text value => .ok (.str value)
  | .list items => (Layers.ofNodes items).map .arr
  | .table members => (Layers.ofMembers [] members).map .obj

/-- The settings that some nodes are. -/
def Layers.ofNodes : List Yaml.Node → Except SettingsError (List Json)
  | [] => .ok []
  | node :: rest => do
    let item ← Layers.ofNode node
    return item :: (← Layers.ofNodes rest)

/-- The members of a table on top of others; the last one of a name counts. -/
def Layers.ofMembers (before : Members) :
    List (Yaml.Node × Yaml.Node) → Except SettingsError Members
  | [] => .ok before
  | (key, value) :: rest =>
    match Layers.keyName? key with
    | some name => do
      let value ← Layers.ofNode value
      Layers.ofMembers (Assoc.insert name value before) rest
    | none => .error .namelessKey

end

/-- A text without the mark of its byte order. -/
def Layers.withoutByteOrder : List Char → List Char
  | '\ufeff' :: rest => rest
  | chars => chars

/-- The layer of a file: a single table, or nothing at all. -/
def Layers.ofYaml (text : String) : Except SettingsError Members :=
  match Yaml.Node.ofText? (String.ofList (Layers.withoutByteOrder text.toList)) with
  | some [] => .ok []
  | some [document] => do
    match ← Layers.ofNode document with
    | .obj members => return members
    | _ => throw .unreadable
  | _ => .error .unreadable

namespace ServerSettings

/-- Loads settings from the environment alone. -/
def ofEnvironment (environment : List (String × String)) : Except SettingsError ServerSettings :=
  ofLayers [] environment

/-- Loads settings from a file, of which the content is given if it exists, and from the
environment. -/
def load (path : String) (content : Option String) (environment : List (String × String)) :
    Except SettingsError ServerSettings :=
  match content with
  | none => .error (.fileNotFound path)
  | some text => (Layers.ofYaml text).bind fun file => ofLayers file environment

end ServerSettings
end DocStore
