import DocStore.Epoch
import DocStore.Json.Coercion
import DocStore.RequestError
import DocStore.Text.Split

/-!
# Documents

A document has an identifier, the epoch of its last modification, a mark that makes
it a tombstone, and user fields.  A field name is one of the three reserved names
or a path of member names joined by dots.
-/

namespace DocStore

/-- A stored document. -/
structure Document where
  /-- The identifier within its collection. -/
  id : String
  /-- The epoch of the last modification. -/
  modified : Epoch
  /-- Whether it is a tombstone. -/
  deleted : Bool
  /-- The user fields. -/
  fields : Members
  deriving Inhabited

namespace Document

/-- The name of the identifier. -/
def idField : String := "id"

/-- The name of the epoch. -/
def modifiedField : String := "last_modified"

/-- The name of the tombstone mark. -/
def deletedField : String := "deleted"

/-- Whether a name is reserved. -/
def isReserved (field : String) : Bool :=
  field == idField || field == modifiedField || field == deletedField

/-- A document with an identifier and nothing else. -/
def withId (id : String) : Document := ⟨id, Epoch.zero, false, []⟩

/-! ## From and to JSON -/

/-- The identifier that a value stands for. -/
def idOfJson : Option Json → String
  | some value => value.toText
  | none => ""

/-- Reads a document: the reserved members become its metadata, and a tombstone has
no fields. -/
def ofJson : Json → Except RequestError Document
  | .obj members =>
    let deleted := (Assoc.find? deletedField members).any Json.truthy
    let fields :=
      Assoc.erase deletedField (Assoc.erase modifiedField (Assoc.erase idField members))
    .ok {
      id := idOfJson (Assoc.find? idField members)
      modified := ⟨((Assoc.find? modifiedField members).map Json.toInt).getD 0⟩
      deleted
      fields := if deleted then [] else fields }
  | _ => .error .notAnObject

/-- The members that describe the metadata, in the order of writing. -/
def metadata (document : Document) : List (String × Json) :=
  [(idField, .str document.id), (modifiedField, .int document.modified.millis)]

/-- The members that follow the metadata: the mark of a tombstone, or the fields. -/
def content (document : Document) : List (String × Json) :=
  if document.deleted then [(deletedField, .bool true)] else document.fields

/-- The document as a JSON object. -/
def toJson (document : Document) : Json :=
  .obj (Assoc.ofList (document.metadata ++ document.content))

/-- The document as JSON text, metadata first. -/
def serialize (document : Document) : String :=
  (Json.obj (document.metadata ++ document.content)).render

/-- The length of the JSON text in bytes. -/
def byteSize (document : Document) : Nat := document.serialize.utf8ByteSize

/-! ## Reading fields -/

/-- The names along a dotted path. -/
def segments (field : String) : List String := Text.splitText '.' field

/-- The member or item that a name selects: arrays have decimal numbers as names. -/
def step? (name : String) : Json → Option Json
  | .obj members => Assoc.find? name members
  | .arr items =>
    match Text.Numeral.readNat Text.Numeral.max64 name.toList with
    | .ok index => items[index]?
    | .error _ => none
  | _ => none

/-- The value at the end of a path of names. -/
def follow? : List String → Json → Option Json
  | [], value => some value
  | name :: rest, value => (step? name value).bind (follow? rest)

/-- The value of a user field: the member of exactly this name, else the one at the
end of the dotted path. -/
def lookup? (fields : Members) (field : String) : Option Json :=
  if field.isEmpty then none
  else
    match Assoc.find? field fields with
    | some value => some value
    | none => follow? (segments field) (.obj fields)

/-- The value of a field. -/
def get? (document : Document) (field : String) : Option Json :=
  if field = idField then some (.str document.id)
  else if field = modifiedField then some (.int document.modified.millis)
  else if field = deletedField then some (.bool document.deleted)
  else lookup? document.fields field

/-! ## Writing fields -/

/-- The members of a value, none where it is no object. -/
def membersOf : Option Json → Members
  | some (.obj members) => members
  | _ => []

/-- Puts a value at the end of a path of names.  Whatever is no object on the way
becomes one. -/
def put (value : Json) : List String → Members → Members
  | [], fields => fields
  | [name], fields => Assoc.insert name value fields
  | name :: next :: rest, fields =>
    Assoc.insert name (.obj (put value (next :: rest) (membersOf (Assoc.find? name fields)))) fields

/-- Gives a field a value.  Reserved fields demand their type. -/
def set (document : Document) (field : String) (value : Json) : Except RequestError Document :=
  if field = idField then
    match value with
    | .str text => .ok { document with id := text }
    | _ => .error (.fieldType field .string)
  else if field = modifiedField then
    match value with
    | .int millis =>
      if Number.Extended.clampInt64 millis = millis then
        .ok { document with modified := ⟨millis⟩ }
      else .error (.fieldType field .number)
    | _ => .error (.fieldType field .number)
  else if field = deletedField then
    match value with
    | .bool deleted => .ok { document with deleted }
    | _ => .error (.fieldType field .boolean)
  else .ok { document with fields := put value (segments field) document.fields }

/-- Takes over another document: its identifier if it has one, and all of its fields.
The later epoch stays, and a tombstone stays one. -/
def update (document other : Document) : Document where
  id := if other.id.isEmpty then document.id else other.id
  modified := document.modified.max other.modified
  deleted := document.deleted || other.deleted
  fields := other.fields

mutual

/-- What a patch value leaves of the value before it: an object merges into an object,
anything else replaces. -/
def mergeValue (before : Option Json) : Json → Json
  | .obj patch =>
    match before with
    | some (.obj members) => .obj (mergeMembers members patch)
    | _ => .obj patch
  | value => value

/-- Merges the members of a patch one by one; nulls do not count. -/
def mergeMembers (fields : Members) : List (String × Json) → Members
  | [] => fields
  | (_, .null) :: rest => mergeMembers fields rest
  | (name, value) :: rest =>
    mergeMembers (Assoc.insert name (mergeValue (Assoc.find? name fields) value) fields) rest

end

/-- Merges the fields of another document into this one, as deep as objects meet
objects. -/
def patch (document other : Document) : Document :=
  { document with fields := mergeMembers document.fields other.fields }

end Document
end DocStore
