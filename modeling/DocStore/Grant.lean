import DocStore.Dict
import DocStore.Json.Record
import DocStore.Path

/-!
# Grants

A grant is a permission on a path.  Principals are named by text: each user is one,
and two more are shared by many users.
-/

namespace DocStore

/-- A permission on a path. -/
structure Grant where
  /-- The name of the permission. -/
  permission : String
  /-- The path that it is given on. -/
  path : Path
  deriving DecidableEq, Inhabited

/-- Principals under the names of permissions. -/
abbrev GrantSet := Dict (List String)

/-- The principal of every user. -/
def everyone : String := "system.Everyone"

/-- The principal of every user that is known. -/
def authenticated : String := "system.Authenticated"

/-- The principals that a user has without any link: itself and the shared ones. -/
def implicitPrincipals (user : String) : List String :=
  if user = everyone then [user]
  else if user = authenticated then [user, everyone]
  else [user, authenticated, everyone]

namespace Grant

/-- The order of grants: by permission, then by path. -/
def compare (left right : Grant) : Ordering :=
  (Ord.compare left.permission right.permission).then (left.path.compare right.path)

/-- A grant as text. -/
def toText (grant : Grant) : String := grant.permission ++ ":" ++ grant.path.text

/-- The name of the permission in JSON. -/
def permissionField : String := "perm"

/-- The name of the path in JSON. -/
def pathField : String := "path"

/-- A grant as a JSON object, permission first. -/
def toJson (grant : Grant) : Json :=
  .obj [(permissionField, .str grant.permission), (pathField, .str grant.path.text)]

open Json.Input (skipBlanks)
open Json.Reader

/-- Reads one field of a grant.  A field that comes again is refused, and one of
another name is skipped. -/
def readField (name : String) (found : Option String × Option String) (input : Json.Input) :
    Option ((Option String × Option String) × Json.Input) :=
  if name = permissionField then
    if found.1.isSome then none
    else (stringValue? input).map fun read => ((some read.1, found.2), read.2)
  else if name = pathField then
    if found.2.isSome then none
    else (stringValue? input).map fun read => ((found.1, some read.1), read.2)
  else (skip input).map (found, ·)

/-- Reads a grant: an object with both fields, or an array of exactly two strings. -/
def read (input : Json.Input) : Option (Grant × Json.Input) :=
  match skipBlanks input with
  | some '\x7b' :: rest => do
    let ((permission, path), rest) ← record readField (none, none) rest
    some (⟨← permission, ⟨← path⟩⟩, rest)
  | some '[' :: rest => do
    let (permission, rest) ← stringValue? rest
    match skipBlanks rest with
    | some ',' :: rest => closed do
      let (path, rest) ← stringValue? rest
      some (⟨permission, ⟨path⟩⟩, rest)
    | _ => none
  | _ => none

/-- Reads the JSON text of a grant. -/
def ofText? (text : String) : Option Grant := complete (read (Json.Input.ofText text))

end Grant
end DocStore
