import DocStore.Dict
import DocStore.Filter
import DocStore.Json.Record
import DocStore.SortKey
import DocStore.Text.Base64Url
import DocStore.Text.Utf8

/-!
# Cursors

A cursor marks the last document of a page: a one-time word, and the values that the
document has in the fields that the listing is ordered by.  Its token is base64url
of a JSON object.  The next page holds the documents that one of the cursor's
conditions admits.
-/

namespace DocStore

/-- The end of a page. -/
structure Cursor where
  /-- A word that is accepted once. -/
  nonce : String
  /-- The values of the sort fields, other than null. -/
  last : Dict Json

namespace Cursor

/-- The cursor without content. -/
def empty : Cursor := ⟨"", Dict.empty⟩

/-- The cursor after a document of a listing in the order of the keys. -/
def afterDocument (nonce : String) (last : Document) (keys : List SortKey) : Cursor where
  nonce
  last := Dict.ofList <| keys.filterMap fun key =>
    match last.get? key.field with
    | some .null => none
    | some value => some (key.field, value)
    | none => none

/-! ## Conditions of the next page -/

/-- The cursor's value of a field, null where it has none. -/
def value (cursor : Cursor) (field : String) : Json := (cursor.last.find? field).getD .null

/-- The field has the cursor's value. -/
def tie (cursor : Cursor) (key : SortKey) : Filter :=
  ⟨key.field, .equal, [cursor.value key.field]⟩

/-- The field lies past the cursor's value. -/
def past (cursor : Cursor) (key : SortKey) : Filter :=
  ⟨key.field, if key.descending then .lessThan else .greaterThan, [cursor.value key.field]⟩

/-- One condition for each key: ties in all keys before it, and past the cursor in
this one. -/
def alternatives (cursor : Cursor) : List SortKey → List Condition
  | [] => []
  | key :: rest =>
    [cursor.past key] :: (alternatives cursor rest).map fun condition =>
      cursor.tie key :: condition

/-- The conditions that the documents after the cursor satisfy; a cursor without
values has none. -/
def conditions (cursor : Cursor) (keys : List SortKey) : List Condition :=
  if cursor.last.isEmpty then [] else cursor.alternatives keys

/-! ## Tokens -/

/-- The name of the nonce in a token. -/
def nonceField : String := "nonce"

/-- The name of the values in a token. -/
def lastField : String := "last_object"

/-- The members of the token's object; what is empty is left out. -/
def tokenMembers (cursor : Cursor) : List (String × Json) :=
  (if cursor.nonce.isEmpty then [] else [(nonceField, .str cursor.nonce)]) ++
    (if cursor.last.isEmpty then [] else [(lastField, .obj cursor.last.entries)])

/-- The token of a cursor. -/
def encode (cursor : Cursor) : String :=
  String.ofList (Text.Base64Url.encode (Text.Utf8.encode (Json.obj cursor.tokenMembers).render))

/-- How deep the values of a token nest at most: the token and its object of values
are two of the levels that JSON text may have. -/
def valueDepth : Nat := Json.maxDepth - 2

open Json.Input (skipBlanks after?)
open Json.Reader

/-- Reads one field of a token.  A field that comes again is refused, and one of
another name is skipped. -/
def readField (name : String) (found : Option String × Option (Dict Json))
    (input : Json.Input) : Option ((Option String × Option (Dict Json)) × Json.Input) :=
  if name = nonceField then do
    if found.1.isSome then none
    else
      let (nonce, rest) ← stringValue? input
      some ((some nonce, found.2), rest)
  else if name = lastField then
    if found.2.isSome then none
    else do
      let (members, rest) ← objectValue? valueDepth input
      some ((found.1, some (Dict.ofList members)), rest)
  else (skip input).map (found, ·)

/-- Reads the items of a token that is an array: at most the nonce and the values. -/
def readItems (input : Json.Input) : Option (Cursor × Json.Input) :=
  match skipBlanks input with
  | some ']' :: rest => some (empty, rest)
  | rest => do
    let (nonce, rest) ← stringValue? rest
    match skipBlanks rest with
    | some ']' :: rest => some (⟨nonce, Dict.empty⟩, rest)
    | some ',' :: rest => closed do
      let (members, rest) ← objectValue? valueDepth rest
      some (⟨nonce, Dict.ofList members⟩, rest)
    | _ => none

/-- Reads the JSON of a token; null is no cursor. -/
def readToken (input : Json.Input) : Option (Option Cursor × Json.Input) :=
  match skipBlanks input with
  | some 'n' :: rest => (after? ['u', 'l', 'l'] rest).map (none, ·)
  | some '\x7b' :: rest => do
    let ((nonce, last), rest) ← record readField (none, none) rest
    some (some ⟨nonce.getD "", last.getD Dict.empty⟩, rest)
  | some '[' :: rest => do
    let (cursor, rest) ← readItems rest
    some (some cursor, rest)
  | _ => none

/-- The name of the parameter that carries a token. -/
def parameter : String := "_token"

/-- Reads a token; the empty one is no cursor. -/
def decode (token : String) : Except RequestError (Option Cursor) :=
  if token.isEmpty then .ok none
  else
    match Text.Base64Url.decode token.toList with
    | none => .error (.malformedParameter parameter)
    | some bytes =>
      match complete (readToken (Text.Utf8.decode bytes)) with
      | none => .error (.malformedParameter parameter)
      | some cursor => .ok cursor

end Cursor
end DocStore
