import DocStore.Sql.Conversation
import DocStore.Text.Blank
import DocStore.Text.Quoted

/-!
# Schemas

The tables of a kind of store are defined once.  A table of their own names the version
that was set up; tables of a newer version are left alone.
-/

namespace DocStore
namespace Sql

/-- What a kind of store needs on a server. -/
structure Schema where
  /-- The name under which the version is noted. -/
  versionName : String
  /-- The version. -/
  version : Int
  /-- The definitions, each with its task. -/
  definitions : List (String × Statement)

/-- The table of versions. -/
def versionTable : String := "metainfo"

/-- Defines the table of versions. -/
def createVersionTable : Statement :=
  .createTable versionTable ["name TEXT PRIMARY KEY", "value TEXT NOT NULL"]

/-- Reads a version. -/
def selectVersion (name : String) : Statement :=
  .select {
    items := [.column "value"]
    source := versionTable
    condition := Expr.columnIs "name" name }

/-- Notes a version. -/
def writeVersion (name version : String) : Statement :=
  .insert versionTable ["name", "value"] [[.bound (.text name), .bound (.text version)]]
    (.change ["name"] [("value", .columnOf "EXCLUDED" "value")] none) none

/-- The schema of documents. -/
def documentSchema : Schema where
  versionName := "storage_schema_version"
  version := 1
  definitions := [
    ("create storage_objects table",
      .createTable "storage_objects" ["path TEXT NOT NULL", "id TEXT NOT NULL",
        "data JSONB NOT NULL DEFAULT '\x7b\x7d'", "last_modified BIGINT NOT NULL",
        "deleted BOOLEAN NOT NULL DEFAULT FALSE", "PRIMARY KEY (path, id)"]),
    ("create listing index",
      .createIndex "idx_storage_objects_path_last_modified" "storage_objects"
        "(path, last_modified DESC)"),
    ("create tombstone index",
      .createIndex "idx_storage_objects_tombstones" "storage_objects"
        "(last_modified) WHERE deleted"),
    ("create storage_timestamps table",
      .createTable "storage_timestamps" ["path TEXT PRIMARY KEY",
        "last_modified BIGINT NOT NULL"])]

/-- The schema of grants. -/
def grantSchema : Schema where
  versionName := "permission_schema_version"
  version := 1
  definitions := [
    ("create permission_paths table",
      .createTable "permission_paths" ["path TEXT NOT NULL", "permission TEXT NOT NULL",
        "principal TEXT NOT NULL", "PRIMARY KEY (path, permission, principal)"]),
    ("create permission lookup index",
      .createIndex "idx_permission_paths_principal" "permission_paths"
        "(principal, permission)"),
    ("create permission_principals table",
      .createTable "permission_principals" ["user_id TEXT NOT NULL",
        "principal TEXT NOT NULL", "PRIMARY KEY (user_id, principal)"])]

namespace Schema

open Conversation

/-- The error of a task that sets up tables. -/
def taskError (task cause : String) : StoreError := .migration (failure task cause)

/-- Sends a statement that serves a task. -/
def perform (task : String) (statement : Statement) : Talk (List Row) := do
  let done ← send (taskError task) (.statement statement)
  return done.1

/-- Reads the text of a version. -/
def readVersion (schema : Schema) (raw : String) : Except StoreError Int :=
  match Text.Numeral.readInt (1 <<< 31) (1 <<< 31 - 1) (Text.trim raw.toList) with
  | .ok version => .ok version
  | .error reason =>
    .error (.migration ("Invalid " ++ schema.versionName ++ " " ++ Text.Quoted.quote raw ++
      ": " ++ reason.message))

/-- The version that is set up; none is version zero. -/
def presentVersion (schema : Schema) : Talk Int := do
  let _ ← perform "create metainfo table" createVersionTable
  let task := "read " ++ schema.versionName
  match ← perform task (selectVersion schema.versionName) with
  | [] => return 0
  | row :: _ =>
    match single textCell row with
    | .ok raw => .finish (schema.readVersion raw)
    | .error cause => fail (taskError task cause)

/-- Defines tables, one after the other. -/
def define : List (String × Statement) → Talk Unit
  | [] => pure ()
  | (task, statement) :: rest => do
    let _ ← perform task statement
    define rest

/-- Sets up the tables, unless they are there already. -/
def prepare (schema : Schema) : Talk Unit := do
  let present ← schema.presentVersion
  if schema.version < present then
    fail (.migration (schema.versionName ++ " " ++ String.ofList (Text.Numeral.showInt present) ++
      " is newer than supported version " ++
      String.ofList (Text.Numeral.showInt schema.version)))
  else if present = schema.version then return
  else
    define schema.definitions
    let _ ← perform ("store " ++ schema.versionName)
      (writeVersion schema.versionName (String.ofList (Text.Numeral.showInt schema.version)))

end Schema
end Sql
end DocStore
