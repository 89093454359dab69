import DocStore.Json.Basic
import DocStore.Settings.LogLevel
import DocStore.Text.Blank
import DocStore.Text.Quoted
import DocStore.Url.Reader

/-!
# Server settings

What a server is told when it starts: where it keeps documents, grants and one-time
words, how it pages, and what it logs.  Settings are checked before they are used.
-/

namespace DocStore

/-- Where a store is kept.  Times are in seconds. -/
structure BackendSettings where
  /-- The connection string. -/
  url : String
  /-- The greatest number of connections to a server. -/
  maxConnections : Nat
  /-- How long to wait for a connection. -/
  connectTimeout : Nat
  /-- How long an operation may take. -/
  queryTimeout : Nat
  deriving DecidableEq, Repr

/-- Where one-time words are kept. -/
structure CacheSettings where
  /-- The connection string. -/
  url : String
  deriving DecidableEq, Repr

/-- How listings are paged. -/
structure PagingSettings where
  /-- The greatest number of documents on a page. -/
  maxLimit : Nat
  /-- How long a one-time word is valid, in seconds. -/
  tokenValidity : Nat
  deriving DecidableEq, Repr

/-- What is logged. -/
structure LoggingSettings where
  /-- The name or number of the level. -/
  level : String
  /-- Whether events are written as JSON. -/
  json : Bool
  /-- Whether the end of a span is an event. -/
  spans : Bool
  deriving DecidableEq, Repr

/-- All settings of a server. -/
structure ServerSettings where
  storage : BackendSettings
  permission : BackendSettings
  cache : CacheSettings
  paging : PagingSettings
  logging : LoggingSettings
  deriving DecidableEq, Repr

/-- The connection string of memory. -/
def memoryUrl : String := "memory:"

/-- A store in memory. -/
def BackendSettings.standard : BackendSettings := ⟨memoryUrl, 10, 5, 30⟩

/-- One-time words in memory. -/
def CacheSettings.standard : CacheSettings := ⟨memoryUrl⟩

/-- Large pages and one-time words of ten minutes. -/
def PagingSettings.standard : PagingSettings := ⟨10000, 600⟩

/-- Plain events from the middle level on. -/
def LoggingSettings.standard : LoggingSettings := ⟨"info", false, false⟩

/-- The settings of a server that is told nothing. -/
def ServerSettings.standard : ServerSettings :=
  ⟨.standard, .standard, .standard, .standard, .standard⟩

/-! ## Errors -/

/-- Why there are no settings. -/
inductive SettingsError where
  /-- A source of settings cannot be read, or a setting has the wrong type. -/
  | unreadable
  /-- A table of a file has a key that is no name, such as a list. -/
  | namelessKey
  /-- The file does not exist. -/
  | fileNotFound (path : String)
  /-- A setting does not make sense. -/
  | invalid (message : String)
  deriving DecidableEq, Repr

/-- The wording of an error. -/
def SettingsError.message : SettingsError → String
  | unreadable => "failed to load configuration"
  | namelessKey => "internal error: entered unreachable code"
  | fileNotFound path => "configuration file not found: " ++ path
  | invalid message => "invalid configuration: " ++ message

/-! ## Checks -/

/-- The greatest validity of a one-time word: a day. -/
def PagingSettings.maxTokenValidity : Nat := 24 * 60 * 60

/-- The level that a text names. -/
def readLevel (text : String) : Except SettingsError LogLevel :=
  match LogLevel.ofText? text with
  | some level => .ok level
  | none => .error (.invalid ("logging.level " ++ Text.Quoted.quote text ++ " is not a log level"))

/-- Checks a connection string; the key names it. -/
def checkUrl (key url : String) : Except SettingsError Unit :=
  if (Text.trim url.toList).isEmpty then .error (.invalid (key ++ " is required"))
  else
    match Url.ofText url with
    | .ok _ => .ok ()
    | .error failure =>
      .error (.invalid (key ++ " is not a connection string: " ++ failure.message))

/-- Checks the settings of a store; the section names them. -/
def BackendSettings.check (settings : BackendSettings) (place : String) :
    Except SettingsError Unit := do
  checkUrl (place ++ ".url") settings.url
  if settings.maxConnections = 0 then
    throw (.invalid (place ++ ".max_connections must be greater than 0"))

/-- Checks how listings are paged. -/
def PagingSettings.check (settings : PagingSettings) : Except SettingsError Unit := do
  let shown (n : Nat) := String.ofList (Text.Numeral.showNat n)
  if settings.maxLimit = 0 then
    throw (.invalid "pagination.max_limit must be greater than 0")
  if settings.tokenValidity = 0 ∨ maxTokenValidity < settings.tokenValidity then
    throw (.invalid ("pagination.token_validity_secs must be between 1 and " ++
      shown maxTokenValidity ++ ", got " ++ shown settings.tokenValidity))

/-- Checks what is logged. -/
def LoggingSettings.check (settings : LoggingSettings) : Except SettingsError Unit := do
  let _ ← readLevel settings.level

/-- Checks all settings; the first fault counts. -/
def ServerSettings.check (settings : ServerSettings) : Except SettingsError Unit := do
  settings.storage.check "storage"
  settings.permission.check "permission"
  checkUrl "cache.url" settings.cache.url
  settings.paging.check
  settings.logging.check

/-! ## As JSON -/

/-- The settings of a store as JSON. -/
def BackendSettings.toJson (settings : BackendSettings) : Json :=
  .obj [("connect_timeout_secs", .int settings.connectTimeout),
    ("max_connections", .int settings.maxConnections),
    ("query_timeout_secs", .int settings.queryTimeout), ("url", .str settings.url)]

/-- How listings are paged, as JSON. -/
def PagingSettings.toJson (settings : PagingSettings) : Json :=
  .obj [("max_limit", .int settings.maxLimit),
    ("token_validity_secs", .int settings.tokenValidity)]

/-- All settings as JSON. -/
def ServerSettings.toJson (settings : ServerSettings) : Json :=
  .obj [("cache", .obj [("url", .str settings.cache.url)]),
    ("logging", .obj [("json", .bool settings.logging.json),
      ("level", .str settings.logging.level), ("spans", .bool settings.logging.spans)]),
    ("pagination", settings.paging.toJson),
    ("permission", settings.permission.toJson),
    ("storage", settings.storage.toJson)]

end DocStore
