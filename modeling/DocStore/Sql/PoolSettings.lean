import DocStore.StoreError
import DocStore.Text.Numeral
import DocStore.Url.Reader

/-!
# Settings of connection pools

A connection string carries the settings of the pool among the pairs of its query.
They are taken out of the string that goes to the server.
-/

namespace DocStore
namespace Sql

/-- The settings of a pool; times are in seconds. -/
structure PoolSettings where
  /-- The connection string without settings of the pool. -/
  serverUrl : String
  /-- The greatest number of connections. -/
  maxConnections : Nat
  /-- The least number of connections. -/
  minConnections : Nat
  /-- How long to wait for a connection. -/
  connectTimeout : Nat
  /-- How long an operation may take. -/
  queryTimeout : Nat
  /-- How long a check of the server may take. -/
  healthTimeout : Nat
  deriving DecidableEq, Repr

namespace PoolSettings

/-- The settings of a connection string that names none. -/
def plain (serverUrl : String) : PoolSettings := ⟨serverUrl, 10, 1, 30, 30, 5⟩

/-- A setting that a connection string can name. -/
inductive Parameter where
  | maxConnections
  | minConnections
  | connectTimeout
  | queryTimeout
  deriving DecidableEq, Repr

namespace Parameter

/-- Every parameter. -/
def every : List Parameter := [maxConnections, minConnections, connectTimeout, queryTimeout]

/-- The name of a parameter. -/
def name : Parameter → String
  | maxConnections => "max_connections"
  | minConnections => "min_connections"
  | connectTimeout => "connect_timeout"
  | queryTimeout => "query_timeout"

/-- The parameter of a name. -/
def ofName? (text : String) : Option Parameter := every.find? fun parameter => parameter.name = text

/-- The greatest value: counts have 32 bits, times 64. -/
def greatest : Parameter → Nat
  | maxConnections => Text.Numeral.max32
  | minConnections => Text.Numeral.max32
  | connectTimeout => Text.Numeral.max64
  | queryTimeout => Text.Numeral.max64

end Parameter

/-- Whether a pair of a query is a setting of the pool. -/
def isParameter (name : String) : Bool := (Parameter.ofName? name).isSome

/-- Gives a setting its value. -/
def assign (settings : PoolSettings) (value : Nat) : Parameter → PoolSettings
  | .maxConnections => { settings with maxConnections := value }
  | .minConnections => { settings with minConnections := value }
  | .connectTimeout => { settings with connectTimeout := value }
  | .queryTimeout => { settings with queryTimeout := value }

/-- Takes in a pair of the query. -/
def addPair (settings : PoolSettings) (pair : String × String) : Except StoreError PoolSettings :=
  match Parameter.ofName? pair.1 with
  | none => .ok settings
  | some parameter =>
    match Text.Numeral.readNat parameter.greatest pair.2.toList with
    | .ok value => .ok (settings.assign value parameter)
    | .error _ => .error (.invalidUrl "postgres" (pair.1 ++ "=" ++ pair.2))

/-- Reads the settings of a connection string; of several values of one setting the last
counts. -/
def ofUrl (url : Url) : Except StoreError PoolSettings :=
  let retained := url.queryPairs.filter fun pair => !isParameter pair.1
  url.queryPairs.foldlM addPair (plain (url.withPairsOrNone retained).toText)

/-- Settings as shown to people, without the connection string and its secrets. -/
def describe (settings : PoolSettings) : String :=
  let field (name : String) (value : Nat) := name ++ ": " ++ String.ofList (Text.Numeral.showNat value)
  "PostgresConfig \x7b database_url: \"[REDACTED]\", " ++
    ", ".intercalate [
      field "max_connections" settings.maxConnections,
      field "min_connections" settings.minConnections,
      field "connect_timeout_secs" settings.connectTimeout,
      field "query_timeout_secs" settings.queryTimeout,
      field "health_check_timeout_secs" settings.healthTimeout] ++ " \x7d"

end PoolSettings
end Sql
end DocStore
