import DocStore.Text.Duration
import DocStore.Text.Quoted

/-!
# Errors of stores

What can go wrong in a store of documents or grants or in a cache, and the wording of
each cause.  An operation that fails leaves a state behind, as one that succeeds does.
-/

namespace DocStore

/-- How an operation on a state ends: with a value or an error, and either way with the state
that it leaves. -/
abbrev Outcome (ε σ α : Type) := Except (ε × σ) (α × σ)

namespace Outcome

variable {ε σ α : Type}

/-- The value or the error. -/
def result : Outcome ε σ α → Except ε α
  | .ok (value, _) => .ok value
  | .error (error, _) => .error error

/-- The state that is left. -/
def state : Outcome ε σ α → σ
  | .ok (_, state) => state
  | .error (_, state) => state

end Outcome

/-- Why an operation of a store fails. -/
inductive StoreError where
  /-- What is asked for is not there. -/
  | notFound (path : String)
  /-- A document is to be created under an identifier that is live. -/
  | alreadyExists (path : String)
  /-- A node path stands where a leaf is needed, or the other way round. -/
  | invalidPath (path : String)
  /-- The transaction is over. -/
  | finished
  /-- A connection string cannot be read. -/
  | invalidUrl (kind url : String)
  /-- No backend is registered for a scheme. -/
  | unknownScheme (kind scheme : String)
  /-- A one-time word is unknown or was spent before. -/
  | invalidToken
  /-- The server cannot be reached. -/
  | connection (message : String)
  /-- The server refuses a statement. -/
  | query (message : String)
  /-- The server refuses to open or end a transaction. -/
  | transaction (message : String)
  /-- What the server sends cannot be decoded. -/
  | serialization (message : String)
  /-- The tables cannot be set up. -/
  | migration (message : String)
  /-- A statement takes longer than it may. -/
  | timeout (operation : String) (millis : Nat)
  deriving DecidableEq, Repr

namespace StoreError

/-- The wording of an error. -/
def message : StoreError → String
  | notFound path => "object not found: " ++ path
  | alreadyExists path => "object already exists: " ++ path
  | invalidPath path => "invalid path: " ++ path
  | finished => "transaction has already been committed or rolled back"
  | invalidUrl kind url => "invalid " ++ kind ++ " URL " ++ Text.Quoted.quote url
  | unknownScheme kind scheme => "unknown " ++ kind ++ " type " ++ Text.Quoted.quote scheme
  | invalidToken => "_token has invalid content"
  | connection message => "database connection error: " ++ message
  | query message => "query error: " ++ message
  | transaction message => "transaction error: " ++ message
  | serialization message => "serialization error: " ++ message
  | migration message => "migration error: " ++ message
  | timeout operation millis =>
    "query timeout: '" ++ operation ++ "' exceeded " ++ Text.Duration.showMillis millis

/-- Whether something is missing. -/
def isNotFound : StoreError → Bool
  | notFound _ => true
  | _ => false

end StoreError
end DocStore
