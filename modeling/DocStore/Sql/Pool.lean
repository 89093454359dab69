import DocStore.Dict
import DocStore.Sql.Conversation
import DocStore.Sql.PoolSettings
import DocStore.Store.Client

/-!
# Connection pools

A pool opens a transaction on the server for each client that begins one.  Like every
transaction it is used once: a commit or rollback ends it even where the server refuses,
and from then on nothing is sent for it.
-/

namespace DocStore
namespace Sql

/-- A pool of connections with the transactions of its clients. -/
structure Pool where
  /-- How long an operation may take, in milliseconds. -/
  queryLimit : Nat
  /-- How long a check of the server may take, in milliseconds. -/
  healthLimit : Nat
  /-- Whether the pool is closed. -/
  closed : Bool
  /-- The clients that have a transaction, each with whether it is open. -/
  transactions : Dict Bool
  /-- How many identifiers were handed out. -/
  minted : Nat

namespace Pool

open Conversation

/-- A pool before its first transaction. -/
def start (settings : PoolSettings) : Pool :=
  ⟨settings.queryTimeout * 1000, settings.healthTimeout * 1000, false, Dict.empty, 0⟩

/-- How it is said that the pool is closed. -/
def closedText : String := "attempted to acquire a connection on a closed pool"

/-- The error of beginning or ending a transaction. -/
def boundaryError (task cause : String) : StoreError := .transaction (failure task cause)

/-- The error of a server that does not answer a check. -/
def pingError (cause : String) : StoreError := .connection ("database ping failed: " ++ cause)

/-- Checks that the server answers. -/
def ping (pool : Pool) : Talk Unit :=
  if pool.closed then fail (pingError closedText)
  else
    within "ping" pool.healthLimit do
      let _ ← send pingError (.statement (.select { items := [.number 1] }))

/-- Closes the pool to new transactions. -/
def close (pool : Pool) : Pool := { pool with closed := true }

/-- Begins a client's transaction. -/
def begin (pool : Pool) (client : String) : Talk Pool :=
  if pool.closed then fail (boundaryError "begin transaction" closedText)
  else do
    let _ ← send (boundaryError "begin transaction") .begin
    return { pool with transactions := pool.transactions.insert client true }

/-- Whether a client's transaction is open. -/
def check (pool : Pool) (client : String) : Except ClientError Unit :=
  match pool.transactions.find? client with
  | some true => .ok ()
  | some false => .error (.store .finished)
  | none => .error .noTransaction

/-- The pool when a client's transaction is over. -/
def finish (pool : Pool) (client : String) : Pool :=
  { pool with transactions := pool.transactions.insert client false }

/-- Commits a client's transaction, which is over whatever the server replies. -/
def commit (pool : Pool) (client : String) : Except ClientError (Talk Unit × Pool) := do
  pool.check client
  let talk : Talk Unit := do
    let _ ← send (boundaryError "commit transaction") .commit
  return (talk, pool.finish client)

/-- Rolls a client's transaction back, which is over whatever the server replies. -/
def rollback (pool : Pool) (client : String) : Except ClientError (Talk Unit × Pool) := do
  pool.check client
  let talk : Talk Unit := do
    let _ ← send (boundaryError "roll back transaction") .rollback
  return (talk, pool.finish client)

/-- Holds a conversation in a client's open transaction; `takesId` tells whether an
identifier is handed out for it. -/
def run {α : Type} (pool : Pool) (client : String) (takesId : Bool) (talk : Nat → Talk α) :
    Except ClientError (Talk α × Pool) := do
  pool.check client
  return (talk pool.minted, { pool with minted := pool.minted + takesId.toNat })

/-- A client gives up its transaction.  Tells whether there was one. -/
def drop (pool : Pool) (client : String) : Bool × Pool :=
  (pool.transactions.contains client,
    { pool with transactions := pool.transactions.erase client })

end Pool
end Sql
end DocStore
