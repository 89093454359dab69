import DocStore.Memory.Serial
import DocStore.Registry
import DocStore.Sql.Documents
import DocStore.Sql.Grants
import DocStore.Sql.Pool
import DocStore.Sql.Schema
import DocStore.Sql.ServerUrl

/-!
# Backends

A backend keeps documents or grants in memory or on a server.  Either way its operations
are conversations; those in memory are over before they begin.
-/

namespace DocStore

open Sql (Talk Conversation)

/-- A kind of store, with what memory and servers need to know of it. -/
structure Family where
  /-- Its transactions in memory. -/
  engine : Engine
  /-- A store in memory without content. -/
  blank : engine.Content
  /-- Its connection strings. -/
  registry : Registry Registry.Place
  /-- Its tables on a server. -/
  schema : Sql.Schema
  /-- Whether an operation takes an identifier that is handed out. -/
  takesId : engine.Op → Bool
  /-- The conversation of an operation, from its time limit, the clock and the next
  identifier. -/
  talk : Nat → Epoch → String → engine.Op → Talk engine.Answer

/-- Stores of documents. -/
def documentFamily : Family where
  engine := documentEngine
  blank := (Holdings.empty, 0)
  registry := Registry.documents
  schema := Sql.documentSchema
  takesId := Sql.takesId
  talk := Sql.documentTalk

/-- Stores of grants. -/
def grantFamily : Family where
  engine := grantEngine
  blank := GrantTables.empty
  registry := Registry.grants
  schema := Sql.grantSchema
  takesId _ := false
  talk limit _ _ op := Sql.grantTalk limit op

/-- A store that is kept somewhere. -/
inductive Backend (family : Family) where
  /-- In memory. -/
  | memory (store : SerialStore family.engine)
  /-- On a server. -/
  | server (pool : Sql.Pool)

/-- What a conversation leaves: its answer, and the backend. -/
abbrev Step (family : Family) (α : Type) := Except ClientError (Talk α × Backend family)

namespace Backend

variable {family : Family}

/-- An answer that is there already. -/
def settled {α : Type} (answer : α) (store : SerialStore family.engine) : Step family α :=
  .ok (pure answer, .memory store)

/-- A conversation with a server. -/
def asked {α : Type} : Except ClientError (Talk α × Sql.Pool) → Step family α
  | .ok (talk, pool) => .ok (talk, .server pool)
  | .error error => .error error

/-- Connects the store that a connection string names and sets it up. -/
def connect (family : Family) (text : String) : Talk (Backend family) :=
  match family.registry.select text with
  | .error error => Conversation.fail error
  | .ok (.memory, _) => pure (memory (SerialStore.start family.blank))
  | .ok (.server, url) =>
    match Sql.PoolSettings.ofUrl url, Sql.ServerUrl.check url with
    | .error error, _ => Conversation.fail error
    | .ok _, .error fault => Conversation.fail (Sql.ServerUrl.connectionError fault)
    | .ok settings, .ok _ => do
      family.schema.prepare
      return server (Sql.Pool.start settings)

/-- Checks that the store answers. -/
def ping : Backend family → Talk Unit
  | memory _ => pure ()
  | server pool => pool.ping

/-- Closes the store; one in memory does not mind. -/
def close : Backend family → Backend family
  | memory store => memory store
  | server pool => server pool.close

/-- Begins a client's transaction. -/
def begin (client : String) : Backend family → Conversation ClientError (Backend family)
  | memory store =>
    match store.begin client with
    | .ok store => pure (memory store)
    | .error error => Conversation.fail error
  | server pool => do
    match ← (pool.begin client).attempt with
    | .ok pool => return server pool
    | .error error => Conversation.fail (.store error)

/-- Commits a client's transaction. -/
def commit (client : String) : Backend family → Step family Unit
  | memory store => (store.commit client).bind (settled ())
  | server pool => asked (pool.commit client)

/-- Rolls a client's transaction back. -/
def rollback (client : String) : Backend family → Step family Unit
  | memory store => (store.rollback client).bind (settled ())
  | server pool => asked (pool.rollback client)

/-- Runs one operation in a client's transaction. -/
def run (client : String) (surroundings : Surroundings) (op : family.engine.Op) :
    Backend family → Step family family.engine.Answer
  | memory store =>
    match store.run client surroundings op with
    | .ok (answer, store) => settled answer store
    | .error (.store error, store) => .ok (Conversation.fail error, memory store)
    | .error (error, _) => .error error
  | server pool =>
    asked (pool.run client (family.takesId op) fun minted =>
      family.talk pool.queryLimit surroundings.now (surroundings.ids minted) op)

/-- A client gives up its transaction.  Tells whether there was one. -/
def drop (client : String) : Backend family → Bool × Backend family
  | memory store =>
    let (had, store) := store.drop client
    (had, memory store)
  | server pool =>
    let (had, pool) := pool.drop client
    (had, server pool)

/-- Whether a client has a transaction, open or finished. -/
def serves (client : String) : Backend family → Bool
  | memory store => store.clients.contains client
  | server pool => pool.transactions.contains client

end Backend
end DocStore
