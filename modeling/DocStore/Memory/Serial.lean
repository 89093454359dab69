import DocStore.Dict
import DocStore.Memory.Documents
import DocStore.Memory.Grants
import DocStore.Store.Client

/-!
# Serial transactions

A store in memory has one lock.  A client that begins a transaction holds it until it
commits, rolls back or gives up; until then no other transaction can begin.  A
transaction is used once: after its commit or rollback it is finished.
-/

namespace DocStore

/-- How transactions work on the content of a store. -/
structure Engine where
  /-- What stays from transaction to transaction. -/
  Content : Type
  /-- The work of one transaction. -/
  Session : Type
  /-- The operations. -/
  Op : Type
  /-- What operations answer. -/
  Answer : Type
  /-- Begins a transaction. -/
  start : Content → Session
  /-- What a commit leaves. -/
  commit : Session → Content
  /-- What a rollback leaves. -/
  undo : Session → Content
  /-- Runs one operation. -/
  run : Session → Surroundings → Op → Outcome StoreError Session Answer

/-- Transactions on documents; the count of identifiers handed out outlives a rollback. -/
def documentEngine : Engine where
  Content := Holdings × Nat
  Session := DocumentSession
  Op := DocumentOp
  Answer := DocumentAnswer
  start content := DocumentSession.start content.1 content.2
  commit session := (session.holdings, session.minted)
  undo session := (session.undo, session.minted)
  run session surroundings op := session.run surroundings op

/-- Transactions on grants. -/
def grantEngine : Engine where
  Content := GrantTables
  Session := GrantSession
  Op := GrantOp
  Answer := GrantAnswer
  start := GrantSession.start
  commit session := session.tables
  undo session := session.undo
  run session _ op := .ok (session.run op)

/-- The lock of a store. -/
inductive Lock (engine : Engine) where
  /-- No transaction is open. -/
  | free (content : engine.Content)
  /-- A client's transaction is open. -/
  | held (client : String) (session : engine.Session)

/-- A store with its lock and the clients that have a transaction, open or finished. -/
structure SerialStore (engine : Engine) where
  lock : Lock engine
  clients : NameSet

namespace SerialStore

variable {engine : Engine}

/-- A store before its first transaction. -/
def start (content : engine.Content) : SerialStore engine := ⟨.free content, Dict.empty⟩

/-- The open session of a client. -/
def session (store : SerialStore engine) (client : String) :
    Except ClientError engine.Session :=
  if store.clients.contains client then
    match store.lock with
    | .held holder session => if holder = client then .ok session else .error (.store .finished)
    | .free _ => .error (.store .finished)
  else .error .noTransaction

/-- Begins a transaction. -/
def begin (store : SerialStore engine) (client : String) :
    Except ClientError (SerialStore engine) :=
  match store.lock with
  | .free content => .ok ⟨.held client (engine.start content), store.clients.add client⟩
  | .held _ _ => .error .blocked

/-- Runs one operation in a client's transaction, which goes on with what the operation
leaves, be it an answer or an error. -/
def run (store : SerialStore engine) (client : String) (surroundings : Surroundings)
    (op : engine.Op) : Outcome ClientError (SerialStore engine) engine.Answer :=
  match store.session client with
  | .error error => .error (error, store)
  | .ok session =>
    match engine.run session surroundings op with
    | .ok (answer, session) => .ok (answer, { store with lock := .held client session })
    | .error (error, session) =>
      .error (.store error, { store with lock := .held client session })

/-- Keeps what a client's transaction did. -/
def commit (store : SerialStore engine) (client : String) :
    Except ClientError (SerialStore engine) := do
  let session ← store.session client
  return { store with lock := .free (engine.commit session) }

/-- Undoes what a client's transaction did. -/
def rollback (store : SerialStore engine) (client : String) :
    Except ClientError (SerialStore engine) := do
  let session ← store.session client
  return { store with lock := .free (engine.undo session) }

/-- A client gives up its transaction: one that is still open is undone.  Tells whether
there was one. -/
def drop (store : SerialStore engine) (client : String) : Bool × SerialStore engine :=
  if store.clients.contains client then
    match store.rollback client with
    | .ok store => (true, { store with clients := store.clients.erase client })
    | .error _ => (true, { store with clients := store.clients.erase client })
  else (false, store)

end SerialStore
end DocStore
