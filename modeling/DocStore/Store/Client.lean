import DocStore.StoreError

/-!
# Clients

A client names its transaction.  Before the store is asked anything, the client must
have begun one.
-/

namespace DocStore

/-- Why a client gets no answer from a transaction. -/
inductive ClientError where
  /-- Another transaction is open. -/
  | blocked
  /-- The client has no transaction. -/
  | noTransaction
  /-- The store refuses. -/
  | store (error : StoreError)
  deriving DecidableEq, Repr

end DocStore
