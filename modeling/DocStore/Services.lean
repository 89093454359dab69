import DocStore.Backend
import DocStore.Cache
import DocStore.Settings.Basic

/-!
# Services

A server keeps documents, grants and one-time words.  A request works in a pair of
transactions, one on the documents and one on the grants, which begin and end together.
-/

namespace DocStore

open Sql (Talk Conversation)

/-- Appends the settings of the pool to the connection string of a server, unless it has
them already. -/
def BackendSettings.fullUrl (settings : BackendSettings) : String :=
  match Url.ofText settings.url with
  | .error _ => settings.url
  | .ok url =>
    if Registry.documents.entries.find? url.scheme = some .server then
      let present := url.queryPairs.map (·.1)
      let shown (n : Nat) := String.ofList (Text.Numeral.showNat n)
      let added := [
        ("max_connections", shown settings.maxConnections),
        ("connect_timeout", shown settings.connectTimeout),
        ("query_timeout", shown settings.queryTimeout)].filter fun pair =>
          !present.contains pair.1
      (url.appendQueryPairs added).toText
    else settings.url

/-- Everything that a server is connected to. -/
structure Services where
  /-- The documents. -/
  documents : Backend documentFamily
  /-- The grants. -/
  grants : Backend grantFamily
  /-- The one-time words. -/
  cache : Cache
  /-- How listings are paged. -/
  paging : PagingSettings
  /-- The clients that have a pair of transactions. -/
  pairs : NameSet

namespace Services

/-- Connects the cache that a connection string names. -/
def connectCache (text : String) : Except StoreError Cache :=
  (Registry.caches.select text).map fun _ => Cache.empty

/-- Connects everything that settings name. -/
def connect (settings : ServerSettings) : Talk Services := do
  let documents ← Backend.connect documentFamily settings.storage.fullUrl
  let grants ← Backend.connect grantFamily settings.permission.fullUrl
  match connectCache settings.cache.url with
  | .ok cache => return ⟨documents, grants, cache, settings.paging, Dict.empty⟩
  | .error error => Conversation.fail error

/-- Checks that the stores answer. -/
def ping (services : Services) : Talk Unit := do
  services.documents.ping
  services.grants.ping

/-- Closes the stores. -/
def close (services : Services) : Services :=
  { services with documents := services.documents.close, grants := services.grants.close }

/-! ## Pairs of transactions -/

/-- Begins a client's pair of transactions.  Where the grants cannot begin, the documents
are rolled back, whatever becomes of that. -/
def begin (services : Services) (client : String) : Conversation ClientError Services := do
  let documents ← services.documents.begin client
  match ← (services.grants.begin client).attempt with
  | .ok grants =>
    return { services with documents, grants, pairs := services.pairs.add client }
  | .error .blocked => Conversation.fail .blocked
  | .error error =>
    match documents.rollback client with
    | .ok (talk, _) =>
      let _ ← (talk.attempt : Conversation ClientError (Except StoreError Unit))
      Conversation.fail error
    | .error _ => Conversation.fail error

/-- Ends one transaction and takes the result, error or not, as a value. -/
def settle {family : Family} (backend : Backend family) :
    Step family Unit → Conversation ClientError (Except ClientError Unit) × Backend family
  | .ok (talk, after) => ((·.mapError ClientError.store) <$> talk.attempt, after)
  | .error error => (pure (.error error), backend)

/-- Ends both transactions of a client, each whatever becomes of the other.  The first
error counts. -/
def finish (services : Services) (client : String)
    (documents : Step documentFamily Unit) (grants : Step grantFamily Unit) :
    Conversation ClientError Unit × Services :=
  let (endDocuments, documentsAfter) := settle services.documents documents
  let (endGrants, grantsAfter) := settle services.grants grants
  let talk : Conversation ClientError Unit := do
    let first ← endDocuments
    let second ← endGrants
    .finish (first.bind fun _ => second)
  (talk, {
    services with
    documents := (documentsAfter.drop client).2
    grants := (grantsAfter.drop client).2
    pairs := services.pairs.erase client })

/-- Commits a client's pair of transactions. -/
def commit (services : Services) (client : String) : Conversation ClientError Unit × Services :=
  if services.pairs.contains client then
    services.finish client (services.documents.commit client) (services.grants.commit client)
  else (Conversation.fail .noTransaction, services)

/-- Rolls a client's pair of transactions back. -/
def rollback (services : Services) (client : String) :
    Conversation ClientError Unit × Services :=
  if services.pairs.contains client then
    services.finish client (services.documents.rollback client) (services.grants.rollback client)
  else (Conversation.fail .noTransaction, services)

/-- A client gives up its pair of transactions.  Tells whether there was one. -/
def drop (services : Services) (client : String) : Bool × Services :=
  (services.pairs.contains client, {
    services with
    documents := (services.documents.drop client).2
    grants := (services.grants.drop client).2
    pairs := services.pairs.erase client })

/-! ## One-time words -/

/-- The beginning of every one-time word. -/
def wordStart : String := "pagination-token-"

/-- Issues the one-time word that ends in the given text, which is taken to be new. -/
def issue (services : Services) (ending : String) : String × Services :=
  let word := wordStart ++ ending
  let lifetime := services.paging.tokenValidity * 1000
  (word, { services with cache := services.cache.set word (Text.Utf8.encode "1") lifetime })

/-- Spends a one-time word. -/
def spend (services : Services) (word : String) : Except StoreError Unit × Services :=
  let (result, cache) := services.cache.spend word
  (result, { services with cache })

end Services
end DocStore
